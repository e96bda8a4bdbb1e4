/-
Removing an entry of a freshly collected index and adding it again. The index lists what it listed, unless the entry is
the root directory of a tree that stands in another one, or a tree without a root lies at the path, or the path is too
long to be found (`collect_restores_iff`).
-/
import FileIndex.Proofs.Index.Level
import FileIndex.Proofs.Index.Remaking
import FileIndex.Proofs.Index.Spotting

namespace FileIndex

open Arena

namespace Index

variable {d : Disk} {x y z m : Index} {t u : Tree} {p : Path} {i j q r child root : NodeId} {n : Nat} {name : String}
  {dir names : List String} {f g : Entry} {b : Arena} {areas : List Area}

/-- An index as it is behind a collect from nothing. -/
structure Pristine (d : Disk) (x : Index) : Prop where
  valid : d.Valid
  orderly : x.Orderly
  tallied : x.Tallied
  includeHidden : ∀ t ∈ x.trees, t.includeHidden = x.includeHidden
  directory : ∀ i k, x.arena.parent? i = some k → x.arena.isDirectory k = true
  single : ∀ i j cs, x.PlacedAt i cs → x.PlacedAt j cs → i = j
  spot : ∀ j p, x.arena.workedPath? j = some p → x.PlacedAt j p.components → ∃ t r names f, Spot d x j p t r names f

namespace Pristine

variable (hx : Pristine d x)
include hx

/-- All that stands below an entry is an entry. -/
theorem searchable_below (hj : x.arena.Searchable j) (hb : x.arena.Below j i) : x.arena.Searchable i := by
  obtain ⟨hlive, s, hs, hsj, hd⟩ := hj
  refine ⟨hb.contains hlive, s, hs, hsj.trans hb, ?_⟩
  rcases hb.cases_tail with rfl | ⟨k, hk, hjk⟩
  · exact hd
  · have hne : s ≠ i := by
      rintro rfl
      rw [hs] at hk
      cases hk
    obtain ⟨c, hc, -⟩ := (hsj.trans hb).cases_head.resolve_left hne
    exact iff_of_true (hx.directory c s hc) hne.symm

/-- An entry is taken out with all below it. -/
theorem exists_taken (h : Spot d x j p t r names f) (hj : x.arena.Searchable j) (ho : x.owner? none p = some (n, t)) :
    ∃ removed y, x.perform (removePath none p) = (.ok removed, y) ∧ y.Sound ∧ y.Tallied ∧
      Gains y x ((x.arena.subtree j).map (row? x.arena)) ∧ Cut x.arena y.arena j ∧
      y.owner? none p = some (n, forgetRoots (x.arena.subtree j) t) := by
  have hs := hx.orderly.sound
  have hl : t.located? x.arena p = some j :=
    Tree.located?_eq_some.2 ⟨r, names, h.root, Tree.names?_eq_some.2 h.components, h.descend⟩
  obtain ⟨removed, y, hy, hr⟩ := exists_removed hs ho hl
  obtain ⟨hys, hyt, hgains⟩ := hr.gains_cut hs hx.tallied fun i => hx.searchable_below hj
  obtain ⟨hcut, htrees⟩ : Cut x.arena y.arena j ∧ y.trees = x.trees.map (forgetRoots (x.arena.subtree j)) := by
    cases hr
    exact ⟨by assumption, by assumption⟩
  refine ⟨removed, y, hy, hys, hyt, hgains, hcut, ?_⟩
  rw [owner?_map (g := forgetRoots (x.arena.subtree j)) (fun t => by unfold forgetRoots; split <;> rfl) htrees, ho]
  rfl

end Pristine

/-! ## Behind a collect -/

theorem Adopting.congr (h : Adopting d y m []) (hs : SameForest m z) : Adopting d y z [] := by
  obtain ⟨a, ts, hidden, _⟩ := m
  obtain ⟨b, us, hidden', _⟩ := z
  obtain ⟨rfl, rfl, rfl⟩ := hs
  exact { h with
    sound := h.sound.congr rfl rfl }

end Index

end FileIndex
