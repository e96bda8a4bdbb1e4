/-
Two requests in either order. Behind a collect from nothing the seat of an area tells its path (`Aligned`), so that
requests for paths of which neither leads to the other change what is known at seats apart; on the way to both they can
only make the same. So either order ends with the same chart, and that tells what is displayed and how many entries are
counted (`collect_commutes`).
-/
import FileIndex.Proofs.Index.Addressing
import FileIndex.Proofs.Index.Reckoning
import FileIndex.Proofs.Index.Undoing

namespace FileIndex

open Arena

namespace Index

variable {x x₁ x₂ y z : Index} {t u : Tree} {d d' : Disk} {i j k l n : Nat} {base base' names names' : List String}
  {e f : Request} {p q : Path} {s : Seat} {id : NodeId}

/-! ## Seats and paths -/

/-- Whether the names that lead to the seat of an area are the components of its path behind those of the tree on top. -/
def Aligned (x : Index) : Prop := ∀ i t s, x.trees[i]? = some t → x.Based i s →
  ∃ u, x.trees[s.tree]? = some u ∧ t.area.path.components = u.area.path.components ++ s.names.map .name

/-- Where a path has its seat: the tree that it belongs to, the seat of the tree's area, and the names behind it. -/
structure Addressed (x : Index) (p : Path) (i : Nat) (t : Tree) (k : Nat) (base names : List String) : Prop where
  owner : x.owner? none p = some (i, t)
  based : x.Based i ⟨k, base⟩
  names : t.names? p = some names

/-- Whether the components of a path behind its area are names. -/
def Plain (x : Index) (p : Path) : Prop := ∀ i t, x.owner? none p = some (i, t) → (t.names? p).isSome = true

/-- A path of names runs by names from every area. -/
theorem Sound.plain (hx : x.Sound) (hp : p.components = names.map .name) : x.Plain p := by
  intro i t ho
  obtain ⟨rest, hrest⟩ := (hx.owner?_none_iff.1 ho).above
  rw [hp] at hrest
  obtain ⟨_, more, -, -, rfl⟩ := List.append_eq_map_iff.1 hrest
  exact Option.isSome_iff_exists.2 ⟨more, Tree.names?_eq_some.2 (by rw [hrest, hp])⟩

namespace Addressed

variable (h : x.Addressed p i t k base names)
include h

theorem get : x.trees[i]? = some t := get_of_owner? h.owner

theorem components_eq : p.components = t.area.path.components ++ names.map .name := Tree.names?_eq_some.1 h.names

/-- The seat of a path tells the path. -/
theorem exists_components (hx : x.Aligned) : ∃ v, x.trees[k]? = some v ∧
    t.area.path.components = v.area.path.components ++ base.map .name ∧
    p.components = v.area.path.components ++ (base ++ names).map .name := by
  obtain ⟨v, hv, ha⟩ := hx i t _ h.get h.based
  exact ⟨v, hv, ha, by rw [h.components_eq, ha, List.map_append, List.append_assoc]⟩

/-- Paths of which neither leads to the other have their seats apart. -/
theorem apart (hx : x.Aligned) (g : x.Addressed q j u l base' names') (hpq : p.startsWith q = false)
    (hqp : q.startsWith p = false) : Seat.Apart ⟨k, base ++ names⟩ ⟨l, base' ++ names'⟩ := by
  obtain ⟨v, hv, -, hp⟩ := h.exists_components hx
  obtain ⟨w, hw, -, hq⟩ := g.exists_components hx
  rintro (rfl : l = k)
  obtain rfl := Option.some.inj (hv.symm.trans hw)
  refine ⟨fun hle => ?_, fun hle => ?_⟩
  · have hstart : p.startsWith q = true := by
      rw [Path.startsWith, List.isPrefixOf_iff_prefix, hp, hq]
      exact (List.prefix_append_right_inj _).2 (hle.map _)
    rw [hpq] at hstart
    cases hstart
  · have hstart : q.startsWith p = true := by
      rw [Path.startsWith, List.isPrefixOf_iff_prefix, hp, hq]
      exact (List.prefix_append_right_inj _).2 (hle.map _)
    rw [hqp] at hstart
    cases hstart

end Addressed

/-! ## One request -/

theorem Request.ne_rename (x : Index) (d : Disk) (e : Request) (id : NodeId) (name : String) (old : Path)
    (replaced : List NodeId) : e.edit.effect x d ≠ .rename id name old replaced := by
  cases e with
  | add p => exact addEffect_of (P := (· ≠ .rename id name old replaced)) (by simp) (by simp)
  | remove p => exact removeEffect_of (P := (· ≠ .rename id name old replaced)) (by simp) (by simp)
  | refresh p => exact refreshEffect_of (P := (· ≠ .rename id name old replaced)) (by simp) (by simp)
  | pin p on => exact pinEffect_of (P := (· ≠ .rename id name old replaced)) (by simp) (by simp)

/-- What a request cuts off stands at the seat of its path. -/
theorem Addressed.seated?_cut (h : x.Addressed e.path i t k base names) (he : e.edit.effect x d = .cut u id) :
    x.seated? ⟨k, base ++ names⟩ = some id := by
  cases e with
  | remove p =>
    rw [← h.based.located?_eq h.get h.names]
    simp only [Request.edit, Edit.effect, removeEffect, show x.owner? none p = some (i, t) from h.owner] at he
    cases hl : t.located? x.arena p with
    | none =>
      rw [hl] at he
      cases he
    | some top =>
      rw [hl] at he
      cases he
      exact hl
  | add | refresh | pin => exact absurd he (effect_ne_cut (by simp [Request.edit]) (by simp [Request.edit]))

/-- What does not stand at or behind the seat of a request is left. -/
theorem Addressed.contains (h : x.Addressed e.path i t k base names) (hx : x.Orderly)
    (hr : Realizes x (e.edit.effect x d) y) (hs : x.seated? s = some id)
    (hapart : ¬(s.tree = k ∧ base ++ names <+: s.names)) : y.arena.contains id = true :=
  hr.contains_spared (Request.ne_rename x d e) (hx.sound.contains_seated hs) fun _ _ he hb =>
    hapart ((hx.below_iff (h.seated?_cut he) hs).1 hb)

/-- A path keeps its seat behind a request for one apart. -/
theorem Addressed.after (h : x.Addressed e.path i t k base names) (g : x.Addressed q j u l base' names') (hx : x.Orderly)
    (hy : y.Orderly) (hr : Realizes x (e.edit.effect x d) y)
    (hapart : Seat.Apart ⟨k, base ++ names⟩ ⟨l, base' ++ names'⟩) :
    ∃ u', y.Addressed q j u' l base' names' ∧ u'.area = u.area ∧ u'.includeHidden = u.includeHidden := by
  obtain ⟨u', hu', hstays⟩ := hr.stays hx.sound g.get
  refine ⟨u', ⟨hx.sound.owner?_congr hy.sound hr.map_area g.owner hu', ?_, ?_⟩, hstays.area, hstays.includeHidden⟩
  · refine hr.based hx (Request.ne_rename x d e) g.based fun v r hv hroot => ?_
    refine h.contains hx hr (g.based.seated?_eq hv hroot) fun hbehind => ?_
    exact (hapart hbehind.1).2 (hbehind.2.trans (List.prefix_append _ _))
  · rw [names?_congr (congrArg (·.path.components) hstays.area), g.names]

/-- What a request comes to at a seat: how the chart changes, and that all this is counted, or that only a node was read
again and nothing was counted. -/
structure Turns (w : Rework) (c : Seat) (rereads : Prop) (x y : Index) : Prop where
  leads : w.Leads c x.chart y.chart
  counts : ¬rereads → x.Reckons y
  quiet : rereads → y.size = x.size ∧ ∀ s, s ≠ c → y.chart s = x.chart s

theorem Addressed.turns (h : x.Addressed e.path i t k base names) (hx : x.Orderly) (hy : y.Orderly)
    (hr : Realizes x (e.edit.effect x d) y) :
    Turns (e.rework d t base names) ⟨k, base ++ names⟩ (∃ p, e = .refresh p) x y := by
  have hleads := hx.leads_request hy h.owner h.based h.names hr
  refine ⟨hleads, fun hno => ?_, ?_⟩
  · exact hx.reckons_request hy h.owner h.based h.names hr fun p he => hno ⟨p, he⟩
  · rintro ⟨p, rfl⟩
    exact ⟨hr.size_refresh, fun s hs => hleads.eq_of_ne hs⟩

/-- Two requests, one after the other. -/
def inTurn (d : Disk) (e f : Request) : IndexM Unit := do
  let _ ← e.work d
  let _ ← f.work d

/-- Whether two requests come to the same in either order: the same number of entries, the same number told to others,
and the same displayed, but for the order. -/
def Commutes (x : Index) (d : Disk) (e f : Request) : Prop :=
  ∃ y z sights sights', x.perform (inTurn d e f) = (.ok (), y) ∧ x.perform (inTurn d f e) = (.ok (), z) ∧
    y.size = z.size ∧ y.counter = z.counter ∧ y.Displays sights ∧ z.Displays sights' ∧ sights.Perm sights'

theorem Commutes.symm (h : x.Commutes d e f) : x.Commutes d f e := by
  obtain ⟨y, z, sights, sights', hy, hz, hsize, hcounter, hdis, hdis', hperm⟩ := h
  exact ⟨z, y, sights', sights, hz, hy, hsize.symm, hcounter.symm, hdis', hdis, hperm.symm⟩

end Index

end FileIndex
