/-
Taking an entry out of an index and making it anew. What is made below a directory is found by searches as a whole
(`Grown.searchable_new`), what is made where a tree has no root is, too, but for a directory at its top
(`Sprouted.searchable_root`), and the listing gains as much (`exists_added_below`, `exists_added_root`).
-/
import FileIndex.Proofs.Index.Answering
import FileIndex.Proofs.Index.Gaining
import FileIndex.Proofs.Tree.Naming
import FileIndex.Proofs.Tree.Renewing

namespace FileIndex

open Arena

variable {a b : Arena} {x y z : Index} {d : Disk} {t t' : Tree} {p w : Path} {i j q r top root : NodeId} {n : Nat}
  {name : String} {dir : List String} {e f : Entry} {area : Area} {hidden : Bool}

namespace Arena

/-! ## What searches find of new nodes -/

/-- The paths of what stands below a node are longer than the path of the node. -/
theorem Mirrors.longer (hm : b.Mirrors root e) (hb : b.WellFormed) (he : e.Named) (hw : b.workedPath? root = some w)
    (hi : b.Below root i) : ∃ v, b.workedPath? i = some v ∧ w.components.length ≤ v.components.length ∧
      (i ≠ root → w.components.length < v.components.length) := by
  induction hi with
  | refl => exact ⟨w, hw, le_rfl, fun hne => absurd rfl hne⟩
  | @tail j i hj hp ih =>
    obtain ⟨v, hv, hle, -⟩ := ih
    obtain ⟨m, hm', hmp⟩ := Option.bind_eq_some_iff.1 hp
    have hne : i ≠ root := by
      rintro rfl
      exact hb.acyclic hp hj
    have hname := hm.isFileName hb he (hj.tail hp) hne (name?_of_get? hm')
    have hlonger : w.components.length < (v.child m.name).components.length := by
      rw [Path.components_child hname, List.length_append, List.length_singleton]
      omega
    exact ⟨v.child m.name, by rw [hb.workedPath?_child hm' hmp, hv]; rfl, hlonger.le, fun _ => hlonger⟩

end Arena

namespace Index

/-! ## Taking out -/

theorem exists_removed (h : x.Sound) (ho : x.owner? none p = some (n, t)) (hl : t.located? x.arena p = some j) :
    ∃ removed y, x.perform (removePath none p) = (.ok removed, y) ∧ Realizes x (.cut t j) y := by
  have heffect : x.removeEffect none p = .cut t j := by simp [removeEffect, ho, hl]
  obtain ⟨⟨removed, hok, -⟩, hr⟩ := yields_remove h none p
  rw [heffect] at hr
  exact ⟨removed, _, Prod.ext hok rfl, hr⟩

/-- An index with a new root of an area, which shows what the disk has at a path. Its rows are listed, but for that of a
directory at the top. -/
structure Rooted (y z : Index) (area : Area) (hidden : Bool) (p : Path) (f : Entry) (b : Arena) (root : NodeId) :
    Prop where
  sound : z.Sound
  wellFormed : b.WellFormed
  paths : b.PathsKnown
  gains : Gains y z ((if f.isDirectory then (b.subtree root).tail else b.subtree root).map (row? b))
  shows : b.Shows (walkEntry .all true p.entryName (f.pruned (Tree.scope area hidden) true)) root
  path : b.workedPath? root = some ((area.path.parent?.getD ⟨""⟩).child p.entryName)

theorem Rooted.mirrors (h : Rooted y z area hidden p f b root) (hf : f.Proper) :
    b.Mirrors root (f.pruned (Tree.scope area hidden) true) :=
  .of_shows h.wellFormed _ (hf.pruned _ _ true) h.shows

end Index

end FileIndex
