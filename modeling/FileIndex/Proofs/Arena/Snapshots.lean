/-
Snapshots of any arena. The path in a snapshot is the one that its node knows, or else the one that is worked out from
the nodes above, so that taking one snapshot changes no other.
-/
import FileIndex.Proofs.Arena.KnownPaths

namespace FileIndex.Arena

variable {a : Arena} {id j : NodeId} {s : Snapshot}

/-- The path of a node depends on what all nodes add to the paths below them. -/
theorem workedPath?_eq_of_stage? {b : Arena} (hsize : b.slots.size = a.slots.size)
    (h : ∀ i, b.stage? i = a.stage? i) (id : NodeId) : b.workedPath? id = a.workedPath? id := by
  have hline : ∀ height i, b.lineage height i = a.lineage height i := by
    intro height
    induction height with
    | zero => exact fun _ => rfl
    | succ height ih =>
      intro i
      have hi := h i
      simp only [stage?] at hi
      rw [lineage, lineage]
      cases hb : b.get? i <;> cases ha : a.get? i <;>
        simp only [hb, ha, Option.map_some, Option.map_none, reduceCtorEq, Option.some.injEq, Prod.mk.injEq] at hi
      · rfl
      · simp only [hi.1, hi.2.1, hi.2.2, ih]
  rw [workedPath?, workedPath?, hsize, hline]

theorem path?_fst_eq (a : Arena) (id : NodeId) :
    (a.path? id).1 = (a.get? id).bind fun n => n.knownPath.or (a.workedPath? id) := by
  unfold path?
  split
  · rename_i hn
    rw [hn, Option.bind_none]
  · rename_i n hn
    rw [hn, Option.bind_some]
    split
    · rename_i hk
      rw [hk, Option.some_or]
    · rename_i hk
      rw [hk, Option.none_or]
      split <;> simp_all

/-- A node whose path was worked out knows it. -/
theorem get?_path?_self (a : Arena) (id : NodeId) : (a.path? id).2.get? id =
    (a.get? id).map fun n => { n with knownPath := n.knownPath.or (a.workedPath? id) } := by
  unfold path?
  split
  · rename_i hn
    rw [hn, Option.map_none]
  · rename_i n hn
    rw [hn, Option.map_some]
    split
    · rename_i hk
      rw [hn, hk, Option.some_or, ← hk]
    · rename_i hk
      split
      · rename_i hw
        rw [get?_modify, if_pos rfl, hn, hk, hw, Option.none_or]
        rfl
      · rename_i hw
        rw [hn, hk, hw, Option.none_or, ← hk]

theorem size_path? (a : Arena) (id : NodeId) : (a.path? id).2.slots.size = a.slots.size := by
  unfold path?
  split
  · rfl
  · split
    · rfl
    · split
      · exact Array.size_modify ..
      · rfl

theorem snapshot_fst_eq (a : Arena) (id : NodeId) :
    (a.snapshot id).1 = (a.get? id).bind fun n => (a.path? id).1.map (Snapshot.ofNode id n) := by
  unfold snapshot
  cases a.get? id <;> rfl

/-- A node gives the snapshot that it would have given before another snapshot was taken. -/
theorem snapshot_snapshot_fst (a : Arena) (id j : NodeId) : ((a.snapshot id).2.snapshot j).1 = (a.snapshot j).1 := by
  have hsnd : (a.snapshot id).2 = (a.path? id).2 := by
    unfold snapshot path?
    cases a.get? id <;> rfl
  have hworked : (a.path? id).2.workedPath? j = a.workedPath? j :=
    workedPath?_eq_of_stage? (size_path? a id) (fun i => stage?_of_core ((alike_path? a id).core i)) j
  rw [hsnd, snapshot_fst_eq, snapshot_fst_eq, path?_fst_eq, path?_fst_eq, hworked]
  by_cases hj : j = id
  · subst hj
    rw [get?_path?_self]
    cases a.get? j with
    | none => rfl
    | some n =>
      simp only [Option.map_some, Option.bind_some, Option.or_assoc, Option.or_self]
      rfl
  · rw [get?_path?_of_ne hj]

/-- Snapshots taken one after the other are those that each node gives by itself, in any arena. -/
theorem snapshots_fst_eq (a : Arena) (ids : List NodeId) :
    (a.snapshots ids).1 = ids.filterMap fun id => (a.snapshot id).1 := by
  induction ids generalizing a with
  | nil => rfl
  | cons id ids ih =>
    have hcons : (a.snapshots (id :: ids)).1 = (a.snapshot id).1.toList ++ ((a.snapshot id).2.snapshots ids).1 := rfl
    rw [hcons, ih, List.filterMap_cons]
    simp only [snapshot_snapshot_fst]
    cases (a.snapshot id).1 <;> rfl

/-- A search sees of a node what its snapshot shows. -/
theorem item_of_snapshot {m : Node} (hm : a.get? id = some m) (hs : (a.snapshot id).1 = some s) :
    s.item = a.item id m := by
  rw [snapshot_fst_eq, hm, Option.bind_some, Option.map_eq_some_iff] at hs
  obtain ⟨p, hp, rfl⟩ := hs
  simp only [Arena.item, hp, Option.getD_some]
  rfl

end FileIndex.Arena
