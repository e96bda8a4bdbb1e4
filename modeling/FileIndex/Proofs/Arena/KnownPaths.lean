/-
Paths that nodes know. The path of a node is worked out from the topmost node above it, so it depends on
nothing but what the nodes on the way down add to it. An arena in which every known path is the one that
would be worked out (`PathsKnown`) gives the same path whether it looks or works.
-/
import FileIndex.Index.Snapshot
import FileIndex.Proofs.Arena.Cut
import FileIndex.Proofs.Arena.Growth

namespace FileIndex.Arena

variable {a b : Arena} {id i j p top : NodeId} {n : Node} {parent : Option NodeId} {f : Node → Node}

/-! ## Working out a path -/

/-- Above the line that leads to a node there is nothing to look at. -/
theorem WellFormed.lineage_succ (h : a.WellFormed) {k : Nat} {l : List NodeId} (hl : a.IsLine id l)
    (hk : l.length ≤ k) : a.lineage (k + 1) id = a.lineage k id := by
  induction k generalizing id l with
  | zero => exact absurd hl.length_pos (by omega)
  | succ k ih =>
    rw [lineage, lineage]
    cases hn : a.get? id with
    | none => rfl
    | some n =>
      cases hp : n.parent with
      | none => simp only [hp]
      | some p =>
        have hpp : a.parent? id = some p := by rw [parent?_of_get? hn, hp]
        obtain ⟨m, hm⟩ := h.exists_line (h.contains_parent hpp)
        have hlen := hl.length_eq (hm.cons h hpp)
        rw [List.length_cons] at hlen
        simp only [hp, ih hm (show m.length ≤ k by omega)]

theorem workedPath?_top (hn : a.get? id = some n) (hp : n.parent = none) :
    a.workedPath? id = some ((n.anchor.getD ⟨""⟩).child n.name) := by
  obtain ⟨k, hk⟩ : ∃ k, a.slots.size = k + 1 :=
    ⟨a.slots.size - 1, by have := index_lt_of_get? hn; omega⟩
  simp only [workedPath?, hk, lineage, hn, hp]
  rfl

theorem WellFormed.workedPath?_child (h : a.WellFormed) (hn : a.get? id = some n)
    (hp : n.parent = some p) : a.workedPath? id = (a.workedPath? p).map (·.child n.name) := by
  have hpp : a.parent? id = some p := by rw [parent?_of_get? hn, hp]
  obtain ⟨k, hk⟩ : ∃ k, a.slots.size = k + 1 :=
    ⟨a.slots.size - 1, by have := index_lt_of_get? hn; omega⟩
  -- A node needs one step more than its parent, so the parent has one to spare.
  obtain ⟨m, hm⟩ := h.exists_line (h.contains_parent hpp)
  have hlen := (hm.cons h hpp).length_le
  rw [List.length_cons] at hlen
  simp only [workedPath?, hk]
  rw [lineage]
  simp only [hn, hp, h.lineage_succ hm (show m.length ≤ k by omega), Option.map_map]
  congr 1
  funext ⟨anchor, names⟩
  simp

theorem WellFormed.workedPath?_isSome (h : a.WellFormed) (hid : a.contains id = true) :
    (a.workedPath? id).isSome := by
  obtain ⟨top, ht, hb⟩ := h.grounded hid
  induction hb with
  | refl =>
    obtain ⟨n, hn⟩ := contains_iff.1 hid
    rw [workedPath?_top hn (by rw [← parent?_of_get? hn, ht])]
    rfl
  | tail _ hp ih =>
    obtain ⟨n, hn⟩ := contains_iff.1 hid
    rw [h.workedPath?_child hn (by rw [← parent?_of_get? hn, hp]), Option.isSome_map]
    exact ih (h.contains_parent hp)

theorem workedPath?_of_get?_eq_none (hn : a.get? id = none) : a.workedPath? id = none := by
  rw [workedPath?]
  cases a.slots.size <;> simp [lineage, hn]

/-- What a node adds to the paths of the nodes below it. -/
def stage? (a : Arena) (id : NodeId) : Option (Option NodeId × Option Path × String) :=
  (a.get? id).map fun n => (n.parent, n.anchor, n.name)

/-- The path of a node depends on what the nodes above it add, and on nothing else. -/
theorem workedPath?_congr (ha : a.WellFormed) (hb : b.WellFormed) (hid : a.contains id = true)
    (h : ∀ i, a.Below i id → b.stage? i = a.stage? i) : b.workedPath? id = a.workedPath? id := by
  obtain ⟨top, ht, hab⟩ := ha.grounded hid
  have hsame : ∀ i n, a.Below i id → a.get? i = some n →
      ∃ m, b.get? i = some m ∧ m.parent = n.parent ∧ m.anchor = n.anchor ∧ m.name = n.name := by
    intro i n hi hn
    have hs := h i hi
    simp only [stage?, hn, Option.map_some, Option.map_eq_some_iff, Prod.mk.injEq] at hs
    exact hs
  induction hab with
  | refl =>
    obtain ⟨n, hn⟩ := contains_iff.1 hid
    have hp : n.parent = none := by rw [← parent?_of_get? hn, ht]
    obtain ⟨m, hm, hmp, hma, hmn⟩ := hsame _ n (.refl a _) hn
    rw [workedPath?_top hn hp, workedPath?_top hm (hmp.trans hp), hma, hmn]
  | tail _ hp ih =>
    obtain ⟨n, hn⟩ := contains_iff.1 hid
    rw [parent?_of_get? hn] at hp
    obtain ⟨m, hm, hmp, -, hmn⟩ := hsame _ n (.refl a _) hn
    have hstep := Below.single (a := a) (show a.parent? _ = some _ by rw [parent?_of_get? hn, hp])
    rw [ha.workedPath?_child hn hp, hb.workedPath?_child hm (hmp.trans hp), hmn,
      ih (ha.contains_of_below hstep hid) (fun i hi => h i (hi.trans hstep))
        fun i n hi => hsame i n (hi.trans hstep)]

/-! ## Known paths -/

/-- Every path that a node knows is the one that would be worked out. -/
def PathsKnown (a : Arena) : Prop :=
  ∀ id n p, a.get? id = some n → n.knownPath = some p → a.workedPath? id = some p

/-- An arena whose known paths were known before, with the same above them. -/
theorem PathsKnown.transport (ha : a.WellFormed) (hb : b.WellFormed) (h : a.PathsKnown)
    (hold : ∀ j m q, b.get? j = some m → m.knownPath = some q →
      (∃ n, a.get? j = some n ∧ n.knownPath = some q) ∧
        ∀ i, a.Below i j → b.stage? i = a.stage? i) : b.PathsKnown := by
  intro j m q hm hq
  obtain ⟨⟨n, hn, hnq⟩, hstage⟩ := hold j m q hm hq
  rw [workedPath?_congr ha hb (contains_iff.2 ⟨n, hn⟩) hstage]
  exact h j n q hn hnq

theorem stage?_of_core (h : b.core? j = a.core? j) : b.stage? j = a.stage? j := by
  have key : ∀ c : Arena, c.stage? j = (c.core? j).map fun n => (n.parent, n.anchor, n.name) := by
    intro c
    cases hn : c.get? j <;> simp [stage?, core?, hn, Node.forgetPath]
  rw [key, key, h]

/-- A change at a node, below which no path is known any more. -/
theorem PathsKnown.forget (id : NodeId) (ha : a.WellFormed) (hb : b.WellFormed) (h : a.PathsKnown)
    (hgone : ∀ j m, a.Below id j → b.get? j = some m → m.knownPath = none)
    (hrest : ∀ j, ¬a.Below id j → b.stage? j = a.stage? j ∧
      ∀ m, b.get? j = some m → ∃ n, a.get? j = some n ∧ n.knownPath = m.knownPath) :
    b.PathsKnown := by
  refine h.transport ha hb fun j m q hm hq => ?_
  have hj : ¬a.Below id j := by
    intro hd
    rw [hgone j m hd hm] at hq
    cases hq
  obtain ⟨n, hn, hk⟩ := (hrest j hj).2 m hm
  exact ⟨⟨n, hn, hk.trans hq⟩, fun i hi => (hrest i fun hd => hj (hd.trans hi)).1⟩

theorem PathsKnown.cut (ha : a.WellFormed) (h : a.PathsKnown) (hc : Cut a b id) : b.PathsKnown := by
  refine h.forget id ha hc.wellFormed (fun j m hj hm => ?_) fun j hj => ⟨?_, fun m hm => ?_⟩
  · rw [hc.get?_gone j hj] at hm
    cases hm
  · rw [stage?, hc.get?_rest j hj, stage?]
    cases a.get? j <;> rfl
  · rw [hc.get?_rest j hj, Option.map_eq_some_iff] at hm
    obtain ⟨n, hn, rfl⟩ := hm
    exact ⟨n, hn, rfl⟩

/-- New nodes that know no path leave all known paths right. -/
theorem PathsKnown.sprouted (ha : a.WellFormed) (h : a.PathsKnown) (hs : Sprouted a b parent top) :
    b.PathsKnown := by
  have hg := hs.toGrown
  refine h.transport ha hg.wellFormed fun j m q hm hq => ?_
  have hj : a.contains j = true := by
    rcases (hg.contains_iff j).1 (contains_iff.2 ⟨m, hm⟩) with ho | hn
    · exact ho
    · rw [hs.unknown j m hn hm] at hq
      cases hq
  have hstage : ∀ i, a.contains i = true → b.stage? i = a.stage? i := by
    intro i hi
    rw [stage?, hg.get?_old i hi, stage?]
    cases a.get? i with
    | none => rfl
    | some n => simp only [Option.map_some]; split <;> rfl
  refine ⟨?_, fun i hi => hstage i (ha.contains_of_below hi hj)⟩
  rw [hg.get?_old j hj, Option.map_eq_some_iff] at hm
  obtain ⟨n, hn, rfl⟩ := hm
  refine ⟨n, hn, ?_⟩
  rw [← hq]
  split <;> rfl

/-- Forgetting the paths at and below a node that was changed, in an arena that is otherwise as it was. -/
theorem PathsKnown.forgetPaths {c : Arena} (ha : a.WellFormed) (hc : c.WellFormed) (h : a.PathsKnown)
    (hid : c.contains id = true) (hbelow : ∀ j, c.Below id j ↔ a.Below id j)
    (hrest : ∀ j, ¬a.Below id j → c.stage? j = a.stage? j ∧
      ∀ m, c.get? j = some m → ∃ n, a.get? j = some n ∧ n.knownPath = m.knownPath) :
    (c.forgetPaths id).PathsKnown := by
  have hal := alike_forgetPaths c id
  refine h.forget id ha (hal.sameLinks.wellFormed hc) (fun j m hj hm => ?_) fun j hj => ?_
  · rw [get?_forgetPaths, if_pos ((hc.mem_subtree hid).2 ((hbelow j).2 hj)),
      Option.map_eq_some_iff] at hm
    obtain ⟨n, -, rfl⟩ := hm
    rfl
  · have hm : j ∉ c.subtree id := fun hm => hj ((hbelow j).1 (hc.below_of_mem_subtree hm))
    rw [stage?_of_core (hal.core j), get?_forgetPaths, if_neg hm]
    exact hrest j hj

theorem PathsKnown.detach (ha : a.WellFormed) (h : a.PathsKnown) (id : NodeId) :
    (a.detach id).2.PathsKnown := by
  cases hp : a.parent? id with
  | none => rwa [detach_of_parent?_eq_none hp]
  | some p =>
    have hd := ha.detached_unlink hp
    have hu := hd.unlinked ha
    rw [detach_of_parent? hp]
    refine h.forgetPaths ha (hu.wellFormed ha) (by rw [hu.contains, contains_of_parent? hp])
      (fun j => hu.below_self_iff ha) fun j hj => ?_
    have hget := hd.get?_rest j hj
    refine ⟨?_, fun m hm => ?_⟩
    · rw [stage?, hget, stage?]
      cases a.get? j <;> rfl
    · rw [hget, Option.map_eq_some_iff] at hm
      obtain ⟨n, hn, rfl⟩ := hm
      exact ⟨n, hn, rfl⟩

/-! ## Looking at paths -/

theorem get?_path?_of_ne (hj : j ≠ id) : (a.path? id).2.get? j = a.get? j := by
  unfold path?
  split
  · rfl
  · split
    · rfl
    · split
      · rw [get?_modify, if_neg hj]
      · rfl

theorem Alike.workedPath? (h : Alike a b) (ha : a.WellFormed) (id : NodeId) :
    b.workedPath? id = a.workedPath? id := by
  cases hid : a.contains id with
  | true => exact workedPath?_congr ha (h.sameLinks.wellFormed ha) hid fun i _ => stage?_of_core (h.core i)
  | false =>
    rw [workedPath?_of_get?_eq_none, workedPath?_of_get?_eq_none]
    · rw [get?_eq_none, hid]; simp
    · rw [get?_eq_none, h.contains, hid]; simp

theorem PathsKnown.path?_fst (h : a.PathsKnown) (id : NodeId) : (a.path? id).1 = a.workedPath? id := by
  unfold path?
  split
  · rename_i hn
    rw [workedPath?_of_get?_eq_none hn]
  · rename_i n hn
    split
    · rename_i q hq
      rw [h id n q hn hq]
    · split
      · rename_i hw
        rw [hw]
      · rename_i hw
        rw [hw]

theorem PathsKnown.path? (ha : a.WellFormed) (h : a.PathsKnown) (id : NodeId) :
    (a.path? id).2.PathsKnown := by
  intro j m q hm hq
  rw [(alike_path? a id).workedPath? ha]
  by_cases hj : j = id
  · subst hj
    unfold Arena.path? at hm
    split at hm
    · exact h j m q hm hq
    · split at hm
      · exact h j m q hm hq
      · split at hm
        · rename_i w hw
          rw [get?_modify, if_pos rfl, Option.map_eq_some_iff] at hm
          obtain ⟨n, -, rfl⟩ := hm
          rw [hw]
          exact hq
        · exact h j m q hm hq
  · rw [get?_path?_of_ne hj] at hm
    exact h j m q hm hq

/-! ## Snapshots -/

/-- The snapshot of a node, with its path worked out. -/
def view? (a : Arena) (id : NodeId) : Option Snapshot :=
  (a.get? id).bind fun n => (a.workedPath? id).map (Snapshot.ofNode id n)

theorem view?_id {s : Snapshot} (h : a.view? id = some s) : s.id = id := by
  obtain ⟨n, -, hs⟩ := Option.bind_eq_some_iff.1 h
  obtain ⟨q, -, rfl⟩ := Option.map_eq_some_iff.1 hs
  rfl

theorem Alike.view? (h : Alike a b) (ha : a.WellFormed) (id : NodeId) : b.view? id = a.view? id := by
  have key : ∀ c : Arena, c.view? id =
      (c.core? id).bind fun n => (c.workedPath? id).map (Snapshot.ofNode id n) := by
    intro c
    cases hn : c.get? id <;> simp [Arena.view?, core?, hn]
    rfl
  rw [key, key, h.core, h.workedPath? ha]

theorem alike_snapshot (a : Arena) (id : NodeId) : Alike a (a.snapshot id).2 := by
  unfold snapshot
  split
  · rfl
  · exact alike_path? a id

theorem alike_snapshots (a : Arena) (ids : List NodeId) : Alike a (a.snapshots ids).2 := by
  induction ids generalizing a with
  | nil => rfl
  | cons i ids ih => exact (alike_snapshot a i).trans (ih _)

theorem get?_snapshots_of_not_mem {ids : List NodeId} (hj : j ∉ ids) :
    (a.snapshots ids).2.get? j = a.get? j := by
  induction ids generalizing a with
  | nil => rfl
  | cons i ids ih =>
    rw [List.mem_cons, not_or] at hj
    have hone : (a.snapshot i).2.get? j = a.get? j := by
      unfold snapshot
      split
      · rfl
      · exact get?_path?_of_ne hj.1
    exact (ih hj.2).trans hone

theorem PathsKnown.snapshot (ha : a.WellFormed) (h : a.PathsKnown) (id : NodeId) :
    (a.snapshot id).1 = a.view? id ∧ (a.snapshot id).2.PathsKnown := by
  unfold Arena.snapshot
  split
  · rename_i hn
    exact ⟨by simp [view?, hn], h⟩
  · rename_i n hn
    refine ⟨?_, h.path? ha id⟩
    rw [view?, hn, Option.bind_some, ← h.path?_fst]

theorem PathsKnown.snapshots (ha : a.WellFormed) (h : a.PathsKnown) (ids : List NodeId) :
    (a.snapshots ids).1 = ids.filterMap a.view? ∧ (a.snapshots ids).2.PathsKnown := by
  induction ids generalizing a with
  | nil => exact ⟨rfl, h⟩
  | cons i ids ih =>
    have hal := alike_snapshot a i
    obtain ⟨hs, hk⟩ := h.snapshot ha i
    obtain ⟨hrest, hk⟩ := ih (hal.sameLinks.wellFormed ha) hk
    refine ⟨?_, hk⟩
    have : (a.snapshots (i :: ids)).1 = (a.snapshot i).1.toList ++ ((a.snapshot i).2.snapshots ids).1 :=
      rfl
    rw [this, hs, hrest, funext (hal.view? ha), List.filterMap_cons]
    cases a.view? i <;> rfl

/-- Every node has a snapshot, whatever paths are known. -/
theorem WellFormed.snapshots_ids (ha : a.WellFormed) (ids : List NodeId) :
    (a.snapshots ids).1.map Snapshot.id = ids.filter (a.contains ·) := by
  induction ids generalizing a with
  | nil => rfl
  | cons i ids ih =>
    have hal := alike_snapshot a i
    have hone : (a.snapshot i).1.toList.map Snapshot.id = if a.contains i then [i] else [] := by
      unfold Arena.snapshot
      split
      · rename_i hn
        simp [contains, hn]
      · rename_i n hn
        have hc : a.contains i = true := contains_iff.2 ⟨n, hn⟩
        rw [if_pos hc]
        have hsome : (a.path? i).1.isSome := by
          unfold path?
          have := ha.workedPath?_isSome hc
          split
          · simp_all
          · split
            · rfl
            · split <;> simp_all
        obtain ⟨q, hq⟩ := Option.isSome_iff_exists.1 hsome
        simp only [hq, Option.map_some]
        rfl
    have : (a.snapshots (i :: ids)).1 = (a.snapshot i).1.toList ++ ((a.snapshot i).2.snapshots ids).1 :=
      rfl
    rw [this, List.map_append, hone, ih (hal.sameLinks.wellFormed ha), List.filter_cons]
    simp only [hal.contains]
    split <;> rfl

end FileIndex.Arena
