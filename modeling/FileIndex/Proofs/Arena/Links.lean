/-
Subtrees as lists: in an arena in order the list of a node and all below it is complete, names nothing
twice, and is made of the lists of the children. The depth to which the arena looks is always enough,
since what stands above a node takes up slots of its own.

What a new link and a missing link make of an arena in order. An arena differs from another by a link
(`Linked`) or by the lack of one (`Unlinked`); in both cases the order stays, and what stands below a node
is what stood there and what hangs on the link.
-/
import FileIndex.Proofs.Arena.WellFormed
import Mathlib.Data.List.Nodup
import Mathlib.Data.List.Perm.Subperm

namespace FileIndex.Arena

variable {a b : Arena} {id i j p q top : NodeId} {n : Node}

/-! ## Depth -/

theorem length_le_size {l : List NodeId} (hn : l.Nodup) (hl : ∀ i ∈ l, a.contains i = true) :
    l.length ≤ a.slots.size := by
  have hmap : (l.map NodeId.index).Nodup := hn.map_on fun ⟨_⟩ _ ⟨_⟩ _ h => congrArg NodeId.mk h
  have hsub : l.map NodeId.index ⊆ List.range a.slots.size := by
    intro k hk
    obtain ⟨i, hi, rfl⟩ := List.mem_map.1 hk
    exact List.mem_range.2 (index_lt_of_contains (hl i hi))
  simpa using (List.subperm_of_subset hmap hsub).length_le

/-- The nodes above a node, as a list without repetition. -/
structure IsLine (a : Arena) (id : NodeId) (l : List NodeId) : Prop where
  nodup : l.Nodup
  live : ∀ i ∈ l, a.contains i = true
  mem_iff : ∀ i, i ∈ l ↔ a.Below i id

namespace IsLine

theorem cons (h : a.WellFormed) {l : List NodeId} (hl : a.IsLine p l) (hp : a.parent? id = some p) :
    a.IsLine id (id :: l) where
  nodup := List.nodup_cons.2 ⟨fun hm => h.acyclic hp ((hl.mem_iff id).1 hm), hl.nodup⟩
  live := by
    simp only [List.mem_cons, forall_eq_or_imp]
    exact ⟨contains_of_parent? hp, hl.live⟩
  mem_iff i := by
    rw [List.mem_cons, hl.mem_iff]
    constructor
    · rintro (rfl | hb)
      · rfl
      · exact hb.tail hp
    · intro hb
      by_cases hi : i = id
      · exact .inl hi
      · exact .inr (hb.of_parent? hi hp)

theorem length_eq {l m : List NodeId} (hl : a.IsLine id l) (hm : a.IsLine id m) :
    l.length = m.length :=
  ((List.perm_ext_iff_of_nodup hl.nodup hm.nodup).2 fun i => by rw [hl.mem_iff, hm.mem_iff]).length_eq

theorem length_le (hl : a.IsLine id l) : l.length ≤ a.slots.size := length_le_size hl.nodup hl.live

theorem length_pos (hl : a.IsLine id l) : 0 < l.length :=
  List.length_pos_of_mem ((hl.mem_iff id).2 (.refl a id))

end IsLine

theorem WellFormed.exists_line (h : a.WellFormed) (hid : a.contains id = true) :
    ∃ l, a.IsLine id l := by
  obtain ⟨top, ht, hb⟩ := h.grounded hid
  induction hb with
  | refl =>
    refine ⟨[top], by simp, by simpa using hid, fun i => ?_⟩
    rw [List.mem_singleton]
    exact ⟨fun e => e ▸ .refl a _, fun hb => hb.eq_of_parent?_eq_none ht⟩
  | tail _ hp ih =>
    obtain ⟨l, hl⟩ := ih (h.contains_parent hp)
    exact ⟨_, hl.cons h hp⟩

/-- What holds of a node if it holds of its children holds of all nodes. -/
theorem WellFormed.induct (h : a.WellFormed) {motive : ∀ id, a.contains id = true → Prop}
    (step : ∀ id hid,
      (∀ c, (hc : a.parent? c = some id) → motive c (contains_of_parent? hc)) → motive id hid)
    (id : NodeId) (hid : a.contains id = true) : motive id hid := by
  -- On the number of slots that the line above a node leaves.
  have key : ∀ k id l hid, a.IsLine id l → a.slots.size < l.length + k → motive id hid := by
    intro k
    induction k with
    | zero =>
      intro id l _ hl hk
      exact absurd hl.length_le (by omega)
    | succ k ih =>
      intro id l _ hl hk
      refine step id _ fun c hc => ?_
      exact ih c _ _ (hl.cons h hc) (by rw [List.length_cons]; omega)
  obtain ⟨l, hl⟩ := h.exists_line hid
  exact key (a.slots.size + 1) id l hid hl (by omega)

/-- Beyond a depth that the line above a node does not leave, nothing is found. -/
theorem subtreeTo_succ (h : a.WellFormed) (k : Nat) :
    ∀ id l, a.IsLine id l → a.slots.size < l.length + k →
      a.subtreeTo (k + 1) id = a.subtreeTo k id := by
  induction k with
  | zero =>
    intro id l hl hk
    exact absurd hl.length_le (by omega)
  | succ k ih =>
    intro id l hl hk
    rw [subtreeTo, subtreeTo]
    cases hn : a.get? id with
    | none => rfl
    | some n =>
      have hc : n.children.map (a.subtreeTo (k + 1)) = n.children.map (a.subtreeTo k) := by
        refine List.map_congr_left fun c hc => ?_
        have hp : a.parent? c = some id := h.mem_children.1 (by rwa [children_of_get? hn])
        exact ih c _ (hl.cons h hp) (by rw [List.length_cons]; omega)
      simp only [List.flatMap, hc]

/-! ## The list of a subtree -/

theorem subtree_of_get?_eq_none (hn : a.get? id = none) : a.subtree id = [] := by
  rw [subtree]
  cases a.slots.size with
  | zero => rfl
  | succ k => simp [subtreeTo, hn]

/-- A subtree is its topmost node and the subtrees of the children. -/
theorem WellFormed.subtree_eq (h : a.WellFormed) (hid : a.contains id = true) :
    a.subtree id = id :: (a.children id).flatMap a.subtree := by
  obtain ⟨n, hn⟩ := contains_iff.1 hid
  obtain ⟨l, hl⟩ := h.exists_line hid
  obtain ⟨k, hk⟩ : ∃ k, a.slots.size = k + 1 := ⟨a.slots.size - 1, by have := index_lt_of_get? hn; omega⟩
  have hc : n.children.map (a.subtreeTo k) = n.children.map a.subtree := by
    refine List.map_congr_left fun c hc => ?_
    have hp : a.parent? c = some id := h.mem_children.1 (by rwa [children_of_get? hn])
    have hlen := hl.length_pos
    rw [subtree, hk, subtreeTo_succ h k c _ (hl.cons h hp) (by rw [List.length_cons]; omega)]
  rw [children_of_get? hn, subtree, hk, subtreeTo, hn]
  simp only [List.flatMap, hc]

theorem WellFormed.mem_subtree (h : a.WellFormed) (htop : a.contains top = true) :
    j ∈ a.subtree top ↔ a.Below top j := by
  induction top, htop using h.induct with
  | step top htop ih =>
    rw [h.subtree_eq htop, List.mem_cons, List.mem_flatMap]
    constructor
    · rintro (rfl | ⟨c, hc, hj⟩)
      · rfl
      · have hp := h.mem_children.1 hc
        exact (Below.single hp).trans ((ih c hp).1 hj)
    · intro hb
      rcases hb.cases_head with rfl | ⟨c, hp, hb⟩
      · exact .inl rfl
      · exact .inr ⟨c, h.mem_children.2 hp, (ih c hp).2 hb⟩

theorem WellFormed.below_of_mem_subtree (h : a.WellFormed) (hj : j ∈ a.subtree top) :
    a.Below top j := by
  cases ht : a.get? top with
  | none => simp [subtree_of_get?_eq_none ht] at hj
  | some n => exact (h.mem_subtree (contains_iff.2 ⟨n, ht⟩)).1 hj

theorem WellFormed.nodup_subtree (h : a.WellFormed) (id : NodeId) : (a.subtree id).Nodup := by
  cases hn : a.get? id with
  | none => simp [subtree_of_get?_eq_none hn]
  | some n =>
    have hid : a.contains id = true := contains_iff.2 ⟨n, hn⟩
    clear hn
    induction id, hid using h.induct with
    | step id hid ih =>
      rw [h.subtree_eq hid, List.nodup_cons, List.nodup_flatMap]
      refine ⟨fun hm => ?_, fun c hc => ih c (h.mem_children.1 hc), ?_⟩
      · obtain ⟨c, hc, hj⟩ := List.mem_flatMap.1 hm
        have hp := h.mem_children.1 hc
        exact h.acyclic hp (h.below_of_mem_subtree hj)
      · refine (List.pairwise_iff_forall_sublist.2 fun {c d} hs => ?_)
        have hne : c ≠ d := by
          rintro rfl
          exact (List.nodup_cons.1 ((h.children_nodup id).sublist hs)).1 (by simp)
        have hc := h.mem_children.1 (hs.subset (show c ∈ [c, d] by simp))
        have hd := h.mem_children.1 (hs.subset (show d ∈ [c, d] by simp))
        intro j hj hk
        exact hne (h.eq_of_below_siblings hc hd (h.below_of_mem_subtree hj)
          (h.below_of_mem_subtree hk))

theorem WellFormed.self_mem_subtree (h : a.WellFormed) (hid : a.contains id = true) :
    id ∈ a.subtree id := (h.mem_subtree hid).2 (.refl a id)

/-- A subtree that holds the same nodes with the same children is the same list. -/
theorem subtree_congr (ha : a.WellFormed) (hb : b.WellFormed) (htop : a.contains top = true)
    (hsame : ∀ j, a.Below top j → b.contains j = true ∧ b.children j = a.children j) :
    b.subtree top = a.subtree top := by
  induction top, htop using ha.induct with
  | step top htop ih =>
    obtain ⟨hbt, hct⟩ := hsame top (.refl a top)
    rw [ha.subtree_eq htop, hb.subtree_eq hbt, hct]
    congr 1
    refine List.flatMap_congr fun c hc => ?_
    have hp := ha.mem_children.1 hc
    exact ih c hp fun j hj => hsame j ((Below.single hp).trans hj)

/-! ## A link more -/

/-- The other arena has `top` behind the children of `p`. -/
structure Linked (a b : Arena) (p top : NodeId) : Prop where
  size : b.slots.size = a.slots.size
  free : b.free = a.free
  contains : ∀ j, b.contains j = a.contains j
  parent? : ∀ j, b.parent? j = if j = top then some p else a.parent? j
  children : ∀ j, b.children j = if j = p then a.children j ++ [top] else a.children j

namespace Linked

theorem below_of_below (h : Linked a b p top) (ht : a.parent? top = none) (hb : a.Below i j) :
    b.Below i j := by
  induction hb with
  | refl => rfl
  | tail _ hp ih =>
    rename_i m j
    refine ih.tail ?_
    rw [h.parent?, if_neg (by rintro rfl; rw [ht] at hp; cases hp), hp]

theorem below_iff (h : Linked a b p top) (ht : a.parent? top = none) :
    b.Below i j ↔ a.Below i j ∨ a.Below i p ∧ a.Below top j := by
  constructor
  · intro hb
    induction hb with
    | refl => exact .inl (.refl a i)
    | tail _ hp ih =>
      rename_i m j
      rw [h.parent?] at hp
      split at hp
      · rename_i hj
        subst hj
        rw [Option.some.injEq] at hp
        subst hp
        rcases ih with ih | ⟨ih, -⟩
        · exact .inr ⟨ih, .refl a _⟩
        · exact .inr ⟨ih, .refl a _⟩
      · rcases ih with ih | ⟨hi, ih⟩
        · exact .inl (ih.tail hp)
        · exact .inr ⟨hi, ih.tail hp⟩
  · rintro (hb | ⟨hi, hj⟩)
    · exact h.below_of_below ht hb
    · have htop : b.parent? top = some p := by rw [h.parent?, if_pos rfl]
      exact ((h.below_of_below ht hi).tail htop).trans (h.below_of_below ht hj)

theorem wellFormed (h : Linked a b p top) (hw : a.WellFormed) (hc : a.contains top = true)
    (hp : a.contains p = true) (ht : a.parent? top = none) (hb : ¬a.Below top p) : b.WellFormed where
  nodup := h.free ▸ hw.nodup
  mem_iff id := by rw [h.free, hw.mem_iff, h.size, get?_eq_none, get?_eq_none, h.contains]
  children_nodup q := by
    rw [h.children]
    split
    · rename_i hq
      subst hq
      refine List.nodup_append.2 ⟨hw.children_nodup q, by simp, ?_⟩
      rintro c hc' _ ht' rfl
      rw [List.mem_singleton.1 ht', hw.mem_children, ht] at hc'
      cases hc'
    · exact hw.children_nodup q
  mem_children := by
    intro q c
    rw [h.children, h.parent?]
    by_cases hcq : c = top
    · subst hcq
      rw [if_pos rfl]
      by_cases hq : q = p
      · simp [hq]
      · rw [if_neg hq, hw.mem_children, ht]
        simp [Ne.symm hq]
    · rw [if_neg hcq, ← hw.mem_children]
      split <;> simp [hcq]
  grounded := by
    intro id hid
    rw [h.contains] at hid
    obtain ⟨s, hs, hsb⟩ := hw.grounded hid
    by_cases hst : s = top
    · subst hst
      obtain ⟨s', hs', hsb'⟩ := hw.grounded hp
      refine ⟨s', ?_, (h.below_iff ht).2 (.inr ⟨hsb', hsb⟩)⟩
      rw [h.parent?, if_neg (by rintro rfl; exact hb hsb'), hs']
    · exact ⟨s, by rw [h.parent?, if_neg hst, hs], h.below_of_below ht hsb⟩

end Linked

/-! ## A link less -/

/-- The other arena has `id` without a parent. -/
structure Unlinked (a b : Arena) (id : NodeId) : Prop where
  size : b.slots.size = a.slots.size
  free : b.free = a.free
  contains : ∀ j, b.contains j = a.contains j
  parent? : ∀ j, b.parent? j = if j = id then none else a.parent? j
  children : ∀ j, b.children j = (a.children j).erase id

namespace Unlinked

theorem below_of_below (h : Unlinked a b id) (hb : b.Below i j) : a.Below i j := by
  induction hb with
  | refl => rfl
  | tail _ hp ih =>
    rw [h.parent?] at hp
    split at hp
    · cases hp
    · exact ih.tail hp

/-- A way down is left if it does not lead through the lost link. -/
theorem below_iff (h : Unlinked a b id) (hw : a.WellFormed) :
    b.Below i j ↔ a.Below i j ∧ (a.Below id j → a.Below id i) := by
  constructor
  · intro hb
    refine ⟨h.below_of_below hb, fun hj => ?_⟩
    induction hb with
    | refl => exact hj
    | tail hb hp ih =>
      rename_i m j
      rw [h.parent?] at hp
      split at hp
      · cases hp
      · rename_i hne
        exact ih (hj.of_parent? (Ne.symm hne) hp)
  · rintro ⟨hb, himp⟩
    induction hb with
    | refl => rfl
    | tail hb hp ih =>
      rename_i m j
      have hne : j ≠ id := by
        rintro rfl
        exact hw.acyclic hp ((himp (.refl a _)).trans hb)
      refine (ih fun hm => himp (hm.tail hp)).tail ?_
      rw [h.parent?, if_neg hne, hp]

theorem below_self_iff (h : Unlinked a b id) (hw : a.WellFormed) : b.Below id j ↔ a.Below id j := by
  rw [h.below_iff hw]
  exact ⟨And.left, fun hb => ⟨hb, fun _ => .refl a id⟩⟩

theorem wellFormed (h : Unlinked a b id) (hw : a.WellFormed) : b.WellFormed where
  nodup := h.free ▸ hw.nodup
  mem_iff j := by rw [h.free, hw.mem_iff, h.size, get?_eq_none, get?_eq_none, h.contains]
  children_nodup q := h.children q ▸ (hw.children_nodup q).erase id
  mem_children := by
    intro q c
    rw [h.children, h.parent?, (hw.children_nodup q).mem_erase_iff, hw.mem_children]
    by_cases hc : c = id <;> simp [hc]
  grounded := by
    intro j hj
    rw [h.contains] at hj
    obtain ⟨s, hs, hb⟩ := hw.grounded hj
    by_cases hd : a.Below id j ∧ ¬a.Below id s
    · exact ⟨id, by rw [h.parent?, if_pos rfl], (h.below_self_iff hw).2 hd.1⟩
    · refine ⟨s, ?_, (h.below_iff hw).2 ⟨hb, fun hj => ?_⟩⟩
      · rw [h.parent?, hs, ite_self]
      · by_contra hns
        exact hd ⟨hj, hns⟩

end Unlinked

end FileIndex.Arena
