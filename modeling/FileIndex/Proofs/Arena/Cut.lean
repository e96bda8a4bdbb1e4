/-
Cuts: an arena without what stood at and below a node (`Cut`). A node is cut in two steps. Taken out of
its parent it stands on its own (`Detached`), with all that is below it; then the slots of this tree are
emptied. Emptying follows the children lists in any arena, in order or not, and empties what they lead to.
-/
import FileIndex.Proofs.Arena.Links

namespace FileIndex

@[simp] theorem Node.removeChild_parent (n : Node) (c : NodeId) : (n.removeChild c).parent = n.parent :=
  rfl

@[simp] theorem Node.removeChild_children (n : Node) (c : NodeId) :
    (n.removeChild c).children = n.children.erase c := rfl

theorem Node.removeChild_of_not_mem {n : Node} {c : NodeId} (h : c ∉ n.children) :
    n.removeChild c = n := by
  simp [Node.removeChild, List.erase_of_not_mem h]

namespace Arena

variable {a b c : Arena} {id i j p q s top : NodeId} {n : Node} {ids : List NodeId}

/-! ## Emptying slots -/

/-- Children lists lead from a node to another. -/
def LeadsTo (a : Arena) : NodeId → NodeId → Prop :=
  Relation.ReflTransGen fun p c => c ∈ a.children p

theorem children_vacate (a : Arena) (id j : NodeId) :
    (a.vacate id).children j = if j = id then [] else a.children j := by
  simp only [children, get?_vacate]
  split <;> rfl

theorem LeadsTo.of_vacate (h : (a.vacate id).LeadsTo i j) : a.LeadsTo i j := by
  induction h with
  | refl => exact Relation.ReflTransGen.refl
  | tail _ hc ih =>
    rw [children_vacate] at hc
    split at hc
    · simp at hc
    · exact ih.tail hc

/-- A way that leads through a node leads to it and then on from one of its children. -/
theorem LeadsTo.vacate (h : a.LeadsTo i j) (id : NodeId) :
    j = id ∨ i ≠ id ∧ (a.vacate id).LeadsTo i j ∨ ∃ c ∈ a.children id, (a.vacate id).LeadsTo c j := by
  induction h using Relation.ReflTransGen.head_induction_on with
  | refl =>
    by_cases hj : j = id
    · exact .inl hj
    · exact .inr (.inl ⟨hj, Relation.ReflTransGen.refl⟩)
  | head hc hl ih =>
    rename_i i q
    rcases ih with rfl | ⟨-, ih⟩ | ih
    · exact .inl rfl
    · by_cases hi : i = id
      · exact .inr (.inr ⟨q, hi ▸ hc, ih⟩)
      · refine .inr (.inl ⟨hi, Relation.ReflTransGen.head ?_ ih⟩)
        rw [children_vacate, if_neg hi]
        exact hc
    · exact .inr (.inr ih)

theorem get?_releaseAll_of_get?_eq_none (a : Arena) (ids : List NodeId) (hj : a.get? j = none) :
    (a.releaseAll ids).2.get? j = none := by
  fun_induction releaseAll a ids with
  | case1 a => exact hj
  | case2 a id rest _ ih => exact ih hj
  | case3 a id rest n _ count b hb ih =>
    rw [hb] at ih
    exact ih (by rw [get?_vacate, hj, ite_self])

theorem get?_releaseAll_of_leadsTo (a : Arena) (ids : List NodeId) (hs : s ∈ ids) (h : a.LeadsTo s j) :
    (a.releaseAll ids).2.get? j = none := by
  fun_induction releaseAll a ids generalizing s with
  | case1 a => simp at hs
  | case2 a id rest hid ih =>
    rcases List.mem_cons.1 hs with rfl | hs
    · -- Nothing leads on from an empty slot.
      have hj : j = s := by
        rcases Relation.ReflTransGen.cases_head h with rfl | ⟨q, hq, -⟩
        · rfl
        · simp [children, hid] at hq
      exact get?_releaseAll_of_get?_eq_none a rest (hj ▸ hid)
    · exact ih hs h
  | case3 a id rest n hid count b hb ih =>
    rw [hb] at ih
    have hn : a.children id = n.children := children_of_get? hid
    rcases h.vacate id with rfl | ⟨hne, hv⟩ | ⟨c, hc, hv⟩
    · have := get?_releaseAll_of_get?_eq_none (a.vacate j) (n.children.reverse ++ rest)
        (j := j) (by rw [get?_vacate, if_pos rfl])
      rwa [hb] at this
    · rcases List.mem_cons.1 hs with rfl | hs
      · exact absurd rfl hne
      · exact ih (List.mem_append_right _ hs) hv
    · exact ih (List.mem_append_left _ (List.mem_reverse.2 (hn ▸ hc))) hv

theorem get?_releaseAll_of_not_leadsTo (a : Arena) (ids : List NodeId)
    (h : ∀ s ∈ ids, ¬a.LeadsTo s j) : (a.releaseAll ids).2.get? j = a.get? j := by
  fun_induction releaseAll a ids with
  | case1 a => rfl
  | case2 a id rest _ ih => exact ih fun s hs => h s (List.mem_cons_of_mem _ hs)
  | case3 a id rest n hid count b hb ih =>
    rw [hb] at ih
    have hjd : j ≠ id := fun e => h id (List.mem_cons_self ..) (e ▸ Relation.ReflTransGen.refl)
    rw [ih, get?_vacate, if_neg hjd]
    intro s hs hl
    rcases List.mem_append.1 hs with hs | hs
    · refine h id (List.mem_cons_self ..) (Relation.ReflTransGen.head ?_ hl.of_vacate)
      rw [children_of_get? hid]
      exact List.mem_reverse.1 hs
    · exact h s (List.mem_cons_of_mem _ hs) hl.of_vacate

theorem FreeList.releaseAll (h : a.FreeList) (ids : List NodeId) : (a.releaseAll ids).2.FreeList := by
  fun_induction Arena.releaseAll a ids with
  | case1 a => exact h
  | case2 a id rest _ ih => exact ih h
  | case3 a id rest n hn count b hb ih =>
    rw [hb] at ih
    exact ih (h.vacate hn)

theorem WellFormed.leadsTo_iff (h : a.WellFormed) : a.LeadsTo i j ↔ a.Below i j := by
  simp only [LeadsTo, Below, h.mem_children]

/-! ## Cuts -/

/-- The other arena lacks a node and all that stood below it. -/
structure Cut (a b : Arena) (id : NodeId) : Prop where
  wellFormed : b.WellFormed
  get?_gone : ∀ j, a.Below id j → b.get? j = none
  get?_rest : ∀ j, ¬a.Below id j → b.get? j = (a.get? j).map (·.removeChild id)

namespace Cut

theorem contains_iff (h : Cut a b id) : b.contains j = true ↔ a.contains j = true ∧ ¬a.Below id j := by
  by_cases hj : a.Below id j
  · simp [contains, h.get?_gone j hj, hj]
  · simp [contains, h.get?_rest j hj, hj]

theorem parent?_rest (h : Cut a b id) (hj : ¬a.Below id j) : b.parent? j = a.parent? j := by
  rw [parent?, h.get?_rest j hj, parent?]
  cases a.get? j <;> rfl

theorem children_rest (h : Cut a b id) (hj : ¬a.Below id j) : b.children j = (a.children j).erase id := by
  rw [children, h.get?_rest j hj, children]
  cases a.get? j <;> rfl

theorem below_rest (h : Cut a b id) (hj : ¬a.Below id j) : b.Below i j ↔ a.Below i j := by
  constructor
  · intro hb
    induction hb with
    | refl => rfl
    | tail _ hp ih =>
      rw [h.parent?_rest hj] at hp
      exact (ih fun hm => hj (hm.tail hp)).tail hp
  · intro hb
    induction hb with
    | refl => rfl
    | tail _ hp ih => exact (ih fun hm => hj (hm.tail hp)).tail (by rwa [h.parent?_rest hj])

theorem not_below (h : Cut a b id) (hb : b.contains j = true) : ¬a.Below id j :=
  (h.contains_iff.1 hb).2

end Cut

/-- Emptying the slots of a tree that stands on its own cuts it. -/
theorem WellFormed.cut_release (h : a.WellFormed) (hp : a.parent? id = none) :
    Cut a (a.release id).2 id := by
  have hgone : ∀ j, a.Below id j → (a.release id).2.get? j = none := fun j hj =>
    get?_releaseAll_of_leadsTo a [id] (List.mem_singleton_self id) (h.leadsTo_iff.2 hj)
  have hrest : ∀ j, ¬a.Below id j → (a.release id).2.get? j = a.get? j := fun j hj =>
    get?_releaseAll_of_not_leadsTo a [id] fun s hs => by
      rwa [List.mem_singleton.1 hs, h.leadsTo_iff]
  have hfree := FreeList.releaseAll h.toFreeList [id]
  change (a.release id).2.FreeList at hfree
  generalize (a.release id).2 = b at hgone hrest hfree
  have hbelow : ∀ i j, ¬a.Below id j → a.Below i j → b.Below i j := by
    intro i j hj hb
    induction hb with
    | refl => rfl
    | tail _ hq ih => exact (ih fun hm => hj (hm.tail hq)).tail (by rw [parent?, hrest _ hj]; exact hq)
  constructor
  · refine { toFreeList := hfree, children_nodup := ?_, mem_children := ?_, grounded := ?_ }
    · intro q
      by_cases hq : a.Below id q
      · simp [children, hgone q hq]
      · rw [children, hrest q hq]
        exact h.children_nodup q
    · intro q c
      by_cases hq : a.Below id q
      · have hc : b.children q = [] := by simp [children, hgone q hq]
        rw [hc]
        simp only [List.not_mem_nil, false_iff]
        intro hcq
        by_cases hc : a.Below id c
        · simp [parent?, hgone c hc] at hcq
        · rw [parent?, hrest c hc] at hcq
          exact hc (hq.tail hcq)
      · have hc : b.children q = a.children q := by rw [children, hrest q hq, children]
        rw [hc, h.mem_children]
        by_cases hc : a.Below id c
        · constructor
          · intro hcq
            have hne : id ≠ c := by
              rintro rfl
              rw [hp] at hcq
              cases hcq
            exact absurd (hc.of_parent? hne hcq) hq
          · intro hcq
            simp [parent?, hgone c hc] at hcq
        · rw [parent?, parent?, hrest c hc]
    · intro j hj
      have hjn : ¬a.Below id j := fun hd => by simp [contains, hgone j hd] at hj
      have hja : a.contains j = true := by rwa [contains, hrest j hjn] at hj
      obtain ⟨s, hs, hb⟩ := h.grounded hja
      have hsn : ¬a.Below id s := fun hd => hjn (hd.trans hb)
      exact ⟨s, by rw [parent?, hrest s hsn]; exact hs, hbelow s j hjn hb⟩
  · exact hgone
  · intro j hj
    rw [hrest j hj]
    cases hn : a.get? j with
    | none => rfl
    | some n =>
      have hm : id ∉ n.children := by
        rw [← children_of_get? hn, h.mem_children, hp]
        simp
      rw [Option.map_some, Node.removeChild_of_not_mem hm]

/-! ## Nodes on their own -/

/-- The other arena has a node without a parent, and all else as it was. -/
structure Detached (a b : Arena) (id : NodeId) : Prop where
  size : b.slots.size = a.slots.size
  free : b.free = a.free
  core : ∀ j, b.core? j =
    (a.core? j).map fun n => if j = id then { n with parent := none } else n.removeChild id
  get?_rest : ∀ j, ¬a.Below id j → b.get? j = (a.get? j).map (·.removeChild id)

namespace Detached

theorem unlinked (h : Detached a b id) (ha : a.WellFormed) : Unlinked a b id where
  size := h.size
  free := h.free
  contains j := by rw [contains_eq_core, h.core, Option.isSome_map, contains_eq_core]
  parent? j := by
    rw [parent?_eq_core, h.core, parent?_eq_core]
    cases a.core? j <;> by_cases hj : j = id <;> simp [hj]
  children j := by
    have hm : id ∉ a.children id := fun hm => ha.parent?_ne (ha.mem_children.1 hm) rfl
    by_cases hj : j = id
    · subst hj
      rw [List.erase_of_not_mem hm, children_eq_core, h.core, children_eq_core]
      cases a.core? j <;> simp
    · rw [children_eq_core, h.core, children_eq_core]
      cases a.core? j <;> simp [hj]

theorem subtree_self (h : Detached a b id) (ha : a.WellFormed) (hid : a.contains id = true) :
    b.subtree id = a.subtree id := by
  have hu := h.unlinked ha
  refine subtree_congr ha (hu.wellFormed ha) hid fun j hj => ?_
  refine ⟨by rw [hu.contains, hj.contains hid], ?_⟩
  rw [hu.children, List.erase_of_not_mem]
  exact fun hm => ha.acyclic (ha.mem_children.1 hm) hj

/-- A change at or below the node that touches no link. -/
theorem trans_sameLinks (h : Detached a b id) (ha : a.WellFormed) (hl : SameLinks b c)
    (hrest : ∀ j, ¬a.Below id j → c.get? j = b.get? j) : Cut a (c.release id).2 id := by
  have hu := h.unlinked ha
  have hc := hl.wellFormed (hu.wellFormed ha)
  have hp : c.parent? id = none := by rw [hl.parent?, hu.parent?, if_pos rfl]
  have hcut := hc.cut_release hp
  have hbelow : ∀ j, c.Below id j ↔ a.Below id j := fun j => by rw [hl.below, hu.below_self_iff ha]
  have hno : ∀ j, (c.get? j).map (·.removeChild id) = c.get? j := by
    intro j
    cases hn : c.get? j with
    | none => rfl
    | some n =>
      have hm : id ∉ n.children := by
        rw [← children_of_get? hn, hc.mem_children, hp]
        simp
      rw [Option.map_some, Node.removeChild_of_not_mem hm]
  constructor
  · exact hcut.wellFormed
  · exact fun j hj => hcut.get?_gone j ((hbelow j).2 hj)
  · intro j hj
    rw [hcut.get?_rest j (by rwa [hbelow]), hno, hrest j hj, h.get?_rest j hj]

theorem cut_release (h : Detached a b id) (ha : a.WellFormed) : Cut a (b.release id).2 id :=
  h.trans_sameLinks ha (.refl b) fun _ _ => rfl

end Detached

/-- A node that stood below `p` without its parent, before what is below it forgets its paths. -/
def unlink (a : Arena) (p id : NodeId) : Arena :=
  (a.modify p (·.removeChild id)).modify id fun n => { n with parent := none }

theorem WellFormed.removeChild_eq_self (h : a.WellFormed) (id : NodeId) (hn : a.get? j = some n)
    (hp : a.parent? id ≠ some j) : n.removeChild id = n := by
  refine Node.removeChild_of_not_mem fun hm => hp ?_
  rwa [← h.mem_children, children_of_get? hn]

theorem WellFormed.get?_unlink (h : a.WellFormed) (hp : a.parent? id = some p) (j : NodeId) :
    (a.unlink p id).get? j =
      (a.get? j).map fun n => if j = id then { n with parent := none } else n.removeChild id := by
  have hne := h.parent?_ne hp
  rw [unlink, get?_modify, get?_modify]
  cases hn : a.get? j with
  | none => simp
  | some n =>
    by_cases hj : j = id
    · subst hj
      simp [Ne.symm hne]
    · by_cases hjp : j = p
      · subst hjp
        simp [hne]
      · have := h.removeChild_eq_self id hn (by rw [hp]; simpa using Ne.symm hjp)
        simp [hj, hjp, this]

theorem WellFormed.detached_unlink (h : a.WellFormed) (hp : a.parent? id = some p) :
    Detached a (a.unlink p id) id := by
  have hget := h.get?_unlink hp
  refine ⟨by simp [unlink], rfl, fun j => ?_, fun j hj => ?_⟩
  · rw [core?, hget, core?]
    cases a.get? j with
    | none => rfl
    | some n => by_cases hj : j = id <;> simp [hj, Node.forgetPath, Node.removeChild]
  · have hne : j ≠ id := by
      rintro rfl
      exact hj (.refl a j)
    simp only [hget, if_neg hne]

theorem Detached.forgetPaths (h : Detached a b id) (ha : a.WellFormed) :
    Detached a (b.forgetPaths id) id := by
  have hu := h.unlinked ha
  have hal := alike_forgetPaths b id
  refine ⟨hal.size.trans h.size, hal.free.trans h.free, fun j => (hal.core j).trans (h.core j),
    fun j hj => ?_⟩
  rw [get?_forgetPaths, if_neg, h.get?_rest j hj]
  intro hm
  exact hj ((hu.below_self_iff ha).1 ((hu.wellFormed ha).below_of_mem_subtree hm))

theorem detach_of_parent?_eq_none (hp : a.parent? id = none) : a.detach id = (none, a) := by
  change (a.get? id).bind (·.parent) = none at hp
  rw [detach, hp]

theorem detach_of_parent? (hp : a.parent? id = some p) :
    a.detach id = (some p, (a.unlink p id).forgetPaths id) := by
  change (a.get? id).bind (·.parent) = some p at hp
  rw [detach, hp]
  rfl

theorem WellFormed.detached_self (h : a.WellFormed) (hp : a.parent? id = none) : Detached a a id := by
  refine ⟨rfl, rfl, fun j => ?_, fun j _ => ?_⟩
  · cases hn : a.get? j with
    | none => simp [core?, hn]
    | some n =>
      rw [core?_of_get? hn, Option.map_some, Option.some.injEq]
      split
      · rename_i hj
        subst hj
        rw [parent?_of_get? hn] at hp
        simp [Node.forgetPath, hp]
      · exact (congrArg Node.forgetPath (h.removeChild_eq_self id hn (by simp [hp]))).symm
  · cases hn : a.get? j with
    | none => rfl
    | some n => rw [Option.map_some, h.removeChild_eq_self id hn (by simp [hp])]

theorem WellFormed.detached_detach (h : a.WellFormed) (id : NodeId) :
    Detached a (a.detach id).2 id := by
  cases hp : a.parent? id with
  | none =>
    rw [detach_of_parent?_eq_none hp]
    exact h.detached_self hp
  | some p =>
    rw [detach_of_parent? hp]
    exact (h.detached_unlink hp).forgetPaths h

end Arena

end FileIndex
