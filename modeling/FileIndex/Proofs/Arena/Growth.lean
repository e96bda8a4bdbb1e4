/-
Growth: an arena with a new tree in it, on its own or below a node that was there (`Grown`). Whatever
makes nodes (a walk that is taken in, a path that is added) makes an arena grow, and what was there stays
as it was, apart from the one node that has a child more.
-/
import FileIndex.Proofs.Arena.Links

namespace FileIndex

/-- A node with one child more. -/
def Node.withChild (n : Node) (c : NodeId) : Node := { n with children := n.children ++ [c] }

theorem Node.addChild_of_not_mem {n : Node} {c : NodeId} (h : c ∉ n.children) :
    n.addChild c = n.withChild c := by
  simp [Node.addChild, Node.withChild, h]

namespace Arena

variable {a b c : Arena} {id i j p q top child : NodeId} {n : Node} {parent : Option NodeId}
  {f : Node → Node}

/-- The other arena has a new tree under `top`, which stands below `parent` or on its own. -/
structure Grown (a b : Arena) (parent : Option NodeId) (top : NodeId) : Prop where
  wellFormed : b.WellFormed
  contains_top : b.contains top = true
  parent?_top : b.parent? top = parent
  contains_parent : ∀ p, parent = some p → a.contains p = true
  contains_iff : ∀ j, b.contains j = true ↔ a.contains j = true ∨ b.Below top j
  fresh : ∀ j, b.Below top j → ¬a.contains j = true
  get?_old : ∀ j, a.contains j = true →
    b.get? j = (a.get? j).map fun n => if parent = some j then n.withChild top else n

namespace Grown

theorem contains_old (h : Grown a b parent top) (hj : a.contains j = true) : b.contains j = true :=
  (h.contains_iff j).2 (.inl hj)

theorem parent?_old (h : Grown a b parent top) (hj : a.contains j = true) :
    b.parent? j = a.parent? j := by
  obtain ⟨n, hn⟩ := Arena.contains_iff.1 hj
  simp only [Arena.parent?, h.get?_old j hj, hn, Option.map_some, Option.bind_some]
  split <;> rfl

theorem children_old (h : Grown a b parent top) (hj : a.contains j = true) :
    b.children j = if parent = some j then a.children j ++ [top] else a.children j := by
  obtain ⟨n, hn⟩ := Arena.contains_iff.1 hj
  simp only [Arena.children, h.get?_old j hj, hn, Option.map_some, Option.getD_some]
  split <;> rfl

theorem below_old (h : Grown a b parent top) (ha : a.WellFormed) (hj : a.contains j = true) :
    b.Below i j ↔ a.Below i j := by
  constructor
  · intro hb
    induction hb with
    | refl => rfl
    | tail _ hp ih =>
      rw [h.parent?_old hj] at hp
      exact (ih (ha.contains_parent hp)).tail hp
  · intro hb
    induction hb with
    | refl => rfl
    | tail _ hp ih => exact (ih (ha.contains_parent hp)).tail (by rwa [h.parent?_old hj])

/-- What stands above a new node is new or stands above the new tree. -/
theorem below_new (h : Grown a b parent top) (ha : a.WellFormed) (hj : b.Below top j) :
    b.Below i j ↔ b.Below top i ∧ b.Below i j ∨ ∃ p, parent = some p ∧ a.Below i p := by
  constructor
  · intro hb
    rcases hj.total hb with ht | ht
    · exact .inl ⟨ht, hb⟩
    · rcases ht.cases_tail with rfl | ⟨p, hp, hip⟩
      · exact .inl ⟨.refl b _, hb⟩
      · rw [h.parent?_top] at hp
        exact .inr ⟨p, hp, (h.below_old ha (h.contains_parent p hp)).1 hip⟩
  · rintro (⟨-, hb⟩ | ⟨p, rfl, hb⟩)
    · exact hb
    · exact (((h.below_old ha (h.contains_parent p rfl)).2 hb).tail h.parent?_top).trans hj

/-- Growth on top of growth, below a new node. -/
theorem inside (h : Grown a b parent top) (hq : b.Below top q) (k : Grown b c (some q) child) :
    Grown a c parent top where
  wellFormed := k.wellFormed
  contains_top := k.contains_old h.contains_top
  parent?_top := by rw [k.parent?_old h.contains_top, h.parent?_top]
  contains_parent := h.contains_parent
  contains_iff j := by
    rw [k.contains_iff]
    constructor
    · rintro (hj | hj)
      · rcases (h.contains_iff j).1 hj with ho | hn
        · exact .inl ho
        · exact .inr ((k.below_old h.wellFormed hj).2 hn)
      · exact .inr ((k.below_new h.wellFormed hj).2 (.inr ⟨q, rfl, hq⟩))
    · rintro (hj | hj)
      · exact .inl (h.contains_old hj)
      · exact (k.contains_iff j).1 (hj.contains (k.contains_old h.contains_top))
  fresh j hj := by
    rcases (k.contains_iff j).1 (hj.contains (k.contains_old h.contains_top)) with ho | hn
    · exact h.fresh j ((k.below_old h.wellFormed ho).1 hj)
    · exact fun hc => k.fresh j hn (h.contains_old hc)
  get?_old j hj := by
    have hne : q ≠ j := by
      rintro rfl
      exact h.fresh q hq hj
    rw [k.get?_old j (h.contains_old hj), h.get?_old j hj]
    simp [hne, Function.comp_def]

/-- A change of new nodes alone that touches no link. -/
theorem trans_sameLinks (h : Grown a b parent top) (hl : SameLinks b c)
    (hold : ∀ j, a.contains j = true → c.get? j = b.get? j) : Grown a c parent top where
  wellFormed := hl.wellFormed h.wellFormed
  contains_top := by rw [hl.contains, h.contains_top]
  parent?_top := by rw [hl.parent?, h.parent?_top]
  contains_parent := h.contains_parent
  contains_iff j := by rw [hl.contains, hl.below, h.contains_iff]
  fresh j hj := h.fresh j (by rwa [hl.below] at hj)
  get?_old j hj := by rw [hold j hj, h.get?_old j hj]

end Grown

/-! ## A new node -/

theorem WellFormed.grown_insert (h : a.WellFormed) (hp : n.parent = none) (hc : n.children = []) :
    Grown a (a.insert n).2 none (a.insert n).1 := by
  have hget := h.get?_insert n
  have hnone := h.get?_insert_self n
  have hfree := FreeList.insert h.toFreeList n
  generalize (a.insert n).1 = id at hget hnone
  generalize (a.insert n).2 = b at hget hfree
  have hself : b.get? id = some n := by rw [hget, if_pos rfl]
  have hcontains : ∀ j, b.contains j = true ↔ a.contains j = true ∨ j = id := by
    intro j
    rw [Arena.contains, hget, Arena.contains]
    by_cases hj : j = id
    · simp [hj]
    · simp [hj]
  have hparent : ∀ j, b.parent? j = a.parent? j := by
    intro j
    rw [Arena.parent?, hget, Arena.parent?]
    split
    · rename_i hj
      rw [hj, hnone, Option.bind_some, hp, Option.bind_none]
    · rfl
  have hchildren : ∀ j, b.children j = a.children j := by
    intro j
    rw [Arena.children, hget, Arena.children]
    split
    · rename_i hj
      rw [hj, hnone, Option.map_some, Option.getD_some, hc, Option.map_none, Option.getD_none]
    · rfl
  have hbelow : b.Below = a.Below := by simp only [Below, hparent]
  have hid : ∀ j, a.Below id j ↔ j = id := by
    intro j
    constructor
    · intro hb
      rcases hb.cases_head with rfl | ⟨q, hq, -⟩
      · rfl
      · have := h.contains_parent hq
        rw [Arena.contains, hnone] at this
        cases this
    · rintro rfl
      rfl
  constructor
  · refine { toFreeList := hfree, children_nodup := ?_, mem_children := ?_, grounded := ?_ }
    · intro p
      rw [hchildren]
      exact h.children_nodup p
    · intro p c
      rw [hchildren, hparent]
      exact h.mem_children
    · intro j hj
      rw [hbelow]
      rcases (hcontains j).1 hj with hj | rfl
      · obtain ⟨s, hs, hb⟩ := h.grounded hj
        exact ⟨s, by rw [hparent, hs], hb⟩
      · exact ⟨j, by rw [parent?_of_get? hself, hp], .refl a j⟩
  · exact Arena.contains_iff.2 ⟨n, hself⟩
  · rw [parent?_of_get? hself, hp]
  · intro p hp
    cases hp
  · intro j
    rw [hcontains, hbelow, hid]
  · intro j hj
    rw [hbelow, hid] at hj
    subst hj
    rw [← get?_eq_none, hnone]
  · intro j hj
    have hne : j ≠ id := by
      rintro rfl
      rw [Arena.contains, hnone] at hj
      cases hj
    rw [hget, if_neg hne]
    simp

/-! ## A new child -/

/-- What hangs a node on another: the node learns its parent, the parent its child. -/
def linked (a : Arena) (p top : NodeId) (add : Node → Node) : Arena :=
  (a.modify top fun n => { n with parent := some p }).modify p add

theorem get?_linked (a : Arena) (hne : p ≠ top) (add : Node → Node) (j : NodeId) :
    (a.linked p top add).get? j =
      if j = p then (a.get? j).map add
      else if j = top then (a.get? j).map fun n => { n with parent := some p } else a.get? j := by
  rw [linked, get?_modify, get?_modify]
  by_cases hj : j = p
  · subst hj
    simp [hne]
  · simp [hj]

/-- A node without a parent is listed nowhere, so the list that gets it grows. -/
theorem WellFormed.get?_linked {add : Node → Node} (hb : b.WellFormed) (hpar : b.parent? top = none)
    (hne : p ≠ top) (hadd : ∀ n, top ∉ n.children → add n = n.withChild top) (j : NodeId) :
    (b.linked p top add).get? j =
      if j = p then (b.get? j).map (·.withChild top)
      else if j = top then (b.get? j).map fun n => { n with parent := some p } else b.get? j := by
  rw [Arena.get?_linked b hne]
  split
  · rename_i hj
    cases hm : b.get? j with
    | none => rfl
    | some m =>
      have hnot : top ∉ m.children := by
        rw [← children_of_get? hm, hb.mem_children, hpar]
        simp
      rw [Option.map_some, Option.map_some, hadd m hnot]
  · rfl

theorem WellFormed.isLinked {add : Node → Node} (hb : b.WellFormed) (hpar : b.parent? top = none)
    (hne : p ≠ top) (hp : b.contains p = true) (ht : b.contains top = true)
    (hadd : ∀ n, top ∉ n.children → add n = n.withChild top) :
    Linked b (b.linked p top add) p top := by
  obtain ⟨m, hm⟩ := Arena.contains_iff.1 hp
  obtain ⟨l, hl⟩ := Arena.contains_iff.1 ht
  have hget := hb.get?_linked hpar hne hadd
  refine ⟨by simp [Arena.linked], rfl, fun j => ?_, fun j => ?_, fun j => ?_⟩
  · simp only [Arena.contains, hget]
    split
    · simp
    · split <;> simp
  · simp only [Arena.parent?, hget]
    by_cases hj : j = p
    · subst hj
      simp [hne, hm, Node.withChild]
    · by_cases hjt : j = top
      · subst hjt
        simp [hj, hl]
      · simp [hj, hjt]
  · simp only [Arena.children, hget]
    by_cases hj : j = p
    · subst hj
      simp [hm, Node.withChild]
    · by_cases hjt : j = top
      · subst hjt
        simp [hj, hl]
      · simp [hj, hjt]

theorem Grown.ne_top (h : Grown a b none top) (hp : a.contains p = true) : p ≠ top := by
  rintro rfl
  exact h.fresh p (.refl b p) hp

theorem Grown.isLinked {add : Node → Node} (h : Grown a b none top) (hp : a.contains p = true)
    (hadd : ∀ n, top ∉ n.children → add n = n.withChild top) :
    Linked b (b.linked p top add) p top :=
  h.wellFormed.isLinked h.parent?_top (h.ne_top hp) (h.contains_old hp) h.contains_top hadd

theorem Grown.below_linked {add : Node → Node} (h : Grown a b none top) (hp : a.contains p = true)
    (hadd : ∀ n, top ∉ n.children → add n = n.withChild top) (j : NodeId) :
    (b.linked p top add).Below top j ↔ b.Below top j := by
  rw [(h.isLinked hp hadd).below_iff h.parent?_top]
  exact ⟨fun hj => hj.elim id fun hj => absurd hp (h.fresh p hj.1), .inl⟩

/-- The tree that stood on its own stands below a node of the arena as it was before. -/
theorem Grown.linked {add : Node → Node} (h : Grown a b none top) (hp : a.contains p = true)
    (hadd : ∀ n, top ∉ n.children → add n = n.withChild top) :
    Grown a (b.linked p top add) (some p) top := by
  have hget := h.wellFormed.get?_linked h.parent?_top (h.ne_top hp) hadd
  have hlink := h.isLinked hp hadd
  have hbelow := h.below_linked hp hadd
  constructor
  · exact hlink.wellFormed h.wellFormed h.contains_top (h.contains_old hp) h.parent?_top
      fun hb => h.fresh p hb hp
  · rw [hlink.contains, h.contains_top]
  · rw [hlink.parent?, if_pos rfl]
  · intro q hq
    rw [Option.some.injEq] at hq
    exact hq ▸ hp
  · intro j
    rw [hlink.contains, hbelow, h.contains_iff]
  · intro j hj
    exact h.fresh j ((hbelow j).1 hj)
  · intro j hj
    have hjt : j ≠ top := by
      rintro rfl
      exact h.fresh j (.refl b j) hj
    rw [hget, h.get?_old j hj]
    by_cases hjp : j = p
    · subst hjp
      simp
    · simp [hjp, hjt, Ne.symm hjp]

theorem Grown.attachNew (h : Grown a b none top) (hp : a.contains p = true) :
    ∃ c, b.attachNew p top = .ok c ∧ Grown a c (some p) top ∧
      (∀ j, c.Below top j ↔ b.Below top j) ∧ ∀ j, b.Below top j →
        c.get? j = (b.get? j).map fun n => if j = top then { n with parent := some p } else n := by
  have hadd : ∀ n : Node, top ∉ n.children →
      (fun n : Node => { n with children := n.children ++ [top] }) n = n.withChild top := fun _ _ => rfl
  refine ⟨_, ?_, h.linked hp hadd, h.below_linked hp hadd, fun j hj => ?_⟩
  · rw [Arena.attachNew, h.contains_top, h.contains_old hp]
    rfl
  · have hjp : j ≠ p := by
      rintro rfl
      exact h.fresh j hj hp
    rw [h.wellFormed.get?_linked h.parent?_top (h.ne_top hp) hadd, if_neg hjp]
    split <;> simp

/-- A node below another, with the paths in it forgotten. -/
def attached (a : Arena) (p top : NodeId) : Arena := (a.linked p top (·.addChild top)).forgetPaths top

theorem attach_eq (hp : a.contains p = true) (ht : a.contains top = true) :
    a.attach p top = .ok (a.attached p top) := by
  rw [Arena.attach, ht, hp]
  rfl

theorem WellFormed.linked_attached (ha : a.WellFormed) (hpar : a.parent? top = none) (hne : p ≠ top)
    (hp : a.contains p = true) (ht : a.contains top = true) : Linked a (a.attached p top) p top := by
  have hl := ha.isLinked hpar hne hp ht fun _ => Node.addChild_of_not_mem
  have hs := (alike_forgetPaths (a.linked p top (·.addChild top)) top).sameLinks
  exact ⟨hs.size.trans hl.size, hs.free.trans hl.free, fun j => (hs.contains j).trans (hl.contains j),
    fun j => (hs.parent? j).trans (hl.parent? j), fun j => (hs.children j).trans (hl.children j)⟩

theorem Grown.attach (h : Grown a b none top) (hp : a.contains p = true) :
    ∃ c, b.attach p top = .ok c ∧ Grown a c (some p) top ∧
      (∀ j, c.Below top j ↔ b.Below top j) ∧ ∀ j, b.Below top j → c.get? j = (b.get? j).map fun n =>
        if j = top then { n.forgetPath with parent := some p } else n.forgetPath := by
  have hadd : ∀ n : Node, top ∉ n.children → n.addChild top = n.withChild top :=
    fun _ => Node.addChild_of_not_mem
  have hg := h.linked hp hadd
  have hal := alike_forgetPaths (b.linked p top (·.addChild top)) top
  have hsub : ∀ j, j ∈ (b.linked p top (·.addChild top)).subtree top ↔ b.Below top j := fun j => by
    rw [hg.wellFormed.mem_subtree hg.contains_top, h.below_linked hp hadd]
  refine ⟨_, attach_eq (h.contains_old hp) h.contains_top,
    hg.trans_sameLinks hal.sameLinks fun j hj => ?_, fun j => ?_, fun j hj => ?_⟩
  · rw [attached, get?_forgetPaths, if_neg fun hm => h.fresh j ((hsub j).1 hm) hj]
  · rw [attached, hal.sameLinks.below, h.below_linked hp hadd]
  · have hjp : j ≠ p := by
      rintro rfl
      exact h.fresh j hj hp
    rw [attached, get?_forgetPaths, if_pos ((hsub j).2 hj), h.wellFormed.get?_linked h.parent?_top (h.ne_top hp) hadd, if_neg hjp]
    split <;> cases b.get? j <;> rfl

/-! ## Nodes that know no path -/

/-- Growth by nodes that know no path. -/
structure Sprouted (a b : Arena) (parent : Option NodeId) (top : NodeId) : Prop
    extends Grown a b parent top where
  unknown : ∀ j n, b.Below top j → b.get? j = some n → n.knownPath = none

theorem WellFormed.sprouted_insert (h : a.WellFormed) (hp : n.parent = none) (hc : n.children = [])
    (hk : n.knownPath = none) : Sprouted a (a.insert n).2 none (a.insert n).1 where
  toGrown := h.grown_insert hp hc
  unknown j m hj hm := by
    have hg := h.grown_insert hp hc
    rw [FreeList.get?_insert h.toFreeList] at hm
    split at hm
    · rw [Option.some.injEq] at hm
      rw [← hm, hk]
    · exact absurd (Arena.contains_iff.2 ⟨m, hm⟩) (hg.fresh j hj)

namespace Sprouted

theorem attach (h : Sprouted a b none top) (hp : a.contains p = true) :
    ∃ c, b.attach p top = .ok c ∧ Sprouted a c (some p) top := by
  obtain ⟨c, hc, hg, hbelow, hget⟩ := h.toGrown.attach hp
  refine ⟨c, hc, hg, fun j m hj hm => ?_⟩
  rw [hget j ((hbelow j).1 hj), Option.map_eq_some_iff] at hm
  obtain ⟨n, -, rfl⟩ := hm
  split <;> rfl

theorem inside (h : Sprouted a b parent top) (hq : b.Below top q) (k : Sprouted b c (some q) child) :
    Sprouted a c parent top where
  toGrown := h.toGrown.inside hq k.toGrown
  unknown j m hj hm := by
    have hg := k.toGrown
    rcases (hg.contains_iff j).1 (Arena.contains_iff.2 ⟨m, hm⟩) with ho | hn
    · rw [hg.get?_old j ho, Option.map_eq_some_iff] at hm
      obtain ⟨n, hn, rfl⟩ := hm
      have := h.unknown j n ((hg.below_old h.wellFormed ho).1 hj) hn
      split <;> exact this
    · exact k.unknown j m hn hm

/-- A change of new nodes alone that touches no link and makes no path known. -/
theorem modify (h : Sprouted a b parent top) (ids : List NodeId) (hids : ∀ i ∈ ids, b.Below top i)
    (hp : ∀ n, (f n).parent = n.parent) (hc : ∀ n, (f n).children = n.children)
    (hk : ∀ n, n.knownPath = none → (f n).knownPath = none) :
    Sprouted a (b.modifyAll ids f) parent top := by
  have hget : ∀ (ids : List NodeId) (b : Arena) j m, (b.modifyAll ids f).get? j = some m →
      ∃ n, b.get? j = some n ∧ (n.knownPath = none → m.knownPath = none) ∧ (j ∉ ids → m = n) := by
    intro ids
    induction ids with
    | nil => exact fun b j m hm => ⟨m, hm, id, fun _ => rfl⟩
    | cons i ids ih =>
      intro b j m hm
      rw [modifyAll_cons] at hm
      obtain ⟨n, hn, hu, hs⟩ := ih _ j m hm
      rw [get?_modify] at hn
      split at hn
      · rename_i hj
        obtain ⟨l, hl, rfl⟩ := Option.map_eq_some_iff.1 hn
        exact ⟨l, hl, fun h => hu (hk l h), fun hm => absurd (by simp [hj]) hm⟩
      · exact ⟨n, hn, hu, fun hm => hs fun hmem => hm (by simp [hmem])⟩
  have hl := sameLinks_modifyAll hp hc ids b
  refine ⟨h.toGrown.trans_sameLinks hl fun j hj => ?_, fun j m hj hm => ?_⟩
  · have hnot : j ∉ ids := fun hm => h.fresh j (hids j hm) hj
    cases hm : (b.modifyAll ids f).get? j with
    | none =>
      have := hl.contains j
      rw [Arena.contains, hm] at this
      exact (get?_eq_none.2 (by simp [← this])).symm
    | some m =>
      obtain ⟨n, hn, -, hs⟩ := hget ids b j m hm
      rw [hn, hs hnot]
  · obtain ⟨n, hn, hu, -⟩ := hget ids b j m hm
    exact hu (h.unknown j n (by rwa [hl.below] at hj) hn)

end Sprouted

end Arena

end FileIndex
