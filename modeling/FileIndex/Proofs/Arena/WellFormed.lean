/-
Arenas in order: children lists and parent links say the same, no node is listed twice, every node stands
below a topmost one, and the free list holds the free slots. That a node stands below another (`Below`)
is read off the parent links, of which every node has at most one; so there are no cycles, and what stands
above a node is a chain.
-/
import FileIndex.Proofs.Arena.Slots
import Mathlib.Logic.Relation
import Mathlib.Tactic.ByContra

namespace FileIndex.Arena

variable {a b c : Arena} {id i j p q s t top : NodeId} {n : Node} {f : Node → Node}

/-- A node is another or stands below it. -/
def Below (a : Arena) : NodeId → NodeId → Prop :=
  Relation.ReflTransGen fun p c => a.parent? c = some p

/-- An arena in order. -/
structure WellFormed (a : Arena) : Prop extends a.FreeList where
  children_nodup : ∀ p, (a.children p).Nodup
  mem_children : ∀ {p c}, c ∈ a.children p ↔ a.parent? c = some p
  /-- Whoever goes up from a node comes to an end. -/
  grounded : ∀ {id}, a.contains id = true → ∃ top, a.parent? top = none ∧ a.Below top id

/-! ## Above and below -/

namespace Below

@[refl] theorem refl (a : Arena) (id : NodeId) : a.Below id id := Relation.ReflTransGen.refl

theorem trans (h : a.Below i j) (k : a.Below j id) : a.Below i id := Relation.ReflTransGen.trans h k

theorem tail (h : a.Below i p) (k : a.parent? j = some p) : a.Below i j :=
  Relation.ReflTransGen.tail h k

theorem single (h : a.parent? j = some p) : a.Below p j := (refl a p).tail h

/-- What stands below a node is that node or has a parent there. -/
theorem cases_tail (h : a.Below i j) : i = j ∨ ∃ p, a.parent? j = some p ∧ a.Below i p := by
  rcases Relation.ReflTransGen.cases_tail h with rfl | ⟨p, hb, hp⟩
  · exact .inl rfl
  · exact .inr ⟨p, hp, hb⟩

/-- What stands below a node is that node or stands below one of its children. -/
theorem cases_head (h : a.Below i j) : i = j ∨ ∃ q, a.parent? q = some i ∧ a.Below q j :=
  Relation.ReflTransGen.cases_head h

theorem eq_of_parent?_eq_none (h : a.Below i top) (ht : a.parent? top = none) : i = top := by
  rcases h.cases_tail with rfl | ⟨p, hp, -⟩
  · rfl
  · rw [ht] at hp; cases hp

theorem of_parent? (h : a.Below i j) (hne : i ≠ j) (hp : a.parent? j = some p) : a.Below i p := by
  rcases h.cases_tail with rfl | ⟨q, hq, hb⟩
  · exact absurd rfl hne
  · rw [hp, Option.some.injEq] at hq
    exact hq ▸ hb

/-- Of two nodes above a third one stands above the other. -/
theorem total (h : a.Below s j) (k : a.Below t j) : a.Below s t ∨ a.Below t s := by
  induction h with
  | refl => exact .inr k
  | tail hb hp ih =>
    rename_i m l
    by_cases hl : t = l
    · subst hl
      exact .inl (hb.tail hp)
    · exact ih (k.of_parent? hl hp)

theorem contains (h : a.Below i j) (hi : a.contains i = true) : a.contains j = true := by
  rcases h.cases_tail with rfl | ⟨p, hp, -⟩
  · exact hi
  · exact contains_of_parent? hp

end Below

/-! ## Consequences of order -/

namespace WellFormed

theorem contains_parent (h : a.WellFormed) (hp : a.parent? j = some p) : a.contains p = true :=
  contains_of_mem_children (h.mem_children.2 hp)

theorem contains_of_below (h : a.WellFormed) (hb : a.Below i j) (hj : a.contains j = true) :
    a.contains i = true := by
  induction hb with
  | refl => exact hj
  | tail _ hp ih => exact ih (h.contains_parent hp)

theorem acyclic (h : a.WellFormed) (hp : a.parent? j = some p) : ¬a.Below j p := by
  obtain ⟨top, ht, hb⟩ := h.grounded (contains_of_parent? hp)
  -- On the way down from the topmost node: a way back to a node goes through its parent, which would
  -- have one of its own.
  induction hb generalizing p with
  | refl => rw [ht] at hp; cases hp
  | tail hb hm ih =>
    rename_i m j
    rw [hm, Option.some.injEq] at hp
    subst hp
    intro hj
    rcases hj.cases_tail with rfl | ⟨z, hz, hjz⟩
    · exact ih hm (.refl a _)
    · exact ih hz ((Below.single hm).trans hjz)

theorem below_antisymm (h : a.WellFormed) (hij : a.Below i j) (hji : a.Below j i) : i = j := by
  rcases hij.cases_tail with rfl | ⟨p, hp, hb⟩
  · rfl
  · exact absurd (hji.trans hb) (h.acyclic hp)

theorem parent?_ne (h : a.WellFormed) (hp : a.parent? j = some p) : p ≠ j := by
  rintro rfl
  exact h.acyclic hp (.refl a _)

/-- Two children of one node have nothing in common below them. -/
theorem eq_of_below_siblings (h : a.WellFormed) (hs : a.parent? s = some p) (ht : a.parent? t = some p)
    (hj : a.Below s j) (hk : a.Below t j) : s = t := by
  by_contra hne
  rcases hj.total hk with hb | hb
  · exact h.acyclic hs (hb.of_parent? hne ht)
  · exact h.acyclic ht (hb.of_parent? (Ne.symm hne) hs)

end WellFormed

/-! ## Arenas with the same links -/

/-- Two arenas whose nodes have the same slots, parents and children. -/
structure SameLinks (a b : Arena) : Prop where
  size : b.slots.size = a.slots.size
  free : b.free = a.free
  contains : ∀ id, b.contains id = a.contains id
  parent? : ∀ id, b.parent? id = a.parent? id
  children : ∀ id, b.children id = a.children id

theorem Alike.sameLinks (h : Alike a b) : SameLinks a b :=
  ⟨h.size, h.free, h.contains, h.parent?, h.children⟩

namespace SameLinks

@[refl] theorem refl (a : Arena) : SameLinks a a := ⟨rfl, rfl, fun _ => rfl, fun _ => rfl, fun _ => rfl⟩

theorem symm (h : SameLinks a b) : SameLinks b a :=
  ⟨h.size.symm, h.free.symm, fun i => (h.contains i).symm, fun i => (h.parent? i).symm,
    fun i => (h.children i).symm⟩

theorem trans (h : SameLinks a b) (k : SameLinks b c) : SameLinks a c :=
  ⟨k.size.trans h.size, k.free.trans h.free, fun i => (k.contains i).trans (h.contains i),
    fun i => (k.parent? i).trans (h.parent? i), fun i => (k.children i).trans (h.children i)⟩

theorem below (h : SameLinks a b) : b.Below = a.Below := by
  simp only [Below, h.parent?]

theorem wellFormed (h : SameLinks a b) (hw : a.WellFormed) : b.WellFormed where
  nodup := h.free ▸ hw.nodup
  mem_iff id := by rw [h.free, hw.mem_iff, h.size, get?_eq_none, get?_eq_none, h.contains]
  children_nodup p := h.children p ▸ hw.children_nodup p
  mem_children := by
    intro p c
    rw [h.children, h.parent?]
    exact hw.mem_children
  grounded := by
    intro id hid
    rw [h.contains] at hid
    obtain ⟨top, ht, hb⟩ := hw.grounded hid
    exact ⟨top, by rw [h.parent?, ht], by rwa [h.below]⟩

theorem subtreeTo (h : SameLinks a b) (k : Nat) (id : NodeId) : b.subtreeTo k id = a.subtreeTo k id := by
  induction k generalizing id with
  | zero => rfl
  | succ k ih =>
    have hc := h.contains id
    have hk := h.children id
    simp only [Arena.contains, Arena.children] at hc hk
    simp only [Arena.subtreeTo]
    cases ha : a.get? id <;> cases hb : b.get? id <;> simp only [ha, hb] at hc hk
    · rfl
    · cases hc
    · cases hc
    · simp only [Option.map_some, Option.getD_some] at hk
      dsimp only
      rw [hk, funext ih]

theorem subtree (h : SameLinks a b) (id : NodeId) : b.subtree id = a.subtree id := by
  rw [Arena.subtree, h.size, h.subtreeTo]
  rfl

end SameLinks

/-- A change that touches no link. -/
theorem sameLinks_modify (hp : ∀ n, (f n).parent = n.parent) (hc : ∀ n, (f n).children = n.children) :
    SameLinks a (a.modify id f) where
  size := size_modify
  free := rfl
  contains j := by
    simp only [Arena.contains, get?_modify]
    split <;> cases a.get? j <;> rfl
  parent? j := by
    simp only [Arena.parent?, get?_modify]
    split <;> cases a.get? j <;> simp [hp]
  children j := by
    simp only [Arena.children, get?_modify]
    split <;> cases a.get? j <;> simp [hc]

theorem sameLinks_modifyAll (hp : ∀ n, (f n).parent = n.parent) (hc : ∀ n, (f n).children = n.children)
    (ids : List NodeId) (a : Arena) : SameLinks a (a.modifyAll ids f) := by
  induction ids generalizing a with
  | nil => rfl
  | cons i ids ih => exact (sameLinks_modify hp hc).trans (ih _)

end FileIndex.Arena
