/-
Slots, one by one: what every operation of an arena leaves in a slot, and when two arenas hold the same
nodes. Paths that nodes know come and go without any change to the tree, so that a node is mostly looked
at without its own (`core?`), and two arenas that differ in nothing else are alike (`Alike`).
-/
import FileIndex.Tree.Arena

namespace FileIndex

/-! ## Nodes without the path they know -/

@[simp] theorem Node.forgetPath_forgetPath (n : Node) : n.forgetPath.forgetPath = n.forgetPath := rfl

@[simp] theorem Node.forgetPath_parent (n : Node) : n.forgetPath.parent = n.parent := rfl

@[simp] theorem Node.forgetPath_children (n : Node) : n.forgetPath.children = n.children := rfl

@[simp] theorem Node.forgetPath_name (n : Node) : n.forgetPath.name = n.name := rfl

@[simp] theorem Node.forgetPath_metadata (n : Node) : n.forgetPath.metadata = n.metadata := rfl

@[simp] theorem Node.forgetPath_isDirectory (n : Node) : n.forgetPath.isDirectory = n.isDirectory := rfl

namespace Arena

variable {a b c : Arena} {id j : NodeId} {n : Node} {f : Node → Node}

/-! ## Looking into slots -/

theorem contains_iff : a.contains id = true ↔ ∃ n, a.get? id = some n := Option.isSome_iff_exists

theorem get?_eq_none : a.get? id = none ↔ ¬a.contains id = true := by
  simp [contains]

theorem get_of_get? (h : a.get? id = some n) : a.get id = .ok n := by simp [get, h]

theorem index_lt_of_get? (h : a.get? id = some n) : id.index < a.slots.size := by
  rw [get?, Option.join_eq_some_iff] at h
  exact (Array.getElem?_eq_some_iff.1 h).1

theorem index_lt_of_contains (h : a.contains id = true) : id.index < a.slots.size :=
  have ⟨_, hn⟩ := contains_iff.1 h
  index_lt_of_get? hn

/-- The node in a slot without the path it knows. -/
def core? (a : Arena) (id : NodeId) : Option Node := (a.get? id).map Node.forgetPath

/-- The parent of a node. -/
def parent? (a : Arena) (id : NodeId) : Option NodeId := (a.get? id).bind (·.parent)

/-- The children of a node. -/
def children (a : Arena) (id : NodeId) : List NodeId := ((a.get? id).map (·.children)).getD []

theorem parent?_of_get? (h : a.get? id = some n) : a.parent? id = n.parent := by simp [parent?, h]

theorem children_of_get? (h : a.get? id = some n) : a.children id = n.children := by
  simp [children, h]

theorem parent?_eq_core (a : Arena) (id : NodeId) : a.parent? id = (a.core? id).bind (·.parent) := by
  cases h : a.get? id <;> simp [parent?, core?, h]

theorem children_eq_core (a : Arena) (id : NodeId) :
    a.children id = ((a.core? id).map (·.children)).getD [] := by
  cases h : a.get? id <;> simp [children, core?, h]

theorem contains_eq_core (a : Arena) (id : NodeId) : a.contains id = (a.core? id).isSome := by
  simp [contains, core?]

theorem contains_of_parent? {p : NodeId} (h : a.parent? id = some p) : a.contains id = true := by
  obtain ⟨n, hn, -⟩ := Option.bind_eq_some_iff.1 h
  exact contains_iff.2 ⟨n, hn⟩

theorem contains_of_mem_children {p : NodeId} (h : id ∈ a.children p) : a.contains p = true := by
  cases hp : a.get? p with
  | none => simp [children, hp] at h
  | some m => exact contains_iff.2 ⟨m, hp⟩

/-! ## Changing the nodes in slots -/

@[simp] theorem get?_modify (a : Arena) (id : NodeId) (f : Node → Node) (j : NodeId) :
    (a.modify id f).get? j = if j = id then (a.get? j).map f else a.get? j := by
  obtain ⟨i⟩ := id
  obtain ⟨k⟩ := j
  simp only [get?, modify, Array.getElem?_modify, NodeId.mk.injEq]
  by_cases h : i = k
  · subst h
    cases a.slots[i]? <;> simp
  · rw [if_neg h, if_neg (fun e => h e.symm)]

@[simp] theorem size_modify : (a.modify id f).slots.size = a.slots.size := by simp [modify]

@[simp] theorem free_modify : (a.modify id f).free = a.free := rfl

@[simp] theorem live_modify : (a.modify id f).live = a.live := rfl

theorem modifyAll_cons (a : Arena) (i : NodeId) (ids : List NodeId) (f : Node → Node) :
    a.modifyAll (i :: ids) f = (a.modify i f).modifyAll ids f := rfl

/-- Where a second change would be none, a list of slots may name one of them twice. -/
theorem get?_modifyAll (hf : ∀ n, f (f n) = f n) (ids : List NodeId) (a : Arena) (j : NodeId) :
    (a.modifyAll ids f).get? j = if j ∈ ids then (a.get? j).map f else a.get? j := by
  induction ids generalizing a with
  | nil => simp [modifyAll]
  | cons i ids ih =>
    rw [modifyAll_cons, ih, get?_modify]
    by_cases hj : j = i
    · subst hj
      cases a.get? j <;> simp [hf]
    · simp [hj]

@[simp] theorem size_modifyAll (ids : List NodeId) (a : Arena) (f : Node → Node) :
    (a.modifyAll ids f).slots.size = a.slots.size := by
  induction ids generalizing a with
  | nil => rfl
  | cons i ids ih => rw [modifyAll_cons, ih, size_modify]

@[simp] theorem free_modifyAll (ids : List NodeId) (a : Arena) (f : Node → Node) :
    (a.modifyAll ids f).free = a.free := by
  induction ids generalizing a with
  | nil => rfl
  | cons i ids ih => rw [modifyAll_cons, ih, free_modify]

@[simp] theorem live_modifyAll (ids : List NodeId) (a : Arena) (f : Node → Node) :
    (a.modifyAll ids f).live = a.live := by
  induction ids generalizing a with
  | nil => rfl
  | cons i ids ih => rw [modifyAll_cons, ih, live_modify]

theorem get?_forgetPaths (a : Arena) (id j : NodeId) :
    (a.forgetPaths id).get? j =
      if j ∈ a.subtree id then (a.get? j).map Node.forgetPath else a.get? j :=
  get?_modifyAll Node.forgetPath_forgetPath _ a j

/-! ## Arenas with the same nodes -/

/-- Two arenas that differ at most in the paths that nodes know. -/
structure Alike (a b : Arena) : Prop where
  size : b.slots.size = a.slots.size
  free : b.free = a.free
  live : b.live = a.live
  core : ∀ id, b.core? id = a.core? id

namespace Alike

@[refl] theorem refl (a : Arena) : Alike a a := ⟨rfl, rfl, rfl, fun _ => rfl⟩

theorem symm (h : Alike a b) : Alike b a :=
  ⟨h.size.symm, h.free.symm, h.live.symm, fun id => (h.core id).symm⟩

theorem trans (h : Alike a b) (k : Alike b c) : Alike a c :=
  ⟨k.size.trans h.size, k.free.trans h.free, k.live.trans h.live, fun id => (k.core id).trans (h.core id)⟩

theorem contains (h : Alike a b) (id : NodeId) : b.contains id = a.contains id := by
  rw [contains_eq_core, contains_eq_core, h.core]

theorem parent? (h : Alike a b) (id : NodeId) : b.parent? id = a.parent? id := by
  rw [parent?_eq_core, parent?_eq_core, h.core]

theorem children (h : Alike a b) (id : NodeId) : b.children id = a.children id := by
  rw [children_eq_core, children_eq_core, h.core]

end Alike

theorem core?_of_get? (h : a.get? id = some n) : a.core? id = some n.forgetPath := by simp [core?, h]

theorem alike_forgetPaths (a : Arena) (id : NodeId) : Alike a (a.forgetPaths id) where
  size := size_modifyAll _ a _
  free := free_modifyAll _ a _
  live := live_modifyAll _ a _
  core j := by
    simp only [core?, get?_forgetPaths]
    split <;> cases a.get? j <;> rfl

/-- A change that touches nothing but what nodes know of their paths. -/
theorem alike_modify (hf : ∀ n, (f n).forgetPath = n.forgetPath) : Alike a (a.modify id f) where
  size := size_modify
  free := rfl
  live := rfl
  core j := by
    simp only [core?, get?_modify]
    split <;> cases a.get? j <;> simp [hf]

theorem alike_path? (a : Arena) (id : NodeId) : Alike a (a.path? id).2 := by
  unfold path?
  split
  · rfl
  · split
    · rfl
    · split
      · exact alike_modify fun _ => rfl
      · rfl

/-! ## Making and emptying slots -/

theorem get?_vacate (a : Arena) (id j : NodeId) :
    (a.vacate id).get? j = if j = id then none else a.get? j := by
  obtain ⟨i⟩ := id
  obtain ⟨k⟩ := j
  simp only [get?, vacate, Array.getElem?_setIfInBounds, NodeId.mk.injEq]
  by_cases h : i = k
  · subst h
    by_cases hi : i < a.slots.size <;> simp [hi]
  · rw [if_neg h, if_neg (fun e => h e.symm)]

@[simp] theorem size_vacate : (a.vacate id).slots.size = a.slots.size := by simp [vacate]

@[simp] theorem free_vacate : (a.vacate id).free = id :: a.free := rfl

/-- What the list of free slots has to be for a new node to get a slot of its own. -/
structure FreeList (a : Arena) : Prop where
  nodup : a.free.Nodup
  mem_iff : ∀ id, id ∈ a.free ↔ id.index < a.slots.size ∧ a.get? id = none

theorem FreeList.get?_insert_self (h : a.FreeList) (n : Node) : a.get? (a.insert n).1 = none := by
  unfold insert
  split
  · rename_i id free hf
    exact ((h.mem_iff id).1 (by simp [hf])).2
  · simp [get?]

theorem FreeList.get?_insert (h : a.FreeList) (n : Node) (j : NodeId) :
    (a.insert n).2.get? j = if j = (a.insert n).1 then some n else a.get? j := by
  unfold insert
  split
  · rename_i id free hf
    have hb : id.index < a.slots.size := ((h.mem_iff id).1 (by simp [hf])).1
    obtain ⟨i⟩ := id
    obtain ⟨k⟩ := j
    simp only [get?, Array.getElem?_setIfInBounds, NodeId.mk.injEq]
    by_cases he : i = k
    · subst he
      simp [hb]
    · rw [if_neg he, if_neg (fun e => he e.symm)]
  · obtain ⟨k⟩ := j
    simp only [get?, Array.getElem?_push, NodeId.mk.injEq]
    split <;> rfl

theorem FreeList.insert (h : a.FreeList) (n : Node) : (a.insert n).2.FreeList := by
  have hget := h.get?_insert n
  unfold Arena.insert at hget ⊢
  split at hget
  · rename_i id free hf
    have hnd : (id :: free).Nodup := hf ▸ h.nodup
    constructor
    · exact (List.nodup_cons.1 hnd).2
    · intro j
      simp only at hget
      rw [hget j]
      have hm := h.mem_iff j
      rw [hf, List.mem_cons] at hm
      simp only [Array.size_setIfInBounds]
      by_cases hj : j = id
      · subst hj
        simp [(List.nodup_cons.1 hnd).1]
      · simpa [hj] using hm
  · rename_i hf
    constructor
    · exact hf ▸ h.nodup
    · intro j
      simp only at hget
      rw [hget j]
      have hm := h.mem_iff j
      rw [hf] at hm ⊢
      obtain ⟨k⟩ := j
      simp only [List.not_mem_nil, Array.size_push, NodeId.mk.injEq, false_iff] at hm ⊢
      rintro ⟨hk, hn⟩
      split at hn
      · cases hn
      · rename_i hne
        exact hm ⟨by omega, hn⟩

theorem FreeList.vacate (h : a.FreeList) (hn : a.get? id = some n) : (a.vacate id).FreeList where
  nodup := List.nodup_cons.2 ⟨fun hm => by simp [((h.mem_iff id).1 hm).2] at hn, h.nodup⟩
  mem_iff j := by
    rw [free_vacate, List.mem_cons, size_vacate, get?_vacate, h.mem_iff]
    by_cases hj : j = id
    · subst hj
      simp [index_lt_of_get? hn]
    · simp [hj]

end Arena

end FileIndex
