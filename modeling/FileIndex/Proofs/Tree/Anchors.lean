/-
The directories that nodes are anchored in. The root of a tree is anchored in the directory that the path of its area
names (`Tree.Anchored`). Cuts, growth and renames leave the anchors of nodes as they are.
-/
import FileIndex.Proofs.Tree.Mending

namespace FileIndex

open Arena

variable {a b : Arena} {id j top : NodeId} {n : Node} {f : Node → Node} {name : String} {parent : Option NodeId}
  {t u : Tree}

namespace Arena

/-- The directory that a node is anchored in. -/
def anchor? (a : Arena) (j : NodeId) : Option Path := (a.get? j).bind (·.anchor)

theorem anchor?_of_get? (h : a.get? j = some n) : a.anchor? j = n.anchor := by
  rw [anchor?, h, Option.bind_some]

theorem anchor?_of_stage? (h : b.stage? j = a.stage? j) : b.anchor? j = a.anchor? j := by
  have key : ∀ c : Arena, c.anchor? j = (c.stage? j).bind (·.2.1) := fun c => by
    cases hn : c.get? j <;> simp [anchor?, stage?, hn]
  rw [key, key, h]

theorem name?_of_stage? (h : b.stage? j = a.stage? j) : b.name? j = a.name? j := by
  have key : ∀ c : Arena, c.name? j = (c.stage? j).map (·.2.2) := fun c => by
    cases hn : c.get? j <;> simp [name?, stage?, hn]
  rw [key, key, h]

theorem anchor?_eq_core (a : Arena) (j : NodeId) : a.anchor? j = (a.core? j).bind (·.anchor) := by
  cases hn : a.get? j <;> simp [anchor?, core?, hn, Node.forgetPath]

theorem Alike.anchor? (h : Alike a b) (j : NodeId) : b.anchor? j = a.anchor? j := by
  rw [anchor?_eq_core, h.core, anchor?_eq_core]

theorem Detached.anchor? (h : Detached a b id) (j : NodeId) : b.anchor? j = a.anchor? j := by
  rw [anchor?_eq_core, h.core, anchor?_eq_core]
  cases a.core? j with
  | none => rfl
  | some n =>
    rw [Option.map_some]
    split <;> rfl

theorem Cut.anchor? (h : Cut a b id) (hj : b.contains j = true) : b.anchor? j = a.anchor? j := by
  rw [Arena.anchor?, h.get?_rest j (h.not_below hj), Arena.anchor?]
  cases a.get? j <;> rfl

theorem Grown.anchor?_old (h : Grown a b parent top) (hj : a.contains j = true) : b.anchor? j = a.anchor? j := by
  obtain ⟨n, hn⟩ := Arena.contains_iff.1 hj
  simp only [anchor?, h.get?_old j hj, hn, Option.map_some, Option.bind_some]
  split <;> rfl

theorem name?_modify (hf : ∀ n, (f n).name = n.name) (a : Arena) (id j : NodeId) :
    (a.modify id f).name? j = a.name? j := by
  rw [name?, get?_modify, name?]
  split
  · cases a.get? j <;> simp [hf]
  · rfl

theorem sameLinks_setAnchor (a : Arena) (id : NodeId) (p : Option Path) : SameLinks a (a.modify id (·.setAnchor p)) := by
  apply sameLinks_modify <;> exact fun _ => rfl

theorem name?_setAnchor (a : Arena) (id : NodeId) (p : Option Path) (j : NodeId) :
    (a.modify id (·.setAnchor p)).name? j = a.name? j := by
  apply name?_modify
  exact fun _ => rfl

theorem anchor?_modify (hf : ∀ n, (f n).anchor = n.anchor) (a : Arena) (id j : NodeId) :
    (a.modify id f).anchor? j = a.anchor? j := by
  rw [anchor?, get?_modify, anchor?]
  split
  · cases a.get? j <;> simp [hf]
  · rfl

theorem anchor?_setAnchor (hj : a.contains j = true) (id : NodeId) (p : Option Path) :
    (a.modify id (·.setAnchor p)).anchor? j = if j = id then p else a.anchor? j := by
  obtain ⟨n, hn⟩ := contains_iff.1 hj
  rw [anchor?, get?_modify, hn, anchor?_of_get? hn]
  split <;> rfl

theorem anchor?_modifyAll (hf : ∀ n, (f n).anchor = n.anchor) (ids : List NodeId) (a : Arena) (j : NodeId) :
    (a.modifyAll ids f).anchor? j = a.anchor? j := by
  induction ids generalizing a with
  | nil => rfl
  | cons i ids ih => rw [modifyAll_cons, ih, anchor?_modify hf]

theorem anchor?_cleared (ha : a.WellFormed) (hj : (a.cleared id name).contains j = true) :
    (a.cleared id name).anchor? j = a.anchor? j := by
  unfold cleared at hj ⊢
  split at hj
  · exact (ha.cut_cutAt _).anchor? hj
  · rfl

theorem anchor?_renamed (a : Arena) (id : NodeId) (name : String) (j : NodeId) :
    (a.renamed id name).anchor? j = a.anchor? j := by
  rw [renamed, (alike_forgetPaths _ id).anchor?, anchor?_modify (f := (·.rename name)) fun _ => rfl]

end Arena

namespace Tree

/-- Whether the root of a tree, if it is there, is anchored in the directory of its area. -/
def Anchored (t : Tree) (a : Arena) : Prop :=
  ∀ r, t.root = some r → a.contains r = true → a.anchor? r = t.area.path.parent?

theorem Anchored.congr (h : t.Anchored a) (ha : u.area = t.area)
    (hr : ∀ r, u.root = some r → b.contains r = true →
      t.root = some r ∧ a.contains r = true ∧ b.anchor? r = a.anchor? r) : u.Anchored b := by
  intro r hur hlive
  obtain ⟨htr, hold, hanchor⟩ := hr r hur hlive
  rw [hanchor, h r htr hold, ha]

end Tree

end FileIndex
