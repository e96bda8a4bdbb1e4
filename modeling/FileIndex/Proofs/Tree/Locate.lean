/-
Finding nodes. In an arena in order a look-up from a live node never runs into an empty slot, and its answer
is the node that the names lead to (`descend?`): at each step the first child of the name.
-/
import FileIndex.Proofs.Arena.WellFormed
import FileIndex.Proofs.Path
import FileIndex.Tree.Basic

namespace FileIndex

namespace Arena

variable {a b : Arena} {id i j p c : NodeId} {n : Node} {name : String} {ids : List NodeId}
  {names more : List String}

/-- The name of a node. -/
def name? (a : Arena) (id : NodeId) : Option String := (a.get? id).map (·.name)

/-- The first child of a node that has a name. -/
def child? (a : Arena) (p : NodeId) (name : String) : Option NodeId :=
  (a.children p).find? fun c => a.name? c == some name

/-- The node that names lead to from a node. -/
def descend? (a : Arena) (id : NodeId) : List String → Option NodeId
  | [] => some id
  | name :: rest => (a.child? id name).bind fun c => a.descend? c rest

theorem name?_of_get? (h : a.get? id = some n) : a.name? id = some n.name := by simp [name?, h]

theorem name?_of_child? (h : a.child? p name = some c) : a.name? c = some name := by
  simpa using List.find?_some h

theorem mem_children_of_child? (h : a.child? p name = some c) : c ∈ a.children p :=
  List.mem_of_find?_eq_some h

theorem WellFormed.parent?_of_child? (h : a.WellFormed) (hc : a.child? p name = some c) :
    a.parent? c = some p := h.mem_children.1 (mem_children_of_child? hc)

theorem descend?_append :
    a.descend? id (names ++ more) = (a.descend? id names).bind fun j => a.descend? j more := by
  induction names generalizing id with
  | nil => rfl
  | cons name rest ih =>
    rw [List.cons_append, descend?, descend?, Option.bind_assoc]
    simp only [ih]

theorem descend?_concat :
    a.descend? id (names ++ [name]) = (a.descend? id names).bind (a.child? · name) := by
  rw [descend?_append]
  simp [descend?]

theorem WellFormed.below_of_descend? (h : a.WellFormed) (hj : a.descend? id names = some j) :
    a.Below id j := by
  induction names generalizing id with
  | nil =>
    rw [descend?, Option.some.injEq] at hj
    exact hj ▸ .refl a id
  | cons name rest ih =>
    obtain ⟨c, hc, hj⟩ := Option.bind_eq_some_iff.1 hj
    exact (Below.single (h.parent?_of_child? hc)).trans (ih hj)

/-- Look-ups see the children and the names of nodes only. -/
theorem descend?_congr (hc : ∀ i, b.children i = a.children i) (hn : ∀ i, b.name? i = a.name? i)
    (id : NodeId) (names : List String) : b.descend? id names = a.descend? id names := by
  have hchild : ∀ i name, b.child? i name = a.child? i name := fun i name => by
    simp only [child?, hc, hn]
  induction names generalizing id with
  | nil => rfl
  | cons name rest ih =>
    rw [descend?, descend?, hchild]
    simp only [ih]

theorem Alike.name? (h : Alike a b) (id : NodeId) : b.name? id = a.name? id := by
  have key : ∀ c : Arena, c.name? id = (c.core? id).map (·.name) := by
    intro c
    cases hn : c.get? id <;> simp [Arena.name?, core?, hn, Node.forgetPath]
  rw [key, key, h.core]

theorem Alike.child? (h : Alike a b) (p : NodeId) (name : String) : b.child? p name = a.child? p name := by
  simp only [Arena.child?, h.children, h.name?]

theorem WellFormed.contains_of_descend? (h : a.WellFormed) (hid : a.contains id = true)
    (hj : a.descend? id names = some j) : a.contains j = true :=
  (h.below_of_descend? hj).contains hid

end Arena

namespace Tree

open Arena

variable {a : Arena} {t : Tree} {id j p root : NodeId} {name : String} {ids : List NodeId}
  {q : Path} {rest : List Path.Component}

theorem findNamed_eq (hids : ∀ i ∈ ids, a.contains i = true) :
    findNamed a name ids = .ok (ids.find? fun c => a.name? c == some name) := by
  induction ids with
  | nil => rfl
  | cons i ids ih =>
    obtain ⟨n, hn⟩ := contains_iff.1 (hids i (by simp))
    rw [findNamed, get_of_get? hn, List.find?_cons, name?_of_get? hn]
    by_cases hname : n.name = name
    · simp [hname]
    · have hne : (some n.name == some name) = false := by simpa using hname
      simp only [if_neg hname, hne, ih fun k hk => hids k (by simp [hk])]

theorem findChild_eq (h : a.WellFormed) (hp : a.contains p = true) :
    findChild a p name = .ok (a.child? p name) := by
  obtain ⟨n, hn⟩ := contains_iff.1 hp
  rw [findChild, get_of_get? hn, child?, children_of_get? hn]
  refine findNamed_eq fun i hi => ?_
  rw [← children_of_get? hn, h.mem_children] at hi
  exact contains_of_parent? hi

/-- Only names lead anywhere. -/
theorem locateBelow_eq (h : a.WellFormed) (hid : a.contains id = true) :
    locateBelow a id rest = .ok ((Path.plainNames? rest).bind (a.descend? id)) := by
  induction rest generalizing id with
  | nil => rfl
  | cons c rest ih =>
    cases c with
    | name name =>
      rw [locateBelow, findChild_eq h hid, Path.plainNames?]
      cases hc : a.child? id name with
      | none =>
        cases Path.plainNames? rest <;> simp [descend?, hc] <;> rfl
      | some c =>
        refine (ih (contains_of_parent? (h.parent?_of_child? hc))).trans ?_
        cases Path.plainNames? rest <;> simp [descend?, hc]
    | root => rfl
    | here => rfl
    | up => rfl

/-- The names that lead from the root of a tree to a path, if there is nothing else on the way. -/
def names? (t : Tree) (q : Path) : Option (List String) := (q.below? t.area.path).bind Path.plainNames?

theorem names?_eq_some {names : List String} :
    t.names? q = some names ↔ q.components = t.area.path.components ++ names.map .name := by
  rw [names?, Option.bind_eq_some_iff]
  constructor
  · rintro ⟨cs, hcs, hn⟩
    rw [Path.below?_eq_some.1 hcs, Path.plainNames?_eq_some.1 hn]
  · intro h
    exact ⟨_, Path.below?_eq_some.2 h, Path.plainNames?_eq_some.2 rfl⟩

/-- The node at a path. -/
def located? (t : Tree) (a : Arena) (q : Path) : Option NodeId :=
  t.root.bind fun root => (t.names? q).bind (a.descend? root)

theorem locate_eq (h : a.WellFormed) (hroot : ∀ r, t.root = some r → a.contains r = true) :
    t.locate a q = .ok (t.located? a q) := by
  unfold locate located? names?
  cases hb : q.below? t.area.path with
  | none => cases t.root <;> rfl
  | some rest =>
    cases hr : t.root with
    | none => rfl
    | some root => exact locateBelow_eq h (hroot root hr)

theorem located?_alike {b : Arena} (h : Alike a b) : t.located? b q = t.located? a q := by
  have hd : b.descend? = a.descend? := funext fun i => funext (descend?_congr h.children h.name? i)
  rw [located?, located?, hd]

theorem below_of_located? (h : a.WellFormed) (hj : t.located? a q = some j) :
    ∃ root, t.root = some root ∧ a.Below root j := by
  obtain ⟨root, hr, hj⟩ := Option.bind_eq_some_iff.1 hj
  obtain ⟨names, -, hj⟩ := Option.bind_eq_some_iff.1 hj
  exact ⟨root, hr, h.below_of_descend? hj⟩

theorem located?_eq_some : t.located? a q = some j ↔
    ∃ root names, t.root = some root ∧ t.names? q = some names ∧ a.descend? root names = some j := by
  simp only [located?, Option.bind_eq_some_iff]
  constructor
  · rintro ⟨root, hr, names, hn, hj⟩
    exact ⟨root, names, hr, hn, hj⟩
  · rintro ⟨root, names, hr, hn, hj⟩
    exact ⟨root, hr, names, hn, hj⟩

end Tree

end FileIndex
