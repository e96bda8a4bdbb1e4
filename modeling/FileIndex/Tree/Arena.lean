/-
The arena that holds all nodes. Nodes live in numbered slots; a released slot is the first to be used
again. Children lists own what lies below a node, parent links only lead back.
-/
import FileIndex.Tree.Node

namespace FileIndex

/-- Nodes in slots. -/
structure Arena where
  slots : Array (Option Node) := #[]
  /-- The slots that were released, the last one first. -/
  free : List NodeId := []
  /-- The number of slots in use. -/
  live : Nat := 0
deriving Repr

namespace Arena

/-! ## Slots -/

/-- The node in a slot. -/
def get? (a : Arena) (id : NodeId) : Option Node := (a.slots[id.index]?).join

/-- Whether a slot holds a node. -/
def contains (a : Arena) (id : NodeId) : Bool := (a.get? id).isSome

/-- The node in a slot that must hold one. -/
def get (a : Arena) (id : NodeId) : Except Fault Node :=
  match a.get? id with
  | some n => .ok n
  | none => .error .releasedSlot

/-- Changes the node in a slot, if there is one. -/
def modify (a : Arena) (id : NodeId) (f : Node → Node) : Arena :=
  { a with slots := a.slots.modify id.index (·.map f) }

/-- Changes the node in a slot that must hold one. -/
def change (a : Arena) (id : NodeId) (f : Node → Node) : Except Fault Arena :=
  if a.contains id then .ok (a.modify id f) else .error .releasedSlot

/-- Changes the nodes in several slots. -/
def modifyAll (a : Arena) (ids : List NodeId) (f : Node → Node) : Arena :=
  ids.foldl (fun a id => a.modify id f) a

/-- Puts a node into a slot. -/
def insert (a : Arena) (n : Node) : NodeId × Arena :=
  match a.free with
  | id :: free =>
    (id, { slots := a.slots.setIfInBounds id.index (some n), free, live := a.live + 1 })
  | [] => (⟨a.slots.size⟩, { a with slots := a.slots.push (some n), live := a.live + 1 })

/-- Empties a slot that holds a node. -/
def vacate (a : Arena) (id : NodeId) : Arena :=
  { slots := a.slots.setIfInBounds id.index none, free := id :: a.free, live := a.live - 1 }

/-- The number of slots that hold a node, counted. -/
def occupied (a : Arena) : Nat := a.slots.toList.countP Option.isSome

theorem countP_set_none {l : List (Option Node)} {i : Nat} {n : Node} (h : l[i]? = some (some n)) :
    (l.set i none).countP Option.isSome + 1 = l.countP Option.isSome := by
  induction l generalizing i with
  | nil => simp at h
  | cons o rest ih =>
    cases i with
    | zero =>
      have ho : o = some n := by simpa using h
      simp [ho]
    | succ i =>
      have := ih (i := i) (by simpa using h)
      simp only [List.set_cons_succ, List.countP_cons]
      omega

/-- Emptying a slot leaves one less in use. -/
theorem occupied_vacate {a : Arena} {id : NodeId} {n : Node} (h : a.get? id = some n) :
    (a.vacate id).occupied + 1 = a.occupied := by
  have hl : a.slots.toList[id.index]? = some (some n) := by
    rw [get?, Option.join_eq_some_iff] at h
    simpa using h
  simpa [occupied, vacate] using countP_set_none hl

/-- Empties the slots of the given nodes and of all below them: the first one, what lies below it from
the last child on, then the others. The result counts what was emptied. -/
def releaseAll (a : Arena) (waiting : List NodeId) : Nat × Arena :=
  match waiting with
  | [] => (0, a)
  | id :: rest =>
    match _h : a.get? id with
    | none => a.releaseAll rest
    | some n =>
      let (count, a) := (a.vacate id).releaseAll (n.children.reverse ++ rest)
      (count + 1, a)
termination_by (a.occupied, waiting.length)
decreasing_by
  · exact Prod.Lex.right _ (by simp)
  · exact Prod.Lex.left _ _ (by have := occupied_vacate _h; omega)

/-- Empties the slots of a node and of all below it. -/
def release (a : Arena) (id : NodeId) : Nat × Arena := a.releaseAll [id]

/-! ## Trees of nodes -/

/-- A node and all below it to a depth, each in front of its children. -/
def subtreeTo (a : Arena) (depth : Nat) (id : NodeId) : List NodeId :=
  match depth with
  | 0 => []
  | depth + 1 =>
    match a.get? id with
    | none => []
    | some n => id :: n.children.flatMap (a.subtreeTo depth)

/-- A node and all below it, each in front of its children. No chain of nodes is longer than the
arena. -/
def subtree (a : Arena) (id : NodeId) : List NodeId := a.subtreeTo a.slots.size id

/-- The number of nodes below a node. -/
def descendants (a : Arena) (id : NodeId) : Nat := (a.subtree id).length - 1

/-- Forgets the paths of a node and of all below it. -/
def forgetPaths (a : Arena) (id : NodeId) : Arena := a.modifyAll (a.subtree id) Node.forgetPath

/-- Puts a node below another. -/
def attach (a : Arena) (parent child : NodeId) : Except Fault Arena :=
  if !a.contains child then .error .releasedSlot
  else if !a.contains parent then .error .releasedSlot
  else
    .ok (((a.modify child fun n => { n with parent := some parent }).modify parent
      (·.addChild child)).forgetPaths child)

/-- Puts a node that has no parent, and no known path in it, behind the children of another. -/
def attachNew (a : Arena) (parent child : NodeId) : Except Fault Arena :=
  if !a.contains child then .error .releasedSlot
  else if !a.contains parent then .error .releasedSlot
  else
    .ok ((a.modify child fun n => { n with parent := some parent }).modify parent fun n =>
      { n with children := n.children ++ [child] })

/-- Takes a node away from its parent, which is the answer. -/
def detach (a : Arena) (child : NodeId) : Option NodeId × Arena :=
  match (a.get? child).bind (·.parent) with
  | none => (none, a)
  | some parent =>
    (some parent, ((a.modify parent (·.removeChild child)).modify child fun n =>
      { n with parent := none }).forgetPaths child)

/-! ## Paths -/

/-- The directory that the topmost node above a node lies in, and the names from that node down. -/
def lineage (a : Arena) (height : Nat) (id : NodeId) : Option (Option Path × List String) :=
  match height with
  | 0 => none
  | height + 1 =>
    match a.get? id with
    | none => none
    | some n =>
      match n.parent with
      | none => some (n.anchor, [n.name])
      | some parent => (a.lineage height parent).map fun (anchor, names) => (anchor, names ++ [n.name])

/-- The path of a node, worked out from the topmost node down. -/
def workedPath? (a : Arena) (id : NodeId) : Option Path :=
  (a.lineage a.slots.size id).map fun (anchor, names) => names.foldl Path.child (anchor.getD ⟨""⟩)

/-- The path of a node: the one it knows, or else the one that is worked out and known from then on. -/
def path? (a : Arena) (id : NodeId) : Option Path × Arena :=
  match a.get? id with
  | none => (none, a)
  | some n =>
    match n.knownPath with
    | some p => (some p, a)
    | none =>
      match a.workedPath? id with
      | some p => (some p, a.modify id fun n => { n with knownPath := some p })
      | none => (none, a)

/-- The paths of several nodes. -/
def paths (a : Arena) : List NodeId → List (Option Path) × Arena
  | [] => ([], a)
  | id :: rest =>
    let (p, a) := a.path? id
    let (others, a) := a.paths rest
    (p :: others, a)

end Arena

end FileIndex
