/-
Snapshots: what is handed out of a node. A snapshot stays as it is when the index goes on.
-/
import FileIndex.Filter.Item
import FileIndex.Tree.Arena

namespace FileIndex

/-- A node as it was at some time. -/
structure Snapshot where
  id : NodeId
  name : String
  path : Path
  isDirectory : Bool
  size : Nat
  modified : Option Moment
  readOnly : Bool
  flags : Flags
  /-- The fuzzy form of the name. -/
  fuzzy : String
  /-- The word form of the name. -/
  word : String
deriving DecidableEq, Repr

namespace Snapshot

/-- The snapshot of a node at a path. -/
def ofNode (id : NodeId) (n : Node) (path : Path) : Snapshot where
  id
  name := n.name
  path
  isDirectory := n.isDirectory
  size := n.metadata.size
  modified := n.metadata.moment?
  readOnly := n.metadata.readOnly
  flags := n.flags
  fuzzy := n.fuzzy
  word := n.word

/-- What a search sees of a snapshot. -/
def item (s : Snapshot) : Item where
  name := s.name
  fuzzy := s.fuzzy
  word := s.word
  path := s.path.spelling
  isDirectory := s.isDirectory
  isPinned := s.flags.pinned
  size := s.size
  modified := s.modified

end Snapshot

namespace Arena

/-- What a search sees of a node. A node whose path cannot be worked out has an empty one. -/
def item (a : Arena) (id : NodeId) (n : Node) : Item where
  name := n.name
  fuzzy := n.fuzzy
  word := n.word
  path := ((a.path? id).1.getD ⟨""⟩).spelling
  isDirectory := n.isDirectory
  isPinned := n.flags.pinned
  size := n.metadata.size
  modified := n.metadata.moment?

/-- The snapshot of a node, if its path can be worked out. -/
def snapshot (a : Arena) (id : NodeId) : Option Snapshot × Arena :=
  match a.get? id with
  | none => (none, a)
  | some n =>
    let (p, a) := a.path? id
    (p.map (Snapshot.ofNode id n), a)

/-- The snapshots of several nodes. -/
def snapshots (a : Arena) : List NodeId → List Snapshot × Arena
  | [] => ([], a)
  | id :: rest =>
    let (s, a) := a.snapshot id
    let (others, a) := a.snapshots rest
    (s.toList ++ others, a)

end Arena

end FileIndex
