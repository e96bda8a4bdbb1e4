/-
The nodes of an index. A node stands for one entry and knows its parent and children by their numbers.
-/
import FileIndex.Disk.Metadata
import FileIndex.Fault
import FileIndex.Path
import FileIndex.Projection.Basic

namespace FileIndex

/-- The number of a node: the slot that holds it. -/
structure NodeId where
  index : Nat
deriving DecidableEq, Repr

namespace NodeId

/-- The number that no node has, and none above it. -/
def bound : Nat := 4294967295

/-- The number of a slot. -/
def ofIndex (n : Nat) : Except Fault NodeId :=
  if n < bound then .ok ⟨n⟩ else .error .slotTooLarge

end NodeId

/-- What happened to a node and what was wished of it. -/
structure Flags where
  /-- Added, and in no search since. -/
  added : Bool := false
  /-- Taken out of its tree. -/
  removed : Bool := false
  /-- In front of all results. -/
  pinned : Bool := false
deriving DecidableEq, Repr

/-- An entry in an index. -/
structure Node where
  name : String
  parent : Option NodeId := none
  /-- The directory that the node lies in, if it has no parent. -/
  anchor : Option Path := none
  children : List NodeId := []
  metadata : Metadata
  flags : Flags := {}
  /-- The fuzzy form of the name. -/
  fuzzy : String
  /-- The word form of the name. -/
  word : String
  /-- The path as it was last worked out. -/
  knownPath : Option Path := none
deriving DecidableEq, Repr

namespace Node

/-- A node on its own. -/
def ofName (name : String) (metadata : Metadata) : Node where
  name
  metadata
  fuzzy := Projection.fuzzy.apply name
  word := Projection.word.apply name

/-- Whether the node stands for a directory. -/
def isDirectory (n : Node) : Bool := n.metadata.isDirectory

/-- A node whose path has to be worked out again. -/
def forgetPath (n : Node) : Node := { n with knownPath := none }

/-- Gives a node another name and the forms of it. -/
def rename (n : Node) (name : String) : Node :=
  { n with
    name
    fuzzy := Projection.fuzzy.apply name
    word := Projection.word.apply name
    knownPath := none }

/-- Puts a node without a parent into a directory. -/
def setAnchor (n : Node) (anchor : Option Path) : Node := { n with anchor, knownPath := none }

/-- Adds a child that is not yet one. -/
def addChild (n : Node) (child : NodeId) : Node :=
  if n.children.contains child then n else { n with children := n.children ++ [child] }

/-- Takes a child away. -/
def removeChild (n : Node) (child : NodeId) : Node := { n with children := n.children.erase child }

end Node

end FileIndex
