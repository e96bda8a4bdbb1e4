/-
The feed of an index: every change is put into the queue of each subscriber. A subscriber that has gone
stays known until the next change.
-/
import FileIndex.Index.Snapshot

namespace FileIndex

/-- A change of an index. The first snapshot is that of the changed node, those of the nodes below it
follow. -/
inductive IndexChange where
  | add (nodes : List Snapshot)
  | remove (nodes : List Snapshot)
  | rename (nodes : List Snapshot) (old : Path)
  /-- Something about a node other than its name is new. -/
  | update (nodes : List Snapshot)
  /-- The trees were built anew; no node number from before counts any more. -/
  | reset
deriving DecidableEq, Repr

/-- The snapshots of a change. -/
def IndexChange.nodes : IndexChange → List Snapshot
  | .add nodes | .remove nodes | .update nodes | .rename nodes _ => nodes
  | .reset => []

/-- The number of the changed node. -/
def IndexChange.node? (c : IndexChange) : Option NodeId := c.nodes.head?.map (·.id)

/-- One who is told of changes. -/
structure Subscriber where
  number : Nat
  /-- The changes that were not read yet. -/
  queue : List IndexChange := []
  isOpen : Bool := true
deriving DecidableEq, Repr

/-- The subscribers of an index. -/
structure Feed where
  subscribers : List Subscriber := []
  /-- The number of the next subscriber. -/
  next : Nat := 0
deriving DecidableEq, Repr

namespace Feed

/-- A new subscriber and its number. -/
def subscribe (f : Feed) : Nat × Feed :=
  (f.next, { subscribers := f.subscribers ++ [{ number := f.next }], next := f.next + 1 })

/-- Changes the subscriber of a number. -/
def modify (f : Feed) (number : Nat) (g : Subscriber → Subscriber) : Feed :=
  { f with subscribers := f.subscribers.map fun s => if s.number = number then g s else s }

/-- A subscriber goes. -/
def close (f : Feed) (number : Nat) : Feed := f.modify number fun s => { s with isOpen := false }

/-- Tells all subscribers of a change; those that have gone are forgotten. -/
def publish (f : Feed) (c : IndexChange) : Feed :=
  { f with
    subscribers := (f.subscribers.filter (·.isOpen)).map fun s => { s with queue := s.queue ++ [c] } }

/-- Publishes a change if there is one. -/
def publish? (f : Feed) (c : Option IndexChange) : Feed := c.elim f f.publish

/-- The changes that a subscriber has not read, which it has then; `none` if it has gone. -/
def read (f : Feed) (number : Nat) : Option (List IndexChange) × Feed :=
  ((f.subscribers.find? fun s => s.number == number && s.isOpen).map (·.queue),
    f.modify number fun s => { s with queue := [] })

/-- The number of known subscribers. -/
def size (f : Feed) : Nat := f.subscribers.length

end Feed

end FileIndex
