/-
Live results: the result of a query, kept current by the changes of the index. Only what a change names
is held against the query again.
-/
import FileIndex.Filter.Query
import FileIndex.Index.Feed

namespace FileIndex

/-- The result of a query and the query. -/
structure LiveResults where
  query : CompiledQuery
  entries : List Snapshot
  /-- Whether the areas were collected anew; the result is empty then and stays so. -/
  isStale : Bool := false
deriving DecidableEq, Repr

namespace LiveResults

/-- A pinned entry comes behind the last of the pinned ones that lead, another behind all. -/
def place (s : Snapshot) (entries : List Snapshot) : List Snapshot :=
  if s.flags.pinned then
    entries.takeWhile (·.flags.pinned) ++ s :: entries.dropWhile (·.flags.pinned)
  else entries ++ [s]

/-- Takes in an entry if the query does. -/
def offer (l : LiveResults) (s : Snapshot) : Except Fault LiveResults := do
  return if ← l.query.admits s.item then { l with entries := place s l.entries } else l

/-- Takes in the entries that the query does, one after the other. -/
def offerAll (l : LiveResults) : List Snapshot → Except Fault LiveResults
  | [] => .ok l
  | s :: rest => do (← l.offer s).offerAll rest

/-- Whether a node is in the result. -/
def contains (l : LiveResults) (id : NodeId) : Bool := l.entries.any (·.id == id)

/-- Takes in the entries of nodes that are not in the result. -/
def offerNew (l : LiveResults) : List Snapshot → Except Fault LiveResults
  | [] => .ok l
  | s :: rest => do (← if l.contains s.id then pure l else l.offer s).offerNew rest

/-- Takes the entries of some nodes out. -/
def without (l : LiveResults) (nodes : List Snapshot) : LiveResults :=
  { l with entries := l.entries.filter fun kept => !nodes.any (·.id == kept.id) }

/-- Follows a change. -/
def follow (l : LiveResults) : IndexChange → Except Fault LiveResults
  | .add nodes => l.offerNew nodes
  | .remove nodes => .ok (l.without nodes)
  | .rename nodes _ | .update nodes => (l.without nodes).offerAll nodes
  | .reset => .ok { l with entries := [], isStale := true }

/-- Follows changes in order. -/
def followAll (l : LiveResults) : List IndexChange → Except Fault LiveResults
  | [] => .ok l
  | c :: rest => do (← l.follow c).followAll rest

end LiveResults

end FileIndex
