/-
Searching an index: queries are held against its entries in the order of the trees.
-/
import FileIndex.Filter.Query
import FileIndex.Index.Basic

namespace FileIndex.Index

/-- All entries with what a search sees of them. -/
def searched (x : Index) : Except Fault (List (NodeId × Item)) := do
  (← x.entries).mapM fun id => return (id, x.arena.item id (← x.arena.get id))

/-- Holds queries against the same entries, one after the other; `none` if that was canceled. -/
def evaluateAll (items : List (NodeId × Item)) (c : Cancellation) (a : Arena) :
    List CompiledQuery → Except Fault (Option (List (List Snapshot) × Arena))
  | [] => .ok (some ([], a))
  | q :: rest => do
    match ← q.evaluate (·.2) items c with
    | none => return none
    | some found =>
      let (nodes, a) := a.snapshots (found.map (·.1))
      match ← evaluateAll items c a rest with
      | none => return none
      | some (others, a) => return some (nodes :: others, a)

/-- No entry is new any more. -/
def clearAdded (x : Index) : Index :=
  { x with
    arena := (x.topTrees.filterMap (·.root)).foldl (fun a root =>
      a.modifyAll (a.subtree root) fun n => { n with flags := { n.flags with added := false } })
      x.arena }

/-- Runs several queries on the same entries. An entry counts as new up to the end of the next completed
search. -/
def multiSearch (queries : List CompiledQuery) (c : Cancellation) :
    IndexM (Option (List (List Snapshot))) := do
  let x ← get
  match ← evaluateAll (← x.searched) c x.arena queries with
  | none => return none
  | some (results, arena) =>
    set { x with arena }.clearAdded
    return some results

/-- Runs a query. -/
def search (q : CompiledQuery) (c : Cancellation) : IndexM (Option (List Snapshot)) := do
  return (← multiSearch [q] c).bind (·.getLast?)

/-- Runs a query and subscribes to the changes that come after it. -/
def subscribedSearch (q : CompiledQuery) (c : Cancellation) :
    IndexM (Option (List Snapshot × Nat)) := do
  match ← search q c with
  | none => return none
  | some found =>
    let subscriber ← modifyGet fun x =>
      let (subscriber, feed) := x.feed.subscribe
      (subscriber, { x with feed })
    return some (found, subscriber)

end FileIndex.Index
