/-
The index: a tree for each area, all in one arena, with the number of entries that can be searched and
the feed that tells of changes. What works on an index may run into a broken contract; the index is then
as it was left.
-/
import FileIndex.Index.Feed
import FileIndex.Settings
import FileIndex.Tree.Basic

namespace FileIndex

/-- The trees of all areas. -/
structure Index where
  arena : Arena := {}
  trees : List Tree := []
  includeHidden : Bool := true
  /-- The number of entries that can be searched. -/
  size : Nat := 0
  /-- The same number for those who look from outside. -/
  counter : Nat := 0
  feed : Feed := {}
  /-- Whether the areas are watched. -/
  isWatching : Bool := false
  /-- The number of watchers started so far. -/
  started : Nat := 0
deriving Repr

/-- What works on an index. A fault keeps what was done before it. -/
abbrev IndexM (α : Type) := ExceptT Fault (StateM Index) α

namespace Index

/-- An index without areas. -/
def ofSettings (s : Settings) : Index := { includeHidden := s.includeHidden }

/-- Does some work: its result, and the index behind it. -/
def perform {α : Type} (x : Index) (work : IndexM α) : Except Fault α × Index := work.run.run x

/-! ## Counting -/

/-- Sets the number of entries, for those outside as well. -/
def setSize (x : Index) (n : Nat) : Index := { x with size := n, counter := n }

/-- The trees that stand below no other. -/
def topTrees (x : Index) : List Tree := x.trees.filter (!·.isChild)

/-- The number of entries in some trees. -/
def sumCounts (a : Arena) : List Tree → Except Fault Nat
  | [] => .ok 0
  | t :: rest => do return (← t.count a) + (← sumCounts a rest)

/-- Counts all entries. A tree below another is counted with that. -/
def recount : IndexM Nat := do
  let x ← get
  let n ← sumCounts x.arena x.topTrees
  modify (·.setSize n)
  return n

/-- Adjusts the number of entries. -/
def adjust (x : Index) (added removed : Nat) : Index := x.setSize (x.size + added - removed)

/-- Whether a node is the root of a tree that stands below no other, and a directory: such a root is no
entry. -/
def isBareRoot (a : Arena) (t : Tree) (id : NodeId) : Except Fault Bool := do
  if t.root = some id ∧ !t.isChild then return (← a.get id).isDirectory else return false

/-! ## Trees and nodes -/

/-- Replaces all trees. -/
def withTrees (x : Index) (trees : List Tree) : Index := { x with trees }

/-- Replaces the arena. -/
def withArena (x : Index) (arena : Arena) : Index := { x with arena }

/-- Replaces a tree. -/
def setTree (x : Index) (i : Nat) (t : Tree) : Index := { x with trees := x.trees.set i t }

/-- Of two found trees the one with the longer path, of equally long ones the later. -/
def longer (best : Option (Nat × Tree)) (next : Nat × Tree) : Option (Nat × Tree) :=
  match best with
  | none => some next
  | some b =>
    if next.2.area.path.components.length < b.2.area.path.components.length then best else some next

/-- The tree that a path belongs to: the one of the given root, or else the one that reaches closest to
it from above. -/
def owner? (x : Index) (root : Option Path) (p : Path) : Option (Nat × Tree) :=
  let numbered := (List.range x.trees.length).zip x.trees
  match root with
  | some r => numbered.find? fun t => t.2.area.path.same r
  | none => (numbered.filter fun t => p.startsWith t.2.area.path).foldl longer none

/-- The snapshot of a node. -/
def snapshot (id : NodeId) : IndexM (Option Snapshot) :=
  modifyGet fun x =>
    let (s, arena) := x.arena.snapshot id
    (s, { x with arena })

/-- The snapshots of a node and of all below it. -/
def snapshotsBelow (id : NodeId) : IndexM (List Snapshot) :=
  modifyGet fun x =>
    let (nodes, arena) := x.arena.snapshots (x.arena.subtree id)
    (nodes, { x with arena })

/-- Tells the subscribers of a change. -/
def publish (x : Index) (c : IndexChange) : Index := { x with feed := x.feed.publish c }

/-- The entries of some trees, tree by tree. -/
def itemsOf (a : Arena) : List Tree → Except Fault (List NodeId)
  | [] => .ok []
  | t :: rest => do return (← t.items a) ++ (← itemsOf a rest)

/-- All entries that can be searched. -/
def entries (x : Index) : Except Fault (List NodeId) := itemsOf x.arena x.topTrees

/-! ## Watching -/

/-- Starts to watch a tree with a root, if the index watches. A place that cannot be watched is not. -/
def watchTree (d : Disk) (t : Tree) : IndexM Tree := do
  let x ← get
  match x.isWatching, t.root with
  | true, some root =>
    match Watcher.start? d t.area (← x.arena.get root).isDirectory x.started with
    | some w =>
      set { x with started := x.started + 1 }
      return { t with watcher := some w }
    | none => return t
  | _, _ => return t

/-- Starts to watch those trees that are not watched yet. -/
def watchTrees (d : Disk) : List Tree → IndexM (List Tree)
  | [] => return []
  | t :: rest => do
    let t ← if t.watcher.isSome then pure t else watchTree d t
    return t :: (← watchTrees d rest)

/-- Has the index watch its areas, or no longer. -/
def setWatching (d : Disk) (on : Bool) : IndexM Unit := do
  let trees := (← get).trees
  modify fun x => { x with isWatching := on, trees := [] }
  let trees ← if on then watchTrees d trees else pure (trees.map fun t => { t with watcher := none })
  modify (·.withTrees trees)

/-- All watchers in the order in which they were started. -/
def watchers (x : Index) : List Watcher :=
  (x.trees.filterMap (·.watcher)).mergeSort fun a b => decide (a.serial ≤ b.serial)

/-- Replaces a watcher by itself in a new state. -/
def setWatcher (x : Index) (w : Watcher) : Index :=
  { x with
    trees := x.trees.map fun t =>
      if t.watcher.any (·.serial == w.serial) then { t with watcher := some w } else t }

end Index

end FileIndex
