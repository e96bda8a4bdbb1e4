/-
Trees: the nodes of one area. All trees share an arena, so a tree only knows its root. Nodes are found by
the names behind the area's path, made as the disk has them, and taken away in two steps: first out of
the tree, later out of the arena.
-/
import FileIndex.Walk
import FileIndex.Watch.Watcher

namespace FileIndex

/-- The nodes of an area. -/
structure Tree where
  area : Area
  /-- The node at the area's path, if there is one. -/
  root : Option NodeId
  includeHidden : Bool
  /-- What watches the area. -/
  watcher : Option Watcher := none
  /-- Whether the root stands below a node of another tree. -/
  isChild : Bool := false
  /-- Whether the next collect has to build the tree anew. -/
  isDirty : Bool := false
deriving Repr

namespace Tree

/-! ## Building and releasing -/

/-- What a walk over an area takes. -/
def scope (a : Area) (includeHidden : Bool) : WalkScope := { includeHidden, recursive := a.recursive }

/-- Walks an area. -/
def walk (d : Disk) (a : Area) (includeHidden : Bool) (c : Cancellation) : WalkOutcome :=
  FileIndex.walk d a.path (scope a includeHidden) c

/-- The tree of what a walk found; of an area without an entry, an empty one. -/
def ofCollected (area : Area) (includeHidden : Bool) (found : Option Collected) (a : Arena) :
    Except Fault (Tree × Arena) :=
  match found with
  | none => .ok ({ area, root := none, includeHidden }, a)
  | some c =>
    (a.insertCollected c).map fun (root, a) =>
      ({ area, root := some root, includeHidden }, a.modify root (·.setAnchor area.path.parent?))

/-- Walks an area and builds its tree; `none` if that was canceled. -/
def collect (d : Disk) (area : Area) (includeHidden : Bool) (c : Cancellation) (a : Arena) :
    Except Fault (Option (Tree × Arena)) :=
  match walk d area includeHidden c with
  | .collected found => (ofCollected area includeHidden (some found) a).map some
  | .missing => (ofCollected area includeHidden none a).map some
  | .canceled => .ok none

/-- Ends the watching of a tree and releases its nodes. The result counts them. -/
def release (t : Tree) (a : Arena) : Nat × Tree × Arena :=
  match t.root with
  | none => (0, { t with watcher := none }, a)
  | some root =>
    let (count, a) := (a.detach root).2.release root
    (count, { t with watcher := none, root := none, isChild := false }, a)

/-! ## Finding nodes -/

/-- The first of some nodes that has a name. -/
def findNamed (a : Arena) (name : String) : List NodeId → Except Fault (Option NodeId)
  | [] => .ok none
  | id :: rest =>
    match a.get id with
    | .ok n => if n.name = name then .ok (some id) else findNamed a name rest
    | .error fault => .error fault

/-- The child of a node that has a name. -/
def findChild (a : Arena) (parent : NodeId) (name : String) : Except Fault (Option NodeId) :=
  (a.get parent).bind fun n => findNamed a name n.children

/-- The node that components lead to from a node; they have to be names. -/
def locateBelow (a : Arena) (current : NodeId) : List Path.Component → Except Fault (Option NodeId)
  | [] => .ok (some current)
  | .name n :: rest => do
    match ← findChild a current n with
    | some child => locateBelow a child rest
    | none => return none
  | _ :: _ => .ok none

/-- The node at a path. -/
def locate (t : Tree) (a : Arena) (p : Path) : Except Fault (Option NodeId) :=
  match p.below? t.area.path, t.root with
  | some rest, some root => locateBelow a root rest
  | _, _ => .ok none

/-! ## Adding nodes -/

/-- Whether one of the components is left out for its leading dot. -/
def hides (t : Tree) (rest : List Path.Component) : Bool :=
  !t.includeHidden && rest.any fun c => isHiddenName c.text

/-- Puts a node for the entry at a path into the arena, with all that the area takes below it. -/
def createNode (t : Tree) (a : Arena) (d : Disk) (p : Path) (metadata : Metadata) :
    Except Fault (NodeId × Arena) :=
  let alone := a.insert (Node.ofName p.entryName metadata)
  if metadata.isDirectory && (t.area.recursive || p.same t.area.path) then
    match FileIndex.walk d p (scope t.area t.includeHidden) {} with
    | .collected found => a.insertCollected found
    | _ => .ok alone
  else .ok alone

/-- The metadata of a directory on the way to an entry. -/
def wayMetadata (d : Disk) (p : Path) : Metadata := (d.metadata? p).getD Metadata.ofDirectory

/-- What adding a path below a node came to. -/
structure Added where
  arena : Arena
  /-- The topmost node that was made. -/
  top : Option NodeId
  /-- Whether every component was a name. -/
  complete : Bool

/-- The answer of an addition, and the arena with all that was made marked as added. Where not every
component was a name, what was made stays without an answer and a mark. -/
def Added.outcome (r : Added) : Option NodeId × Arena :=
  match r.complete, r.top with
  | true, some top =>
    (some top, r.arena.modifyAll (r.arena.subtree top) fun n =>
      { n with flags := { n.flags with added := true } })
  | _, _ => (none, r.arena)

/-- Makes the nodes that components lead to from a node, as far as they are names. The last of them
stands for the entry at `p`. -/
def addBelow (t : Tree) (d : Disk) (p : Path) (metadata : Metadata) (a : Arena) (top : Option NodeId)
    (current : NodeId) (way : Path) : List Path.Component → Except Fault Added
  | [] => .ok { arena := a, top, complete := true }
  | .name n :: rest => do
    let way := way.child n
    match ← findChild a current n with
    | some child => t.addBelow d p metadata a top child way rest
    | none =>
      let (child, a) ←
        if rest = [] then t.createNode a d p metadata
        else pure (a.insert (Node.ofName n (wayMetadata d way)))
      let a ← a.attach current child
      t.addBelow d p metadata a (some (top.getD child)) child way rest
  | _ :: _ => .ok { arena := a, top, complete := false }

/-- The root of a tree, made if there is none, and whether it was made. -/
def ensureRoot (t : Tree) (a : Arena) (d : Disk) (p : Path) (metadata : Metadata)
    (rest : List Path.Component) : Except Fault (NodeId × Option NodeId × Arena) := do
  match t.root with
  | some root => return (root, none, a)
  | none =>
    let (root, a) ←
      if rest = [] then t.createNode a d p metadata
      else pure (a.insert (Node.ofName t.area.path.entryName (wayMetadata d t.area.path)))
    return (root, some root, a.modify root (·.setAnchor t.area.path.parent?))

/-- Adds the entry at a path with all directories on the way to it that have no node yet. The answer is
the topmost node made; none if the area does not index the path, nothing lies there, or nothing was to
be made. -/
def add (t : Tree) (a : Arena) (d : Disk) (p : Path) :
    Except Fault (Option NodeId × Tree × Arena) := do
  match p.below? t.area.path, d.metadata? p with
  | some rest, some metadata =>
    if !t.area.covers p || t.hides rest then return (none, t, a)
    let (root, made, a) ← t.ensureRoot a d p metadata rest
    let t := { t with root := some root }
    let added ← t.addBelow d p metadata a made root t.area.path rest
    let (made, a) := added.outcome
    return (made, t, a)
  | _, _ => return (none, t, a)

/-! ## Changing nodes -/

/-- A tree without its root, if that is the given node. -/
def forget (t : Tree) (id : NodeId) : Tree :=
  if t.root = some id then { t with root := none, isChild := false } else t

/-- Takes a node away from its parent, puts it into the directory where it was, and marks it and all
below it. -/
def takeOut (a : Arena) (id : NodeId) (directory : Option Path) : Except Fault Arena :=
  if !a.contains id then .error .releasedSlot
  else
    let a := (a.detach id).2.modify id (·.setAnchor directory)
    .ok (a.modifyAll (a.subtree id) fun n => { n with flags := { n.flags with removed := true } })

/-- Takes the node at a path out of the tree. It stays in the arena. -/
def remove (t : Tree) (a : Arena) (p : Path) : Except Fault (Option NodeId × Tree × Arena) := do
  match ← t.locate a p with
  | none => return (none, t, a)
  | some id => return (some id, t.forget id, ← takeOut a id p.parent?)

/-- Releases what stands in the way of a node's new name: a sibling that has it. -/
def clearName (a : Arena) (id : NodeId) (name : String) : Except Fault Arena := do
  match (← a.get id).parent with
  | none => return a
  | some parent =>
    match ← findChild a parent name with
    | some sibling => return if sibling = id then a else ((a.detach sibling).2.release sibling).2
    | none => return a

/-- Gives the node at a path another name in the same directory. The area's own root keeps its name. -/
def rename (t : Tree) (a : Arena) (old new : Path) : Except Fault (Option NodeId × Arena) := do
  if !old.sameParent new then throw (.renameMoves old.spelling new.spelling)
  if old.same t.area.path then return (none, a)
  match ← t.locate a old with
  | none => return (none, a)
  | some id =>
    let a ← clearName a id new.entryName
    return (some id, (a.modify id (·.rename new.entryName)).forgetPaths id)

/-- Reads the metadata of the node at a path again. -/
def refresh (t : Tree) (a : Arena) (d : Disk) (p : Path) : Except Fault (Option NodeId × Arena) := do
  match ← t.locate a p, d.metadata? p with
  | some id, some metadata => return (some id, ← a.change id fun n => { n with metadata })
  | _, _ => return (none, a)

/-- Pins the node at a path or lets it go. -/
def setPinned (t : Tree) (a : Arena) (p : Path) (pinned : Bool) :
    Except Fault (Option NodeId × Arena) := do
  match ← t.locate a p with
  | some id =>
    return (some id, ← a.change id fun n => { n with flags := { n.flags with pinned } })
  | none => return (none, a)

/-! ## What can be searched -/

/-- The number of entries in a tree; a directory at its root is none of them. -/
def count (t : Tree) (a : Arena) : Except Fault Nat := do
  match t.root with
  | none => return 0
  | some root => return if (← a.get root).isDirectory then a.descendants root else 1

/-- The entries in a tree, each in front of what lies in it. -/
def items (t : Tree) (a : Arena) : Except Fault (List NodeId) := do
  match t.root with
  | none => return []
  | some root => return if (← a.get root).isDirectory then (a.subtree root).tail else [root]

end Tree

end FileIndex
