/-
Changing an index entry by entry. What changes is published with snapshots of the nodes it concerns; where
nothing is to be done the answer is none.
-/
import FileIndex.Index.Basic

namespace FileIndex.Index

/-! ## Adding and removing -/

/-- Adds the entry at a path with the directories on the way to it. The answer is the topmost of the new
nodes. -/
def addPath (d : Disk) (root : Option Path) (p : Path) : IndexM (Option Snapshot) := do
  let x ← get
  match x.owner? root p with
  | none => return none
  | some (i, t) =>
    let (made, t, arena) ← t.add x.arena d p
    set ({ x with arena }.setTree i t)
    match made with
    | none => return none
    | some id =>
      let nodes ← snapshotsBelow id
      let bare ← isBareRoot arena t id
      modify fun x => (x.adjust nodes.length (if bare then 1 else 0)).publish (.add nodes)
      return nodes.head?

/-- A tree without its root, if that is one of the given nodes. -/
def forgetRoots (gone : List NodeId) (t : Tree) : Tree :=
  if t.root.any gone.contains then { t with root := none, isChild := false } else t

/-- Removes the entry at a path with all below it, also what other trees have there. -/
def removePath (root : Option Path) (p : Path) : IndexM (Option Snapshot) := do
  let x ← get
  match x.owner? root p with
  | none => return none
  | some (i, t) =>
    match ← t.locate x.arena p with
    | none => return none
    | some id =>
      let bare ← isBareRoot x.arena t id
      modify (·.setTree i (t.forget id))
      let arena ← Tree.takeOut x.arena id p.parent?
      modify (·.withArena arena)
      let nodes ← snapshotsBelow id
      modify fun x =>
        { x with
          trees := x.trees.map (forgetRoots (nodes.map Snapshot.id))
          arena := (x.arena.release id).2 }
      modify fun x => (x.adjust (if bare then 1 else 0) nodes.length).publish (.remove nodes)
      return nodes.head?

/-! ## Renaming -/

/-- What a rename to a path takes the place of: another node than the renamed one. -/
def replacedBy (source target : Option NodeId) : IndexM (List Snapshot) :=
  match source, target with
  | some s, some e => if s = e then return [] else snapshotsBelow e
  | _, _ => return []

/-- Gives the entry at a path another name. Where there is no entry to rename, the one at the new path is
added. -/
def renamePath (d : Disk) (root : Option Path) (old new : Path) : IndexM (Option Snapshot) := do
  let x ← get
  match x.owner? root old with
  | none => return none
  | some (_, t) =>
    let source ← t.locate x.arena old
    let target ← t.locate x.arena new
    let replaced ← replacedBy source target
    let (renamed, arena) ← t.rename (← get).arena old new
    modify (·.withArena arena)
    match renamed with
    | none => addPath d root new
    | some id =>
      if !replaced.isEmpty then
        modify fun x => (x.adjust 0 replaced.length).publish (.remove replaced)
      let nodes ← snapshotsBelow id
      modify (·.publish (.rename nodes old))
      return nodes.head?

/-! ## Changes in place -/

/-- Publishes what a node has become. -/
def publishUpdate (id : NodeId) : IndexM (Option Snapshot) := do
  match ← snapshot id with
  | none => return none
  | some s =>
    modify (·.publish (.update [s]))
    return some s

/-- Reads the metadata of the entry at a path again. -/
def refreshPath (d : Disk) (root : Option Path) (p : Path) : IndexM (Option Snapshot) := do
  let x ← get
  match x.owner? root p with
  | none => return none
  | some (_, t) =>
    let (id, arena) ← t.refresh x.arena d p
    set (x.withArena arena)
    match id with
    | some id => publishUpdate id
    | none => return none

/-- Pins the entry at a path or lets it go. -/
def setPinned (p : Path) (pinned : Bool) : IndexM (Option Snapshot) := do
  let x ← get
  match x.owner? none p with
  | none => return none
  | some (_, t) =>
    let (id, arena) ← t.setPinned x.arena p pinned
    set (x.withArena arena)
    match id with
    | some id => publishUpdate id
    | none => return none

/-! ## Reported changes -/

/-- Applies a change that a watcher reported for the area of a root. What was created may be known, and
what was changed may not. -/
def applyChange (d : Disk) (root : Path) (c : PathChange) : IndexM Unit := do
  if ((← get).owner? (some root) root).isNone then return
  match c with
  | .created p =>
    if (← addPath d (some root) p).isNone then
      let _ ← refreshPath d (some root) p
  | .deleted p =>
    let _ ← removePath (some root) p
  | .renamed source target =>
    let _ ← renamePath d (some root) source target
  | .changed p =>
    if (← refreshPath d (some root) p).isNone then
      let _ ← addPath d (some root) p

/-- Applies changes in order. -/
def applyChanges (d : Disk) : List (Path × PathChange) → IndexM Unit
  | [] => return
  | (root, c) :: rest => do
    applyChange d root c
    applyChanges d rest

/-- Hands reports to the watchers of a path, one watcher after the other. The result holds the changes
that come of it, each with the root of its area. -/
def hear (x : Index) (d : Disk) (now : Nat) (watched : Path) (events : List (Option RawEvent)) :
    List (Path × PathChange) × Index :=
  (x.watchers.filter (·.watched.same watched)).foldl (fun (changes, x) w =>
    let (heard, w) := w.run d now events
    (changes ++ heard.map (w.root, ·), x.setWatcher w)) ([], x)

end FileIndex.Index
