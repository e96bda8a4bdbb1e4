/-
What the operating system reports of a watched place, and the changes of paths that one report means by
itself.
-/
import FileIndex.Disk.Basic

namespace FileIndex

/-- A change of what lies at a path. -/
inductive PathChange where
  | created (path : Path)
  | deleted (path : Path)
  /-- Another name in the same directory. -/
  | renamed (source target : Path)
  | changed (path : Path)
deriving DecidableEq, Repr

/-- The kinds of reports. -/
inductive EventKind where
  | access
  | create
  | remove
  /-- A rename with its old and its new path. -/
  | renameBoth
  /-- The old path of a rename. -/
  | renameFrom
  /-- The new path of a rename. -/
  | renameTo
  /-- A rename of which it is not known which end is meant. -/
  | renameUnclear
  /-- Any other change. -/
  | modify
deriving DecidableEq, Repr

/-- A report of the operating system. -/
structure RawEvent where
  kind : EventKind
  paths : List Path
  /-- A number that the two ends of one rename share. -/
  tracker : Option Nat := none
deriving DecidableEq, Repr

/-- The changes of a rename. One between two directories takes away and adds. -/
def PathChange.ofRename (source target : Path) : List PathChange :=
  if source.sameParent target then [.renamed source target] else [.deleted source, .created target]

/-- Whether a change is one of the given path. -/
def PathChange.touches (p : Path) : PathChange → Bool
  | .created q | .deleted q | .changed q => q.same p
  | .renamed source target => source.same p || target.same p

/-- The change of a path that an unclear rename names: the disk tells whether it is the new one. -/
def PathChange.ofPresence (d : Disk) (p : Path) : PathChange :=
  if d.contains p then .created p else .deleted p

/-- The changes that a report means by itself. -/
def RawEvent.changes (d : Disk) (e : RawEvent) : List PathChange :=
  match e.kind, e.paths with
  | .access, _ => []
  | .create, paths | .renameTo, paths => paths.map .created
  | .remove, paths | .renameFrom, paths => paths.map .deleted
  | .renameBoth, [source, target] => PathChange.ofRename source target
  | .renameBoth, paths | .renameUnclear, paths => paths.map (PathChange.ofPresence d)
  | .modify, paths => paths.map .changed

end FileIndex
