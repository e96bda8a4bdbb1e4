/-
Steps on a disk. Whatever cannot be done is left undone.
-/
import FileIndex.Disk.Basic

namespace FileIndex

/-- A change of a disk. -/
inductive DiskStep where
  /-- Creates a file or replaces what one holds. -/
  | write (path : Path) (content : Content) (modified : Int) (readOnly : Bool)
  | makeDirectory (path : Path)
  /-- Removes an entry with all that it holds. -/
  | remove (path : Path)
  | move (path target : Path)
  | symlink (path : Path) (target : String) (modified : Int)
  | pipe (path : Path) (modified : Int)
deriving DecidableEq, Repr

namespace Disk

/-- Makes one directory; `none` if something else is at its path or nothing holds it. -/
def makeOne? (d : Disk) (p : Path) : Option Disk :=
  if d.holdsDirectory p then some d
  else
    match d.place? false p with
    | some place => if (d.at? place).isNone then some (d.set place (some (.directory []))) else none
    | none => none

/-- The paths that lead to a path, the longest first. -/
def lineage (fuel : Nat) (p : Path) : List Path :=
  match fuel with
  | 0 => []
  | fuel + 1 =>
    if p.spelling = "" then []
    else
      match p.parent? with
      | some parent => p :: lineage fuel parent
      | none => [p]

/-- Makes the given directories as far as it can be done. -/
def makeAll (d : Disk) : List Path → Disk
  | [] => d
  | p :: rest =>
    match d.makeOne? p with
    | some d => d.makeAll rest
    | none => d

/-- Makes a directory and all that lead to it. -/
def makePath (d : Disk) (p : Path) : Disk :=
  d.makeAll (lineage (p.spelling.length + 1) p).reverse

/-- Makes the directories that lead to the entry at a path. -/
def makeParents (d : Disk) (p : Path) : Disk :=
  match p.parent? with
  | some parent => d.makePath parent
  | none => d

/-- Sets an entry where there is none. -/
def create (d : Disk) (p : Path) (e : Entry) : Disk :=
  match d.place? false p with
  | some place => if (d.at? place).isNone then d.set place (some e) else d
  | none => d

/-- Whether an entry can take the place of another: a directory only that of an empty one. -/
def replaces (e old : Entry) : Bool :=
  match old with
  | .directory children => e.isDirectory && children.isEmpty
  | _ => !e.isDirectory

/-- Moves an entry to another place, where it replaces what it can. A directory does not move into
itself. -/
def move (d : Disk) (source target : Path) : Disk :=
  match d.place? false source, d.place? false target with
  | some source, some target =>
    match d.at? source with
    | some e =>
      if source = target ∨ source.isPrefixOf target then d
      else if (d.at? target).all (replaces e) then (d.set source none).set target (some e)
      else d
    | none => d
  | _, _ => d

/-- A disk behind a step. What leads to the step's path is made first. -/
def apply (d : Disk) : DiskStep → Disk
  | .write p content modified readOnly =>
    let d := d.makeParents p
    match d.place? true p with
    | some place =>
      match d.at? place with
      | none | some (.file ..) => d.set place (some (.file content modified readOnly))
      | some _ => d
    | none => d
  | .makeDirectory p => d.makePath p
  | .remove p =>
    let d := d.makeParents p
    match d.place? false p with
    | some place => d.set place none
    | none => d
  | .move p target => (d.makeParents p).move p target
  | .symlink p target modified =>
    let d := d.makeParents p
    if target = "" then d else d.create p (.symlink target modified)
  | .pipe p modified => (d.makeParents p).create p (.pipe modified)

end Disk

end FileIndex
