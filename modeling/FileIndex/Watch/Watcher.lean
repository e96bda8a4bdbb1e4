/-
Watchers: what is watched for an area, and the changes that reach the index from it. An area that is a
single file is watched through the directory that holds it.
-/
import FileIndex.Area
import FileIndex.Watch.Pairing

namespace FileIndex

/-- A watched area. -/
structure Watcher where
  /-- The path of the area. -/
  root : Path
  /-- The path that the operating system watches. -/
  watched : Path
  recursive : Bool
  /-- Whether only changes of the root itself count. -/
  rootOnly : Bool
  /-- The place of the watcher in the order in which watchers were started. -/
  serial : Nat := 0
  pairing : Pairing := {}
deriving DecidableEq, Repr

namespace Watcher

/-- The watcher of an area whose root is a directory or is not. -/
def ofArea (a : Area) (rootIsDirectory : Bool) : Watcher :=
  if rootIsDirectory then
    { root := a.path, watched := a.path, recursive := a.recursive, rootOnly := false }
  else
    { root := a.path, watched := a.path.parent?.getD a.path, recursive := false, rootOnly := true }

/-- Starts to watch an area. What is to be watched has to exist. -/
def start? (d : Disk) (a : Area) (rootIsDirectory : Bool) (serial : Nat) : Option Watcher :=
  let w := { ofArea a rootIsDirectory with serial }
  if d.contains w.watched then some w else none

/-- The changes that go on to the index. -/
def passed (w : Watcher) (changes : List PathChange) : List PathChange :=
  if w.rootOnly then changes.filter (·.touches w.root) else changes

/-- Takes in a report, or the news that there was an error, and gives up what has waited too long. -/
def deliver (w : Watcher) (d : Disk) (now : Nat) (event : Option RawEvent) :
    List PathChange × Watcher :=
  let (changes, pairing) := match event with
    | some e => w.pairing.push d now e
    | none => ([], w.pairing)
  let (late, pairing) := pairing.expire now
  (w.passed (changes ++ late), { w with pairing })

/-- Takes in reports one after the other. -/
def deliverAll (w : Watcher) (d : Disk) (now : Nat) :
    List (Option RawEvent) → List PathChange × Watcher
  | [] => ([], w)
  | event :: rest =>
    let (changes, w) := w.deliver d now event
    let (later, w) := w.deliverAll d now rest
    (changes ++ later, w)

/-- Gives up what has waited too long, then takes in reports one after the other. -/
def run (w : Watcher) (d : Disk) (now : Nat) (events : List (Option RawEvent)) :
    List PathChange × Watcher :=
  w.deliverAll d now (none :: events)

end Watcher

end FileIndex
