/-
Pairing the two ends of renames. The old path of a rename waits for the new one. It finds it by their
tracker, or in the order of arrival where there is none, and is a deletion if it waits too long or if
something else is reported first. A new path that finds no old one is a creation.
-/
import FileIndex.Watch.Event

namespace FileIndex

/-- The old path of a rename that waits for the new one. -/
structure WaitingRename where
  tracker : Option Nat
  source : Path
  /-- The time of the report, in milliseconds. -/
  since : Nat
deriving DecidableEq, Repr

/-- The renames that wait, and the trackers of those that were put together a short time ago. -/
structure Pairing where
  /-- The first one waits longest. -/
  waiting : List WaitingRename := []
  /-- A tracker and the time at which its rename was put together. -/
  paired : List (Nat × Nat) := []
deriving DecidableEq, Repr

namespace Pairing

/-- How many milliseconds an old path waits. -/
def patience : Nat := 250

/-- Takes the first old path of a tracker. -/
def take (tracker : Option Nat) : List WaitingRename → Option (Path × List WaitingRename)
  | [] => none
  | w :: rest =>
    if w.tracker = tracker then some (w.source, rest)
    else (take tracker rest).map fun (source, others) => (source, w :: others)

/-- Takes the first note of a tracker away, if there is one. -/
def takePaired (tracker : Nat) : List (Nat × Nat) → Option (List (Nat × Nat))
  | [] => none
  | note :: rest =>
    if note.1 = tracker then some rest else (takePaired tracker rest).map (note :: ·)

/-- What the new path of a rename means. -/
def arrive (p : Pairing) (now : Nat) (tracker : Option Nat) (target : Path) :
    List PathChange × Pairing :=
  match take tracker p.waiting with
  | some (source, waiting) =>
    (PathChange.ofRename source target,
      { waiting, paired := p.paired ++ tracker.toList.map (·, now) })
  | none => ([.created target], p)

/-- What the new paths of one report mean, in order. -/
def arriveAll (p : Pairing) (now : Nat) (tracker : Option Nat) :
    List Path → List PathChange × Pairing
  | [] => ([], p)
  | target :: rest =>
    let (changes, p) := p.arrive now tracker target
    let (later, p) := p.arriveAll now tracker rest
    (changes ++ later, p)

/-- Takes in a report and gives the changes that it makes known. The report of a whole rename repeats
one that was put together from its ends, or replaces what waits of it. -/
def push (p : Pairing) (d : Disk) (now : Nat) (e : RawEvent) : List PathChange × Pairing :=
  match e.kind with
  | .renameFrom =>
    ([], { p with waiting := p.waiting ++ e.paths.map fun source => ⟨e.tracker, source, now⟩ })
  | .renameTo => p.arriveAll now e.tracker e.paths
  | .renameBoth =>
    match e.tracker with
    | none => (e.changes d, p)
    | some tracker =>
      match takePaired tracker p.paired with
      | some paired => ([], { p with paired })
      | none =>
        (e.changes d,
          { p with waiting := ((take (some tracker) p.waiting).map (·.2)).getD p.waiting })
  | _ => (p.waiting.map (.deleted ·.source) ++ e.changes d, { p with waiting := [] })

/-- Whether something noted at a time is still to be kept. -/
def isFresh (now since : Nat) : Bool := now - since < patience

/-- Gives up the old paths that have waited too long, up to the first that has not, and forgets what was
put together as long ago. -/
def expire (p : Pairing) (now : Nat) : List PathChange × Pairing :=
  ((p.waiting.takeWhile fun w => !isFresh now w.since).map (.deleted ·.source),
    { waiting := p.waiting.dropWhile fun w => !isFresh now w.since
      paired := p.paired.filter fun note => isFresh now note.2 })

end Pairing

end FileIndex
