/-
Walking a disk. A walk takes a directory's entries with their metadata, in the order of their names, and
on request those of all directories below. It does not follow links.
-/
import FileIndex.Cancellation
import FileIndex.Disk.Basic
import FileIndex.Tree.Arena

namespace FileIndex

/-- What a walk found: an entry and, of a directory that it looked into, what lies in it. -/
inductive Collected where
  | entry (name : String) (metadata : Metadata) (children : List Collected)
deriving Repr

namespace Collected

/-- The name of a found entry. -/
def name : Collected → String
  | .entry name _ _ => name

/-- The metadata of a found entry. -/
def metadata : Collected → Metadata
  | .entry _ metadata _ => metadata

/-- What was found in a directory. -/
def children : Collected → List Collected
  | .entry _ _ children => children

mutual

/-- The number of found entries. -/
def size : Collected → Nat
  | .entry _ _ children => 1 + sizes children

/-- The number of found entries in a list. -/
def sizes : List Collected → Nat
  | [] => 0
  | c :: rest => c.size + sizes rest

end

mutual

/-- The number of found entries of the types that pass a test. -/
def count (test : Metadata → Bool) : Collected → Nat
  | .entry _ metadata children => (if test metadata then 1 else 0) + counts test children

/-- The number of such entries in a list. -/
def counts (test : Metadata → Bool) : List Collected → Nat
  | [] => 0
  | c :: rest => c.count test + counts test rest

end

/-- The number of found directories. -/
def directories (c : Collected) : Nat := c.count Metadata.isDirectory

/-- The number of found entries that are no directories. -/
def files (c : Collected) : Nat := c.count fun m => !m.isDirectory

/-- Found entries in the order of their names. -/
def sorted (l : List Collected) : List Collected := l.mergeSort fun a b => decide (a.name ≤ b.name)

end Collected

/-! ## Walks -/

/-- What a walk is to take. -/
structure WalkScope where
  includeHidden : Bool := true
  recursive : Bool := true
deriving DecidableEq, Repr

/-- A name that starts with a dot. -/
def isHiddenName (name : String) : Bool := name.toList.head? == some '.'

/-- Whether a walk leaves out entries of a name. -/
def WalkScope.skips (s : WalkScope) (name : String) : Bool := !s.includeHidden && isHiddenName name

mutual

/-- An entry with what lies in it. It is looked into if it is where the walk starts or the walk is a
recursive one. -/
def walkEntry (s : WalkScope) (isTop : Bool) (name : String) : Entry → Collected
  | .directory children =>
    .entry name (Entry.directory []).metadata
      (if isTop || s.recursive then Collected.sorted (walkChildren s children) else [])
  | e => .entry name e.metadata []

/-- The children of a directory that the walk takes. -/
def walkChildren (s : WalkScope) : List (String × Entry) → List Collected
  | [] => []
  | (name, e) :: rest =>
    if s.skips name then walkChildren s rest else walkEntry s false name e :: walkChildren s rest

end

/-- How a walk ends. -/
inductive WalkOutcome where
  | collected (c : Collected)
  /-- Nothing lies where the walk was to start. -/
  | missing
  | canceled
deriving Repr

/-- Walks from a path on. -/
def walk (d : Disk) (p : Path) (s : WalkScope) (c : Cancellation) : WalkOutcome :=
  if !c.isActive then .canceled
  else
    match d.find? false p with
    | some e => .collected (walkEntry s true p.entryName e)
    | none => .missing

/-! ## Taking a walk into an arena -/

namespace Arena

mutual

/-- Puts found entries into an arena, each one in front of what lies in it. -/
def insertCollected (a : Arena) : Collected → Except Fault (NodeId × Arena)
  | .entry name metadata children =>
    let (id, a) := a.insert (Node.ofName name metadata)
    (a.insertChildren id children).map (id, ·)

/-- Puts found entries below a node. -/
def insertChildren (a : Arena) (parent : NodeId) : List Collected → Except Fault Arena
  | [] => .ok a
  | c :: rest => do
    let (id, a) ← a.insertCollected c
    let a ← a.attachNew parent id
    a.insertChildren parent rest

end

end Arena

end FileIndex
