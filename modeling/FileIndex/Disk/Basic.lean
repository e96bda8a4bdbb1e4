/-
A disk: a tree of directories with files, symbolic links and pipes, and the way paths lead through it. A
path is relative to the top. Every link on the way is followed; the last one only on request.
-/
import FileIndex.Disk.Metadata
import FileIndex.Path

namespace FileIndex

/-- What a file holds. -/
inductive Content where
  | zeros (count : Nat)
  | text (t : String)
deriving DecidableEq, Repr

/-- The number of bytes. -/
def Content.size : Content → Nat
  | .zeros count => count
  | .text t => t.utf8ByteSize

/-- The bytes as a text. -/
def Content.read : Content → String
  | .zeros count => String.ofList (List.replicate count '\x00')
  | .text t => t

/-- An entry of a disk. Times are seconds from the start of 1970. -/
inductive Entry where
  | file (content : Content) (modified : Int) (readOnly : Bool)
  | symlink (target : String) (modified : Int)
  | pipe (modified : Int)
  | directory (children : List (String × Entry))
deriving Repr

namespace Entry

/-- The time at which every directory counts as modified. -/
def directoryTime : Nat := 1600000000

/-- The metadata of an entry itself; a link is as long as its target's path. -/
def metadata : Entry → Metadata
  | .file content modified readOnly => ⟨.file, content.size, modified.toNat, readOnly⟩
  | .symlink target modified => ⟨.symlink, target.utf8ByteSize, modified.toNat, false⟩
  | .pipe modified => ⟨.other, 0, modified.toNat, false⟩
  | .directory _ => ⟨.directory, 0, directoryTime, false⟩

/-- Whether an entry is a directory. -/
def isDirectory : Entry → Bool
  | .directory _ => true
  | _ => false

/-- The child of a name. -/
def child? : Entry → String → Option Entry
  | .directory children, name => children.lookup name
  | _, _ => none

/-- The entry that names lead to. -/
def at? (e : Entry) : List String → Option Entry
  | [] => some e
  | name :: rest =>
    match e.child? name with
    | some c => c.at? rest
    | none => none

/-- Children with one set, or taken away where there is none to set. -/
def setChild (children : List (String × Entry)) (name : String) (e : Option Entry) :
    List (String × Entry) :=
  match children with
  | [] => e.toList.map (name, ·)
  | (n, c) :: rest =>
    if n = name then e.toList.map (name, ·) ++ rest else (n, c) :: setChild rest name e

/-- An entry with another one set at the place that names lead to. All names but the last have to lead
to directories, else nothing happens. -/
def set (top : Entry) (names : List String) (e : Option Entry) : Entry :=
  match names, top with
  | [], _ => top
  | [name], .directory children => .directory (setChild children name e)
  | name :: rest, .directory children =>
    match children.lookup name with
    | some c => .directory (setChild children name (some (c.set rest e)))
    | none => top
  | _, _ => top

end Entry

/-- A disk by its topmost directory. -/
structure Disk where
  top : Entry := .directory []
deriving Repr

namespace Disk

/-- The entry at a place. -/
def at? (d : Disk) (place : List String) : Option Entry := d.top.at? place

/-- A disk with an entry set at a place or taken away. -/
def set (d : Disk) (place : List String) (e : Option Entry) : Disk := ⟨d.top.set place e⟩

/-! ## Resolving paths -/

/-- The number of links that a path may lead through. -/
def linkLimit : Nat := 40

/-- The number of bytes that a name may have. -/
def nameLimit : Nat := 255

/-- The number of bytes that a path may have. -/
def pathLimit : Nat := 4095

/-- Whether an entry can have this name. -/
def isName (name : String) : Bool := name.utf8ByteSize ≤ nameLimit && !name.toList.contains '\x00'

/-- The pieces of a path as they are walked. -/
def walked (t : String) : List String := (Path.pieces t.toList).map String.ofList

/-- The place that the pieces of a path lead to from a directory. The last of them may name what does not
exist. Nothing lies above the top, and an absolute link leads out of the disk. -/
def resolve (d : Disk) (follow : Bool) (links : Nat) (here : List String) :
    List String → Option (List String)
  | [] => some here
  | piece :: rest =>
    if piece = "" ∨ piece = "." then d.resolve follow links here rest
    else if piece = ".." then
      if here = [] then none else d.resolve follow links here.dropLast rest
    else if !isName piece then none
    else
      match d.at? (here ++ [piece]) with
      | none => if rest = [] then some (here ++ [piece]) else none
      | some (.directory _) => d.resolve follow links (here ++ [piece]) rest
      | some (.symlink target _) =>
        if rest = [] ∧ !follow then some (here ++ [piece])
        else if Path.isAbsolute ⟨target⟩ then none
        else
          match links with
          | 0 => none
          | links + 1 => d.resolve follow links here (walked target ++ rest)
      | some _ => if rest = [] then some (here ++ [piece]) else none
termination_by pieces => (links, pieces.length)

/-- The place of a path. -/
def place? (d : Disk) (follow : Bool) (p : Path) : Option (List String) :=
  if p.spelling = "" ∨ p.isAbsolute ∨ pathLimit < p.spelling.utf8ByteSize then none
  else d.resolve follow linkLimit [] (walked p.spelling)

/-- The entry at a path. -/
def find? (d : Disk) (follow : Bool) (p : Path) : Option Entry :=
  (d.place? follow p).bind d.at?

/-- The metadata of the entry at a path; of a link, its own. -/
def metadata? (d : Disk) (p : Path) : Option Metadata := (d.find? false p).map Entry.metadata

/-- Whether a path leads to an entry, through links also at its end. -/
def contains (d : Disk) (p : Path) : Bool := (d.find? true p).isSome

/-- Whether a path leads to a directory. -/
def holdsDirectory (d : Disk) (p : Path) : Bool := (d.find? true p).any Entry.isDirectory

/-- The text of the file at a path. -/
def read? (d : Disk) (p : Path) : Option String :=
  match d.find? true p with
  | some (.file content _ _) => some content.read
  | _ => none

end Disk

end FileIndex
