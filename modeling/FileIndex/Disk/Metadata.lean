/-
What is known of an entry on disk besides its name.
-/
import FileIndex.Calendar

namespace FileIndex

/-- The types of entries. -/
inductive FileType where
  | file
  | directory
  | symlink
  /-- Whatever else a disk may hold. -/
  | other
deriving DecidableEq, Repr

/-- The metadata of an entry. -/
structure Metadata where
  type : FileType := .file
  /-- The size in bytes; a directory has none. -/
  size : Nat := 0
  /-- The last modification in seconds from the start of 1970; 0 where it is unknown or earlier. -/
  modified : Nat := 0
  readOnly : Bool := false
deriving DecidableEq, Repr

namespace Metadata

/-- The metadata of a directory of which nothing else is known. -/
def ofDirectory : Metadata := { type := .directory }

/-- Whether the entry is a directory. -/
def isDirectory (m : Metadata) : Bool := m.type == .directory

/-- The moment of the last modification, if it is known. -/
def moment? (m : Metadata) : Option Moment :=
  if m.modified = 0 then none else some (.ofSeconds m.modified)

end Metadata

end FileIndex
