/-
What a search looks at: an entry's name in its three forms and its metadata.
-/
import FileIndex.Calendar
import FileIndex.Projection.Basic

namespace FileIndex

/-- An entry as a search sees it. -/
structure Item where
  name : String
  /-- The fuzzy form of the name. -/
  fuzzy : String
  /-- The word form of the name. -/
  word : String
  path : String
  isDirectory : Bool
  isPinned : Bool
  size : Nat
  /-- The time of the last modification, if it is known. -/
  modified : Option Moment
deriving DecidableEq, Repr

/-- An entry whose forms are those of its name. -/
def Item.ofName (name path : String) (isDirectory isPinned : Bool) (size : Nat)
    (modified : Option Moment) : Item where
  name
  fuzzy := Projection.fuzzy.apply name
  word := Projection.word.apply name
  path
  isDirectory
  isPinned
  size
  modified

end FileIndex
