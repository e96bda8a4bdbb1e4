/-
The properties of an item that a key can name, with the text that string operators read and the value
that comparisons read.
-/
import FileIndex.Filter.Item
import FileIndex.Query.Registry
import FileIndex.Query.Value

namespace FileIndex

/-- The properties of an item. -/
inductive Property where
  | text
  | date
  | isDirectory
  | isPinned
  | size
  | path
deriving DecidableEq, Repr

namespace Property

/-- All properties. -/
def all : List Property := [.text, .date, .isDirectory, .isPinned, .size, .path]

/-- The properties that every filter has. -/
def basic : List Property := [.text, .date]

/-- The name of a property in a query. -/
def name : Property → String
  | .text => "text"
  | .date => "date"
  | .isDirectory => "isDirectory"
  | .isPinned => "isPinned"
  | .size => "size"
  | .path => "path"

/-- The kind of a property's values. -/
def kind : Property → Kind
  | .text | .path => .text
  | .date => .moment
  | .isDirectory | .isPinned => .boolean
  | .size => .integer

/-- A truth value in words. -/
def truth (b : Bool) : String := if b then "true" else "false"

/-- The text of a property; an unknown date has the empty text. -/
def read (p : Property) (item : Item) : String :=
  match p with
  | .text => item.name
  | .path => item.path
  | .date => (item.modified.map Moment.text).getD ""
  | .isDirectory => truth item.isDirectory
  | .isPinned => truth item.isPinned
  | .size => Nat.repr item.size

/-- The value of a property. A date may be unknown, and a size too large for 64 bits with a sign has no
value. -/
def value? (p : Property) (item : Item) : Option Value :=
  match p with
  | .text => some (.text item.name)
  | .path => some (.text item.path)
  | .date => item.modified.map (.moment · false)
  | .isDirectory => some (.boolean item.isDirectory)
  | .isPinned => some (.boolean item.isPinned)
  | .size => if Value.inRange item.size then some (.integer item.size) else none

/-- The properties of a filter: those that every filter has, then the given ones, each once. -/
def select (given : List Property) : List Property :=
  given.foldl (fun known p => if known.contains p then known else known ++ [p]) basic

/-- The property of a name, in any ASCII case. -/
def find? (known : List Property) (name : String) : Option Property :=
  known.find? fun p => lowerAscii p.name == lowerAscii name

end Property

end FileIndex
