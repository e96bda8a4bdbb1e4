/-
Areas: the places that an index covers, each with or without what lies deeper than its entries, and how
they contain each other.
-/
import FileIndex.Json.Reader
import FileIndex.Json.Writer
import FileIndex.Path

namespace FileIndex

/-- A place to index. -/
structure Area where
  path : Path
  /-- Whether the area reaches below the directories in it. -/
  recursive : Bool
deriving DecidableEq, Repr

namespace Area

/-- Whether another area is covered: one at the same path always, one below it if the area is
recursive. -/
def contains (a b : Area) : Bool :=
  a.path.same b.path || (a.recursive && b.path.startsWith a.path)

/-- Whether an area indexes a path: its own, its entries', and what lies deeper if it is recursive. -/
def covers (a : Area) (p : Path) : Bool :=
  p.same a.path ||
    match p.below? a.path with
    | some rest => a.recursive || rest.length == 1
    | none => false

/-- Whether another area lies directly below. -/
def isParentOf (a b : Area) : Bool := b.path.parent?.any (·.same a.path)

/-- Joins an area to areas with distinct paths. One at a known path only adds its reach. -/
def insertInto (known : List Area) (a : Area) : List Area :=
  match known with
  | [] => [a]
  | k :: rest =>
    if k.path.same a.path then { k with recursive := k.recursive || a.recursive } :: rest
    else k :: insertInto rest a

/-- The areas by path, in the order and the spelling in which their paths came first. -/
def merged (areas : List Area) : List Area := areas.foldl insertInto []

/-- The areas that have to be indexed: one for each path, without those that another one contains. -/
def dedup (areas : List Area) : List Area :=
  (merged areas).filter fun a =>
    !(merged areas).any fun b => !b.path.same a.path && b.contains a

/-! ## Written areas -/

/-- The names of the fields of a written area, in its order. -/
def fieldNames : List String := ["path", "include_subdirectories"]

/-- The area of a record, which has to hold both fields. -/
def ofJson? (v : Json) : Option Area :=
  match v.fields? fieldNames with
  | some [some path, some recursive] => do
    return ⟨⟨← path.text?⟩, ← recursive.boolean?⟩
  | _ => none

/-- The record of an area. -/
def toJson (a : Area) : Json :=
  Json.ofMembers (fieldNames.zip [.ofText a.path.spelling, .boolean a.recursive])

/-- The area that a text holds. -/
def read? (t : String) : Option Area := (Json.read? t).bind ofJson?

/-- The text of an area. -/
def write (a : Area) : String := a.toJson.write

end Area

end FileIndex
