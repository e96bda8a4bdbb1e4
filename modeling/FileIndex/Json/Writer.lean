/-
Writing JSON without blanks.
-/
import FileIndex.Json.Basic

namespace FileIndex.Json

mutual

/-- A value in characters. -/
def writeValue : Json → List Char
  | .null => ['n', 'u', 'l', 'l']
  | .boolean true => ['t', 'r', 'u', 'e']
  | .boolean false => ['f', 'a', 'l', 's', 'e']
  | .number digits => digits
  | .string written => '"' :: written ++ ['"']
  | .array [] => ['[', ']']
  | .array (item :: items) => '[' :: writeValue item ++ writeItems items
  | .object [] => ['\x7b', '\x7d']
  | .object ((name, v) :: members) =>
    '\x7b' :: '"' :: name ++ '"' :: ':' :: writeValue v ++ writeMembers members

/-- The further items of an array and its end. -/
def writeItems : List Json → List Char
  | [] => [']']
  | item :: items => ',' :: writeValue item ++ writeItems items

/-- The further members of an object and its end. -/
def writeMembers : List (List Char × Json) → List Char
  | [] => ['\x7d']
  | (name, v) :: members =>
    ',' :: '"' :: name ++ '"' :: ':' :: writeValue v ++ writeMembers members

end

/-- The text of a value. -/
def write (v : Json) : String := String.ofList (writeValue v)

/-- The object of the given members. -/
def ofMembers (members : List (String × Json)) : Json :=
  .object (members.map fun (name, v) => (encode name.toList, v))

end FileIndex.Json
