/-
Tables of the Unicode standard that are kept as text: words between white space, the code points among
them in hexadecimal digits.
-/
import FileIndex.Text.CodeSet

namespace FileIndex.Pattern

/-- The words of a text, whose characters are read from the last one on. -/
def tableWords (t : String) : List (List Char) :=
  let (word, words) := t.toList.foldr (fun c (word, words) =>
    if c = ' ' ∨ c = '\n' then ([], if word.isEmpty then words else word :: words)
    else (c :: word, words)) (([] : List Char), ([] : List (List Char)))
  if word.isEmpty then words else word :: words

/-- The value of a hexadecimal digit, if it is one. -/
def hexValue? (c : Char) : Option Nat :=
  if c.isDigit then some (c.toNat - '0'.toNat)
  else if 'a' ≤ c ∧ c ≤ 'f' then some (c.toNat - 'a'.toNat + 10)
  else if 'A' ≤ c ∧ c ≤ 'F' then some (c.toNat - 'A'.toNat + 10)
  else none

/-- The number that hexadecimal digits write. -/
def hexNumber (digits : List Char) : Nat :=
  digits.foldl (fun n c => n * 16 + (hexValue? c).getD 0) 0

/-- A division of all characters into runs of one value each: where each run starts, and its value. -/
structure Partition where
  runs : Array (Nat × String)

namespace Partition

/-- Reads code points and values in turn. -/
def pairs : List (List Char) → List (Nat × String)
  | start :: value :: rest => (hexNumber start, String.ofList value) :: pairs rest
  | _ => []

/-- The partition that a text lists. -/
def ofText (t : String) : Partition := ⟨(pairs (tableWords t)).toArray⟩

/-- The set of the characters whose value satisfies `p`. -/
def select (q : Partition) (p : String → Bool) : Text.CodeSet :=
  let (bounds, inside) := q.runs.foldl (fun (bounds, inside) (start, value) =>
    if p value = inside then (bounds, inside) else (bounds.push start, !inside))
    ((#[] : Array Nat), false)
  ⟨if inside then bounds.push Text.CodeSet.codeSpace else bounds⟩

end Partition

end FileIndex.Pattern

namespace FileIndex.Text.CodeSet

/-- The set whose bounds a text lists. -/
def ofText (t : String) : CodeSet := ⟨((Pattern.tableWords t).map Pattern.hexNumber).toArray⟩

end FileIndex.Text.CodeSet
