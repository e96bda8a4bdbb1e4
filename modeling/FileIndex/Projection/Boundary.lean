/-
Word boundaries: a boundary lies between two characters of different script classes and at both ends of
a text.
-/
import FileIndex.Projection.Basic
import FileIndex.Text.Alphabetic
import FileIndex.Text.Numeric

namespace FileIndex

open Text

/-- The classes of characters between which words end. -/
inductive ScriptClass where
  | digit
  | hiragana
  | katakana
  | ideograph
  | letter
  | other
deriving DecidableEq, Repr

namespace ScriptClass

/-- The ideographs of the unified and the compatibility blocks, and the iteration mark. -/
def isIdeograph (c : Char) : Bool :=
  (0x4E00 ≤ c.toNat && c.toNat ≤ 0x9FFF) || (0x3400 ≤ c.toNat && c.toNat ≤ 0x4DBF)
    || (0xF900 ≤ c.toNat && c.toNat ≤ 0xFAFF) || c == '々'

/-- The class of a character. Numbers come first: a number of any script is a digit. -/
def ofChar (c : Char) : ScriptClass :=
  if isNumeric c then .digit
  else if Projection.isHiragana c then .hiragana
  else if Projection.isKatakana c then .katakana
  else if isIdeograph c then .ideograph
  else if isAlphabetic c then .letter
  else .other

end ScriptClass

namespace Boundary

/-- Whether a boundary lies between two neighbours, either of which may be missing. -/
def between (before after : Option Char) : Bool :=
  match before, after with
  | some a, some b => ScriptClass.ofChar a != ScriptClass.ofChar b
  | _, _ => true

/-- Splits a text behind the given number of UTF-8 bytes; `none` if that is inside a character or
behind the end. -/
def cut? : Nat → List Char → Option (List Char × List Char)
  | 0, t => some ([], t)
  | _ + 1, [] => none
  | n + 1, c :: rest =>
    if c.utf8Size ≤ n + 1 then (cut? (n + 1 - c.utf8Size) rest).map fun (a, b) => (c :: a, b)
    else none
termination_by _ t => t.length

/-- Whether a boundary lies in front of the byte at an offset. Both ends and everything behind the
text are boundaries; `none` if the offset lies inside a character. -/
def at? (t : String) (offset : Nat) : Option Bool :=
  if offset = 0 ∨ t.utf8ByteSize ≤ offset then some true
  else (cut? offset t.toList).map fun (a, b) => between a.getLast? b.head?

end Boundary

end FileIndex
