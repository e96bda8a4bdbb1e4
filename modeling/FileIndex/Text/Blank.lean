/-
The white space of the Unicode standard (the property `White_Space`): what a fuzzy form leaves out
and what separates the words of a query.
-/
import FileIndex.Text.CodeSet

namespace FileIndex.Text

/-- The characters with the property `White_Space`. -/
def blanks : CodeSet := ⟨#[
  0x0009, 0x000E, 0x0020, 0x0021, 0x0085, 0x0086, 0x00A0, 0x00A1, 0x1680, 0x1681, 0x2000, 0x200B,
  0x2028, 0x202A, 0x202F, 0x2030, 0x205F, 0x2060, 0x3000, 0x3001]⟩

/-- White space in the sense of the Unicode standard. -/
def isBlank (c : Char) : Bool :=
  if c.toNat < 0x80 then c == ' ' || (0x09 ≤ c.toNat && c.toNat ≤ 0x0D)
  else blanks.contains c.toNat

/-- A text without the white space at its two ends. -/
def trimBlanks (t : List Char) : List Char :=
  ((t.dropWhile isBlank).reverse.dropWhile isBlank).reverse

end FileIndex.Text
