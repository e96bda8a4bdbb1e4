/-
Full compatibility decomposition of one character: the tables of all blocks joined, and the Hangul
syllables by arithmetic.
-/
import FileIndex.Text.Rows
import FileIndex.Text.Decomposition.Letters
import FileIndex.Text.Decomposition.Ideographs
import FileIndex.Text.Decomposition.Presentation
import FileIndex.Text.Decomposition.Symbols

namespace FileIndex.Text

namespace Decomposition

/-- The rows of all blocks, in the order of the characters they belong to. -/
def rows : Array Nat :=
  (latin ++ greek ++ indic ++ extended ++ symbols ++ kana ++ ideographs ++ presentation ++ width
    ++ supplement ++ mathematics ++ emblems).toArray

end Decomposition

/-! ## Hangul -/

namespace Hangul

/-- The number of vowels. -/
def vowels : Nat := 21

/-- The number of trailing consonants, with "none" as the first. -/
def trails : Nat := 28

/-- The first leading consonant. -/
def leadBase : Nat := 0x1100

/-- The first vowel. -/
def vowelBase : Nat := 0x1161

/-- The code point in front of the first trailing consonant, which stands for "none". -/
def trailBase : Nat := 0x11A7

/-- The first syllable. -/
def syllableBase : Nat := 0xAC00

/-- How many syllables there are. -/
def syllables : Nat := 19 * vowels * trails

/-- The consonants and the vowel of a syllable. -/
def parts? (c : Nat) : Option (List Char) :=
  if syllableBase ≤ c ∧ c < syllableBase + syllables then
    let s := c - syllableBase
    let lead := Char.ofNat (leadBase + s / (vowels * trails))
    let vowel := Char.ofNat (vowelBase + s % (vowels * trails) / trails)
    let trail := s % trails
    some (lead :: vowel :: if trail = 0 then [] else [Char.ofNat (trailBase + trail)])
  else none

/-- The syllable that a leading consonant and a vowel form, or an open syllable and a trailing
consonant. -/
def join? (a b : Nat) : Option Char :=
  if leadBase ≤ a ∧ a < leadBase + 19 ∧ vowelBase ≤ b ∧ b < vowelBase + vowels then
    some (Char.ofNat (syllableBase + ((a - leadBase) * vowels + (b - vowelBase)) * trails))
  else if syllableBase ≤ a ∧ a < syllableBase + syllables ∧ (a - syllableBase) % trails = 0
      ∧ trailBase < b ∧ b < trailBase + trails then
    some (Char.ofNat (a + (b - trailBase)))
  else none

end Hangul

/-- The full compatibility decomposition of a character, itself if it has none. -/
def decompose (c : Char) : List Char :=
  if c.toNat < 0xA0 then [c]
  else match Hangul.parts? c.toNat with
    | some parts => parts
    | none => (findRow? Decomposition.rows c.toNat).getD [c]

end FileIndex.Text
