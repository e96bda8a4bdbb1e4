/-
The two forms in which names and query words are compared. Both put a text into normalization form KC,
with the spacing voice marks behind kana read as combining ones, and into upper case. The fuzzy form
then forgets white space and the difference of the kana scripts; the word form keeps both and forgets
the leading zeros of numbers.
-/
import FileIndex.Text.Blank
import FileIndex.Text.NormalForm
import FileIndex.Text.Uppercase

namespace FileIndex

/-- The two forms of a text. -/
inductive Projection where
  | fuzzy
  | word
deriving DecidableEq, Repr

namespace Projection

open Text

/-! ## Kana -/

/-- The hiragana block without its first, unassigned place. -/
def isHiragana (c : Char) : Bool := 0x3041 ≤ c.toNat && c.toNat ≤ 0x309F

/-- The katakana block and the half width katakana. -/
def isKatakana (c : Char) : Bool :=
  (0x30A0 ≤ c.toNat && c.toNat ≤ 0x30FF) || (0xFF66 ≤ c.toNat && c.toNat ≤ 0xFF9F)

/-- A character of either kana script. -/
def isKana (c : Char) : Bool := isHiragana c || isKatakana c

/-- The katakana letter of a hiragana letter; every other character stays. -/
def toKatakana (c : Char) : Char :=
  if (0x3041 ≤ c.toNat && c.toNat ≤ 0x3096) || (0x309D ≤ c.toNat && c.toNat ≤ 0x309E) then
    Char.ofNat (c.toNat + 0x60)
  else c

/-- A spacing voice mark becomes a combining one behind a kana character, and stays elsewhere. -/
def combineMark (previous : Option Char) (c : Char) : Char :=
  if previous.any isKana then
    if c = '\u309B' then '\u3099' else if c = '\u309C' then '\u309A' else c
  else c

/-- Makes the spacing voice marks behind kana combining. What stands in front of a mark is judged as
it was written. -/
def combineMarks (previous : Option Char) : List Char → List Char
  | [] => []
  | c :: rest => combineMark previous c :: combineMarks (some c) rest

/-! ## The two forms -/

/-- What both forms start from: composed text in upper case. -/
def folded (t : List Char) : List Char :=
  (normalForm (combineMarks none t)).flatMap uppercase

/-- What the fuzzy form makes of a character: nothing of white space, a hyphen of the long vowel mark,
katakana of hiragana. -/
def fuzzyChar? (c : Char) : Option Char :=
  if isBlank c then none else if c = 'ー' then some '-' else some (toKatakana c)

/-- Drops the leading zeros of every run of decimal digits and keeps one zero of a run of zeros. The
flag says whether a kept digit stands in front. -/
def stripLeadingZeros (inRun : Bool) : List Char → List Char
  | [] => []
  | c :: rest =>
    if c = '0' && !inRun && rest.head?.any Char.isDigit then stripLeadingZeros inRun rest
    else c :: stripLeadingZeros c.isDigit rest

/-- The given form of a text, character by character. -/
def chars (p : Projection) (t : List Char) : List Char :=
  match p with
  | .fuzzy => (folded t).filterMap fuzzyChar?
  | .word => stripLeadingZeros false (folded t)

/-- The given form of a text. -/
def apply (p : Projection) (t : String) : String := String.ofList (p.chars t.toList)

end Projection

end FileIndex
