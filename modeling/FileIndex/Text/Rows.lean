/-
Tables of the Unicode standard as sorted rows. A row is one numeral whose digits in base `2 ^ 24` are
code points (or small numbers); its last digit is the code point that the row is looked up by, and the
rows of a table stand in the order of that digit, so that a binary search finds them.
-/

namespace FileIndex.Text

/-- The base of a row's digits: no code point reaches it. -/
def rowBase : Nat := 0x1000000

/-- The digits of a numeral in base `rowBase`, the leading one first, in front of `acc`. -/
def rowDigits (n : Nat) (acc : List Nat) : List Nat :=
  if n = 0 then acc else rowDigits (n / rowBase) (n % rowBase :: acc)
termination_by n
decreasing_by exact Nat.div_lt_self (by omega) (by decide)

/-- How many elements a sorted array has in front of the first one that fails `p`, where `p` holds on
a leading part of the array and nowhere after it. -/
def partitionPoint {α : Type} (a : Array α) (p : α → Bool) : Nat :=
  go 0 a.size (Nat.le_refl _)
where
  /-- The search between `lo` and `hi`. -/
  go (lo hi : Nat) (h : hi ≤ a.size) : Nat :=
    if hlt : lo < hi then
      have hm : (lo + hi) / 2 < a.size := by omega
      if p a[(lo + hi) / 2] then go ((lo + hi) / 2 + 1) hi h
      else go lo ((lo + hi) / 2) (by omega)
    else lo
  termination_by hi - lo

/-- The last row whose last digit is at most `c`. -/
def lastRow? (rows : Array Nat) (c : Nat) : Option Nat :=
  match partitionPoint rows (· % rowBase ≤ c) with
  | 0 => none
  | n + 1 => rows[n]?

/-- The text that the row of `c` holds in front of its last digit. -/
def findRow? (rows : Array Nat) (c : Nat) : Option (List Char) := do
  let row ← lastRow? rows c
  if row % rowBase = c then some ((rowDigits (row / rowBase) []).map Char.ofNat) else none

end FileIndex.Text
