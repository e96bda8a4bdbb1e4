/-
Sets of characters, written as the code points where membership changes. A set of a few hundred runs is
a short table, membership is one binary search, and union, intersection and difference are one sweep
over two such tables.
-/
import FileIndex.Text.Rows

namespace FileIndex.Text

/-- A set of code points. `⟨#[a, b, c, d]⟩` holds what lies in `[a, b)` and in `[c, d)`. -/
structure CodeSet where
  /-- The points where membership changes, in ascending order. -/
  bounds : Array Nat
deriving DecidableEq, Repr

namespace CodeSet

/-- A code point is a member if an odd number of bounds is at or below it. -/
def contains (s : CodeSet) (c : Nat) : Bool :=
  partitionPoint s.bounds (· ≤ c) % 2 = 1

/-- The end of the code space. -/
def codeSpace : Nat := 0x110000

/-- No character. -/
def empty : CodeSet := ⟨#[]⟩

/-- The characters from `first` to `last`. -/
def range (first last : Nat) : CodeSet := ⟨#[first, last + 1]⟩

/-- One character. -/
def single (c : Nat) : CodeSet := range c c

/-- Every character. -/
def all : CodeSet := ⟨#[0, codeSpace]⟩

/-- The bounds of the set of those points whose membership in the two sets, as far as these are known
on the left of the bounds that are left, satisfies `f`. -/
def sweep (f : Bool → Bool → Bool) (inA inB inResult : Bool) : List Nat → List Nat → List Nat
  | [], [] => []
  | x :: a, [] => emit x (sweep f (!inA) inB (f (!inA) inB) a []) (f (!inA) inB)
  | [], y :: b => emit y (sweep f inA (!inB) (f inA (!inB)) [] b) (f inA (!inB))
  | x :: a, y :: b =>
    if x < y then emit x (sweep f (!inA) inB (f (!inA) inB) a (y :: b)) (f (!inA) inB)
    else if y < x then emit y (sweep f inA (!inB) (f inA (!inB)) (x :: a) b) (f inA (!inB))
    else emit x (sweep f (!inA) (!inB) (f (!inA) (!inB)) a b) (f (!inA) (!inB))
termination_by a b => a.length + b.length
where
  /-- A bound is kept where membership changes. -/
  emit (x : Nat) (rest : List Nat) (now : Bool) : List Nat :=
    if now = inResult then rest else x :: rest

/-- The set of those points whose membership in the two sets satisfies `f`, which is false of a point
in neither set. -/
def combine (f : Bool → Bool → Bool) (a b : CodeSet) : CodeSet :=
  ⟨(sweep f false false false a.bounds.toList b.bounds.toList).toArray⟩

/-- What is in one of two sets or in both. -/
def union (a b : CodeSet) : CodeSet := combine (· || ·) a b

/-- What is in both sets. -/
def inter (a b : CodeSet) : CodeSet := combine (· && ·) a b

/-- What is in the first set and not in the second. -/
def diff (a b : CodeSet) : CodeSet := combine (fun x y => x && !y) a b

/-- What is in exactly one of two sets. -/
def symmDiff (a b : CodeSet) : CodeSet := combine (· != ·) a b

/-- What is not in a set. -/
def compl (a : CodeSet) : CodeSet := diff all a

/-- The union of the ranges between given first and last members. -/
def ofRanges (ranges : List (Char × Char)) : CodeSet :=
  ranges.foldl (fun s (a, b) => s.union (range a.toNat b.toNat)) empty

/-- Whether a set holds nothing beyond a limit. -/
def below (s : CodeSet) (limit : Nat) : Bool := s.bounds.all (· ≤ limit)

/-- The number of runs of a set. -/
def runs (s : CodeSet) : Nat := s.bounds.size / 2

end CodeSet

end FileIndex.Text
