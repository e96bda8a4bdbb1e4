/-
The normalization form KC of the Unicode standard: every character is decomposed for compatibility, the
marks on each letter are put into canonical order, and what can be joined again is joined.
-/
import FileIndex.Text.CombiningClass
import FileIndex.Text.Composition
import FileIndex.Text.Decomposition

namespace FileIndex.Text

/-- Puts a character in front of an ordered text: a mark goes behind the marks of smaller class that
follow it. -/
def placeMark (c : Char) : List Char → List Char
  | [] => [c]
  | d :: rest =>
    if 0 < combiningClass d ∧ combiningClass d < combiningClass c then d :: placeMark c rest
    else c :: d :: rest

/-- Canonical order: in each run of marks the classes ascend, and marks of one class keep their order. -/
def reorder : List Char → List Char
  | [] => []
  | c :: rest => placeMark c (reorder rest)

/-- The character that two adjacent characters compose to. -/
def join? (a b : Char) : Option Char :=
  match Hangul.join? a.toNat b.toNat with
  | some c => some c
  | none => composite? a b

/-- What composition has in hand: the last starter, if there was one, and the marks that stay behind
it, the latest first. -/
structure Cluster where
  starter : Option Char
  marks : List Char

/-- The text of a cluster. -/
def Cluster.text (k : Cluster) : List Char := k.starter.toList ++ k.marks.reverse

/-- A character of class `n` is blocked from the starter by a kept mark of the same or a larger class,
and a starter by any mark. -/
def Cluster.blocks (k : Cluster) (n : Nat) : Bool :=
  match k.marks with
  | [] => false
  | d :: _ => n ≤ combiningClass d

/-- Canonical composition of a text in canonical order: each character joins the last starter if
nothing blocks it and the pair has a composite. -/
def compose (k : Cluster) : List Char → List Char
  | [] => k.text
  | c :: rest =>
    let n := combiningClass c
    let joined := if k.blocks n then none else k.starter.bind (join? · c)
    match joined with
    | some p => compose { k with starter := some p } rest
    | none =>
      if n = 0 then k.text ++ compose ⟨some c, []⟩ rest
      else compose { k with marks := c :: k.marks } rest

/-- The normalization form KC. -/
def normalForm (t : List Char) : List Char :=
  compose ⟨none, []⟩ (reorder (t.flatMap decompose))

end FileIndex.Text
