/-
Matchers: what a key has become once its word is read, ready to be held against items.
-/
import FileIndex.Filter.Property
import FileIndex.Pattern.Reader
import FileIndex.Projection.Boundary

namespace FileIndex

/-- Whether a text contains another. -/
def containsText (needle : List Char) : List Char → Bool
  | [] => needle.isEmpty
  | c :: rest => needle.isPrefixOf (c :: rest) || containsText needle rest

/-- The places where a non-empty text occurs, taken from the left and each behind the end of the one in
front: the character in front of an occurrence, if any, and the text behind it. -/
def occurrences (needle : List Char) (before : Option Char) :
    List Char → List (Option Char × List Char)
  | [] => []
  | c :: rest =>
    if needle.isPrefixOf (c :: rest) ∧ needle ≠ [] then
      (before, (c :: rest).drop needle.length)
        :: occurrences needle needle.getLast? ((c :: rest).drop needle.length)
    else occurrences needle (some c) rest
termination_by t => t.length
decreasing_by
  · rename_i h
    have : 0 < needle.length := List.length_pos_iff.2 h.2
    simp only [List.length_drop, List.length_cons]
    omega
  · simp

/-- Whether one of these occurrences lies between two word boundaries. The empty text does. -/
def containsWord (needle hay : List Char) : Bool :=
  needle.isEmpty || (occurrences needle none hay).any fun (before, after) =>
    Boundary.between before needle.head? && Boundary.between needle.getLast? after.head?

/-- A key's test. -/
inductive Matcher where
  /-- The text contains this one. -/
  | exact (needle : String)
  /-- The word form contains this text as words of its own. -/
  | word (needle : String)
  /-- The fuzzy form contains this text. -/
  | fuzzy (needle : String)
  | pattern (p : Pattern)
  | compare (c : Comparison) (reference : Value)
deriving DecidableEq, Repr

namespace Matcher

/-- The test of an operator and a word on a property. A comparison reads the word as a value of the
property's kind. -/
def compile (now : Moment) (o : Operator) (p : Property) (word : String) :
    Except QueryError Matcher :=
  match o with
  | .exact => .ok (.exact word)
  | .word => .ok (.word (Projection.word.apply word))
  | .fuzzy => .ok (.fuzzy (Projection.fuzzy.apply word))
  | .pattern ignoreCase =>
    match Pattern.parse? ignoreCase word with
    | some e => .ok (.pattern e)
    | none => .error (.badPattern word)
  | .compare c => (Value.parse now p.kind word).map (.compare c)

/-- A form of a property's text. The forms of the name are at hand; the others are made. -/
def form (f : Projection) (p : Property) (item : Item) : String :=
  match p, f with
  | .text, .fuzzy => item.fuzzy
  | .text, .word => item.word
  | _, _ => f.apply (p.read item)

/-- Whether an item passes a test. A property without a value passes no comparison. -/
def holds (m : Matcher) (p : Property) (item : Item) : Except Fault Bool :=
  match m with
  | .exact needle => .ok (containsText needle.toList (p.read item).toList)
  | .word needle => .ok (containsWord needle.toList (form .word p item).toList)
  | .fuzzy needle => .ok (containsText needle.toList (form .fuzzy p item).toList)
  | .pattern e => .ok (e.matchesIn (p.read item).toList)
  | .compare c reference =>
    match p.value? item with
    | some v => (v.compare reference).map c.accepts
    | none => .ok false

end Matcher

end FileIndex
