/-
Search keys: the terms of a query. A key compares one property of an item with a word by an operator,
and its conjunction says how its matches join those of the keys in front of it.
-/
import FileIndex.Text.Quoted

namespace FileIndex

/-- How a key's matches join the matches so far. -/
inductive Conjunction where
  | and
  | or
  | not
  /-- United with the rest, from all items, after every other key. -/
  | preor
deriving DecidableEq, Repr

/-- The option that sets a conjunction. -/
def Conjunction.name : Conjunction → String
  | .and => "and"
  | .or => "or"
  | .not => "not"
  | .preor => "preor"

/-- All conjunctions. -/
def Conjunction.all : List Conjunction := [.and, .or, .not, .preor]

/-- A relation between two values of one kind. -/
inductive Comparison where
  | lt | le | eq | ne | ge | gt
deriving DecidableEq, Repr

/-- The option that sets a comparison. -/
def Comparison.name : Comparison → String
  | .lt => "m.lt"
  | .le => "m.le"
  | .eq => "m.eq"
  | .ne => "m.ne"
  | .ge => "m.ge"
  | .gt => "m.gt"

/-- Whether an order of two values satisfies a comparison. -/
def Comparison.accepts : Comparison → Ordering → Bool
  | .lt, o => o == .lt
  | .le, o => o != .gt
  | .eq, o => o == .eq
  | .ne, o => o != .eq
  | .ge, o => o != .lt
  | .gt, o => o == .gt

/-- How a property is compared with a word. -/
inductive Operator where
  /-- The text contains the word as it stands. -/
  | exact
  /-- The word form contains the word between two boundaries. -/
  | word
  /-- The fuzzy form contains the word. -/
  | fuzzy
  /-- The word is a regular expression that matches somewhere in the text. -/
  | pattern (ignoreCase : Bool)
  /-- The value of the property compares with the value that the word is read as. -/
  | compare (c : Comparison)
deriving DecidableEq, Repr

/-- The option that sets an operator. -/
def Operator.name : Operator → String
  | .exact => "exact"
  | .word => "word"
  | .fuzzy => "fuzzy"
  | .pattern false => "re"
  | .pattern true => "ire"
  | .compare c => c.name

/-- All operators. -/
def Operator.all : List Operator :=
  [.exact, .word, .fuzzy, .pattern false, .pattern true, .compare .lt, .compare .le, .compare .eq,
    .compare .ne, .compare .ge, .compare .gt]

/-- One term of a query. -/
structure Key where
  word : String
  conjunction : Conjunction := .and
  property : String := "text"
  operator : Operator := .fuzzy
  /-- Put in by the program and not typed: such a key is left out of a written query, and a query of
  nothing else finds only what is pinned. -/
  exclude : Bool := false
deriving DecidableEq, Repr

/-- The property that a key reads unless it names another. -/
def Key.defaultProperty : String := "text"

/-- A key in one line: its parts between colons, the word quoted. -/
def Key.summary (k : Key) : String :=
  k.conjunction.name ++ ":" ++ k.property ++ ":" ++ k.operator.name ++ ":" ++ Text.quoted k.word

end FileIndex
