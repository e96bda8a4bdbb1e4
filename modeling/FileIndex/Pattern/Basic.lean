/-
Regular expressions as trees, and whether one matches somewhere in a text. A match is sought for all
starting places at once: a set of places in the text is one numeral, whose bit `i` stands for the place
in front of character `i`, and every part of an expression maps the places where it may start to the
places where it may end.
-/
import FileIndex.Pattern.Property

namespace FileIndex

open Text

namespace Pattern

/-- What a place in a text can be asked without reading a character. -/
inductive Look where
  | start
  | finish
  /-- At the start of a line; `crlf` also takes carriage returns as line ends. -/
  | lineStart (crlf : Bool)
  /-- At the end of a line. -/
  | lineEnd (crlf : Bool)
  /-- Between a character of the set and one outside it. -/
  | boundary (word : CodeSet)
  | noBoundary (word : CodeSet)
  | wordStart (word : CodeSet)
  | wordEnd (word : CodeSet)
  /-- Not behind a character of the set. -/
  | halfStart (word : CodeSet)
  /-- Not in front of a character of the set. -/
  | halfEnd (word : CodeSet)
deriving DecidableEq, Repr

/-- Whether a place between two characters, of which either may be missing, satisfies a look. -/
def Look.holds (l : Look) (before after : Option Char) : Bool :=
  let isIn (s : CodeSet) (c : Option Char) : Bool := c.any (s.contains ·.toNat)
  match l with
  | .start => before.isNone
  | .finish => after.isNone
  | .lineStart false => before.isNone || before == some '\n'
  | .lineStart true =>
    before.isNone || before == some '\n' || (before == some '\r' && after != some '\n')
  | .lineEnd false => after.isNone || after == some '\n'
  | .lineEnd true =>
    after.isNone || after == some '\r' || (after == some '\n' && before != some '\r')
  | .boundary w => isIn w before != isIn w after
  | .noBoundary w => isIn w before == isIn w after
  | .wordStart w => !isIn w before && isIn w after
  | .wordEnd w => isIn w before && !isIn w after
  | .halfStart w => !isIn w before
  | .halfEnd w => !isIn w after

end Pattern

/-- A regular expression. -/
inductive Pattern where
  /-- The empty text. -/
  | empty
  /-- One character of a set. -/
  | oneOf (s : CodeSet)
  | look (l : Pattern.Look)
  | seq (a b : Pattern)
  | alt (a b : Pattern)
  /-- At least `min` and at most `max` times; any number of times if there is no `max`. -/
  | repeated (p : Pattern) (min : Nat) (max : Option Nat)
  /-- A group that takes part in the size of an expression and not in its meaning. -/
  | group (p : Pattern)
deriving DecidableEq, Repr

namespace Pattern

/-! ## Sets of places -/

/-- The set of the places `i` for which the list holds `true`. -/
def places (flags : List Bool) : Nat :=
  flags.foldr (fun b n => n * 2 + b.toNat) 0

/-- The places in front of a character of a set. -/
def placesBefore (s : CodeSet) (t : List Char) : Nat := places (t.map (s.contains ·.toNat))

/-- Whether each place of a text satisfies a look. -/
def lookFlags (l : Look) (before : Option Char) : List Char → List Bool
  | [] => [l.holds before none]
  | c :: rest => l.holds before (some c) :: lookFlags l (some c) rest

/-- Applies a step until it adds nothing, at most `n` times. -/
def closure (step : Nat → Nat) : Nat → Nat → Nat
  | 0, s => s
  | n + 1, s =>
    let s' := s ||| step s
    if s' = s then s else closure step n s'

/-- Applies a step `n` times, or until it changes nothing. -/
def iterate (step : Nat → Nat) : Nat → Nat → Nat
  | 0, s => s
  | n + 1, s =>
    let s' := step s
    if s' = s then s else iterate step n s'

/-- The places where a match may end that starts at one of the given places. -/
def ends (t : List Char) : Pattern → Nat → Nat
  | .empty, s => s
  | .oneOf c, s => (s &&& placesBefore c t) <<< 1
  | .look l, s => s &&& places (lookFlags l none t)
  | .seq a b, s => ends t b (ends t a s)
  | .alt a b, s => ends t a s ||| ends t b s
  | .repeated p min max, s =>
    let started := iterate (ends t p) min s
    match max with
    | some max => closure (ends t p) (max - min) started
    | none => closure (ends t p) (t.length + 1) started
  | .group p, s => ends t p s

/-- All places of a text: one in front of each character and one at its end. -/
def everyPlace (t : List Char) : Nat := (1 <<< (t.length + 1)) - 1

/-- Whether an expression matches somewhere in a text. -/
def matchesIn (p : Pattern) (t : List Char) : Bool :=
  ends t p (everyPlace t) ≠ 0

/-! ## Size -/

/-- Whether an expression matches nothing but empty texts. -/
def isZeroWidth : Pattern → Bool
  | .empty | .look _ => true
  | .oneOf _ => false
  | .seq a b | .alt a b => a.isZeroWidth && b.isZeroWidth
  | .repeated p _ max => p.isZeroWidth || max == some 0
  | .group p => p.isZeroWidth

/-- The number of bytes that one state of a compiled expression takes. -/
def stateSize : Nat := 32

/-- The number of bytes that a class takes for one of its runs beyond ASCII. -/
def runSize : Nat := 64

/-- The size of an expression when it is compiled: a state for each byte of a character, one for each
choice and two for each group, and a copy of a repeated part for each time it may be needed. -/
def size : Pattern → Nat
  | .empty | .look _ => stateSize
  | .oneOf s =>
    match s.bounds.toList with
    | [a, b] =>
      if b = a + 1 then stateSize * (Char.ofNat a).utf8Size
      else if b ≤ 0x80 then stateSize else runSize
    | _ => if s.below 0x80 then stateSize + 8 * s.runs else runSize * s.runs
  | .seq a b => size a + size b
  | .alt a b => size a + size b + stateSize
  | .repeated p min max =>
    let once := if p.isZeroWidth then 1 else min
    match max with
    | some max =>
      let most := if p.isZeroWidth then 1 else max
      size p * once + (size p + stateSize) * (most - once)
    | none => size p * (Nat.max once 1) + stateSize
  | .group p => size p + 2 * stateSize

/-- The size beyond which an expression is refused. -/
def sizeLimit : Nat := 10 * 1024 * 1024

end Pattern

end FileIndex
