/-
Reading a regular expression: alternatives between bars, groups with flags, counted repetitions,
escapes, and classes with set operations. Flags hold from where they stand to the end of their group.
Whatever is not well formed, could match half a character, or grows too large is refused.
-/
import FileIndex.Pattern.Basic
import FileIndex.Pattern.Orbit
import FileIndex.Text.Alphabetic
import FileIndex.Text.Blank
import FileIndex.Text.Numeric

namespace FileIndex

open Text

namespace Pattern

/-! ## Flags and classes -/

/-- The flags that a group may set. -/
structure Flags where
  ignoreCase : Bool := false
  multiLine : Bool := false
  dotAll : Bool := false
  swapGreed : Bool := false
  unicode : Bool := true
  crlf : Bool := false
  /-- Blanks and comments in the expression mean nothing. -/
  spaced : Bool := false
deriving DecidableEq, Repr

/-- Sets the flag of a letter. -/
def Flags.set? (f : Flags) (letter : Char) (on : Bool) : Option Flags :=
  match letter with
  | 'i' => some { f with ignoreCase := on }
  | 'm' => some { f with multiLine := on }
  | 's' => some { f with dotAll := on }
  | 'U' => some { f with swapGreed := on }
  | 'u' => some { f with unicode := on }
  | 'R' => some { f with crlf := on }
  | 'x' => some { f with spaced := on }
  | _ => none

/-- A set and every character that differs from a member in case alone. Without `unicode` only ASCII
letters have a case. -/
def foldCase (unicode : Bool) (s : CodeSet) : CodeSet :=
  let mates := orbits.filterMap fun orbit =>
    let orbit := if unicode then orbit else orbit.filter (· < 0x80)
    if orbit.any s.contains then some orbit else none
  (mates.flatten).foldl (fun s c => if s.contains c then s else s.union (.single c)) s

/-- Folds case if the flags say so, and negates. Without `unicode` a negation would hold half
characters and is refused. -/
def Flags.close? (f : Flags) (negated : Bool) (s : CodeSet) : Option CodeSet :=
  let s := if f.ignoreCase then foldCase f.unicode s else s
  if !negated then some s
  else if f.unicode then some s.compl
  else none

/-- The word characters: letters, marks, decimal digits, connectors and joiners. -/
def unicodeWord : CodeSet :=
  letters.union ((ofCategories ["Mn", "Mc", "Me", "Nd", "Pc"]).union (.range 0x200C 0x200D))

/-- The word characters of ASCII. -/
def asciiWord : CodeSet := .ofRanges [('0', '9'), ('A', 'Z'), ('_', '_'), ('a', 'z')]

/-- The white space of ASCII. -/
def asciiSpace : CodeSet := .ofRanges [('\t', '\r'), (' ', ' ')]

/-- The word characters under some flags. -/
def Flags.word (f : Flags) : CodeSet := if f.unicode then unicodeWord else asciiWord

/-- The class of one of the letters `d`, `s` and `w`. -/
def Flags.letterClass (f : Flags) (letter : Char) : CodeSet :=
  match letter with
  | 'd' => if f.unicode then ofCategories ["Nd"] else .ofRanges [('0', '9')]
  | 's' => if f.unicode then blanks else asciiSpace
  | _ => f.word

/-- The ASCII classes by name. -/
def asciiClass? (name : String) : Option CodeSet :=
  match name with
  | "alnum" => some (.ofRanges [('0', '9'), ('A', 'Z'), ('a', 'z')])
  | "alpha" => some (.ofRanges [('A', 'Z'), ('a', 'z')])
  | "ascii" => some (.ofRanges [('\x00', '\x7f')])
  | "blank" => some (.ofRanges [('\t', '\t'), (' ', ' ')])
  | "cntrl" => some (.ofRanges [('\x00', '\x1f'), ('\x7f', '\x7f')])
  | "digit" => some (.ofRanges [('0', '9')])
  | "graph" => some (.ofRanges [('!', '~')])
  | "lower" => some (.ofRanges [('a', 'z')])
  | "print" => some (.ofRanges [(' ', '~')])
  | "punct" => some (.ofRanges [('!', '/'), (':', '@'), ('[', '`'), ('\x7b', '~')])
  | "space" => some asciiSpace
  | "upper" => some (.ofRanges [('A', 'Z')])
  | "word" => some asciiWord
  | "xdigit" => some (.ofRanges [('0', '9'), ('A', 'F'), ('a', 'f')])
  | _ => none

/-! ## Blanks and numbers -/

/-- What stands behind blanks and comments, where these mean nothing. A comment runs from `#` to the end
of its line; the flag says whether the text starts inside one. -/
def skipSpaced (inComment : Bool) : List Char → List Char
  | [] => []
  | c :: rest =>
    if inComment then skipSpaced (c ≠ '\n') rest
    else if isBlank c then skipSpaced false rest
    else if c = '#' then skipSpaced true rest
    else c :: rest

/-- What stands behind the blanks that the flags let pass. -/
def Flags.skip (f : Flags) (t : List Char) : List Char := if f.spaced then skipSpaced false t else t

/-- The decimal digits at the start of a text, with what the flags let pass behind each of them, and
the rest. -/
def takeDecimal (f : Flags) : Nat → List Char → List Char × List Char
  | 0, t => ([], t)
  | _ + 1, [] => ([], [])
  | n + 1, c :: rest =>
    if c.isDigit then
      let (digits, rest) := takeDecimal f n (f.skip rest)
      (c :: digits, rest)
    else ([], c :: rest)

/-- The largest number of repetitions that can be asked for. -/
def countLimit : Nat := 4294967295

/-- A number between optional blanks: `none` if there are no digits, and outside of that `none` if
there are too many. -/
def readCount? (f : Flags) (t : List Char) : Option (Option Nat × List Char) :=
  let (digits, rest) := takeDecimal f t.length (t.dropWhile isBlank)
  let rest := rest.dropWhile isBlank
  if digits.isEmpty then some (none, rest)
  else
    let n := digits.foldl (fun n c => n * 10 + (c.toNat - '0'.toNat)) 0
    if n ≤ countLimit then some (some n, rest) else none

/-- A scalar value, if the number is one. -/
def scalar? (n : Nat) : Option Char := if n.isValidChar then some (Char.ofNat n) else none

/-! ## Escapes -/

/-- What an escape, or a character that stands for itself, can mean. -/
inductive Atom where
  | literal (c : Char)
  | set (s : CodeSet)
  | look (l : Look)

/-- The characters that have a meaning of their own somewhere. -/
def isMeta (c : Char) : Bool := "\\.+*?()|[]\x7b\x7d^$#&-~".toList.contains c

/-- Whether a backslash in front of a character without a meaning may be left out: for the signs of
ASCII, but for two that have a meaning behind a backslash. -/
def isEscapable (c : Char) : Bool :=
  isMeta c || (c.toNat < 0x80 && !c.isAlphanum && c != '<' && c != '>')

/-- Exactly `n` hexadecimal digits, with what the flags let pass between them. -/
def takeHex? (f : Flags) : Nat → List Char → Option (List Char × List Char)
  | 0, t => some ([], t)
  | n + 1, c :: rest =>
    if (hexValue? c).isSome then
      (takeHex? f n (f.skip rest)).map fun (digits, rest) => (c :: digits, rest)
    else none
  | _ + 1, [] => none

/-- The characters up to a closing brace, and what stands behind it. -/
def takeBraced? (f : Flags) : Nat → List Char → Option (List Char × List Char)
  | 0, _ => none
  | _ + 1, [] => none
  | n + 1, c :: rest =>
    if c = '\x7d' then some ([], rest)
    else (takeBraced? f n (f.skip rest)).map fun (name, rest) => (c :: name, rest)

/-- A character by its number: two, four or eight hexadecimal digits, or any number of them in
braces. -/
def readHex? (f : Flags) (kind : Char) (t : List Char) : Option (Atom × List Char) :=
  match f.skip t with
  | '\x7b' :: rest => do
    let (digits, rest) ← takeBraced? f (rest.length + 1) (f.skip rest)
    if digits.isEmpty || digits.any fun c => (hexValue? c).isNone then failure
    let c ← scalar? (hexNumber digits)
    return (.literal c, f.skip rest)
  | t => do
    let width := if kind = 'x' then 2 else if kind = 'u' then 4 else 8
    let (digits, rest) ← takeHex? f width t
    let c ← scalar? (hexNumber digits)
    return (.literal c, rest)

/-- Splits a text at the first place where a mark stands. -/
def splitAtMark? (mark : List Char) : List Char → Option (List Char × List Char)
  | [] => none
  | c :: rest =>
    if mark.isPrefixOf (c :: rest) then some ([], (c :: rest).drop mark.length)
    else (splitAtMark? mark rest).map fun (a, b) => (c :: a, b)

/-- The set that the text between the braces of a property stands for. A value behind `!=` is one that
the property must not have. -/
def property? (name : List Char) : Option (CodeSet × Bool) :=
  match splitAtMark? ['!', '='] name with
  | some (p, v) => (valued? p v).map (·, true)
  | none =>
    match (splitAtMark? [':'] name).or (splitAtMark? ['='] name) with
    | some (p, v) => (valued? p v).map (·, false)
    | none => (named? name).map (·, false)

/-- A property: one letter, or a name in braces. -/
def readProperty? (f : Flags) (negated : Bool) (t : List Char) : Option (Atom × List Char) := do
  let (name, rest) ← match f.skip t with
    | '\x7b' :: rest => takeBraced? f (rest.length + 1) (f.skip rest)
    | c :: rest => if c = '\\' then none else some ([c], f.skip rest)
    | [] => none
  let (s, isOther) ← property? name
  if !f.unicode then failure
  let s ← f.close? (negated != isOther) s
  return (.set s, rest)

/-- The word boundary that a name in braces asks for. -/
def boundary? (word : CodeSet) (name : String) : Option Look :=
  match name with
  | "start" => some (.wordStart word)
  | "end" => some (.wordEnd word)
  | "start-half" => some (.halfStart word)
  | "end-half" => some (.halfEnd word)
  | _ => none

/-- A word boundary, with its kind in braces if it has one. Braces that start with anything but a
letter or a hyphen are left to be read as a repetition. -/
def readBoundary? (f : Flags) (t : List Char) : Option (Atom × List Char) :=
  let isNamePart (c : Char) : Bool := c.isAlpha || c == '-'
  match t with
  | '\x7b' :: rest =>
    match f.skip rest with
    | [] => none
    | c :: more =>
      if isNamePart c then do
        let (name, rest) ← takeBraced? f (more.length + 2) (c :: more)
        let l ← boundary? f.word (String.ofList name)
        return (.look l, rest)
      else some (.look (.boundary f.word), t)
  | _ => some (.look (.boundary f.word), t)

/-- What a backslash and the text behind it mean. -/
def readEscape? (f : Flags) : List Char → Option (Atom × List Char)
  | [] => none
  | c :: rest =>
    let literal (d : Char) : Option (Atom × List Char) := some (.literal d, rest)
    let look (l : Look) : Option (Atom × List Char) := some (.look l, rest)
    match c with
    | 'x' | 'u' | 'U' => readHex? f c rest
    | 'p' | 'P' => readProperty? f (c = 'P') rest
    | 'd' | 's' | 'w' => some (.set (f.letterClass c), rest)
    | 'D' | 'S' | 'W' =>
      if f.unicode then some (.set (f.letterClass c.toLower).compl, rest) else none
    | 'a' => literal '\x07'
    | 'f' => literal '\x0c'
    | 't' => literal '\t'
    | 'n' => literal '\n'
    | 'r' => literal '\r'
    | 'v' => literal '\x0b'
    | 'A' => look .start
    | 'z' => look .finish
    | 'b' => readBoundary? f rest
    | 'B' => look (.noBoundary f.word)
    | '<' => look (.wordStart f.word)
    | '>' => look (.wordEnd f.word)
    | _ => if isEscapable c then literal c else none

/-- The character that a literal stands for. Without `unicode` a character beyond ASCII would be taken
apart and is refused. -/
def Flags.char? (f : Flags) (c : Char) : Option Char :=
  if f.unicode || c.toNat < 0x80 then some c else none

/-! ## Classes -/

/-- A class while it is read: the union of the items so far, how many there are, and how deep they
nest. -/
structure ClassItems where
  set : CodeSet := .empty
  count : Nat := 0
  depth : Nat := 0

/-- Adds an item. -/
def ClassItems.add (u : ClassItems) (s : CodeSet) (depth : Nat) : ClassItems :=
  { set := u.set.union s, count := u.count + 1, depth := max u.depth depth }

/-- How deep the items nest as one operand. -/
def ClassItems.nesting (u : ClassItems) : Nat := if u.count < 2 then u.depth else u.depth + 1

/-- The operations between the operands of a class. -/
inductive ClassOp where
  | inter
  | diff
  | symmDiff

/-- A class whose bracket is open: the items of the class around it, whether it is negated, and the
operation that waits for its second operand. -/
structure OpenClass where
  outer : ClassItems
  negated : Bool
  pending : Option (ClassOp × CodeSet × Nat) := none

/-- Ends an operand: the value and the depth of the class up to here. Both operands of an operation
are folded first. -/
def OpenClass.operand (k : OpenClass) (f : Flags) (u : ClassItems) : CodeSet × Nat :=
  match k.pending with
  | none => (u.set, u.nesting)
  | some (op, lhs, depth) =>
    let fold (s : CodeSet) : CodeSet := if f.ignoreCase then foldCase f.unicode s else s
    let s := match op with
      | .inter => (fold lhs).inter (fold u.set)
      | .diff => (fold lhs).diff (fold u.set)
      | .symmDiff => (fold lhs).symmDiff (fold u.set)
    (s, max depth u.nesting + 1)

/-- The hyphens at the start of a class, each a member, and the rest. -/
def takeHyphens (f : Flags) : Nat → ClassItems → List Char → ClassItems × List Char
  | n + 1, u, '-' :: rest => takeHyphens f n (u.add (.single '-'.toNat) 0) (f.skip rest)
  | _, u, t => (u, t)

/-- Opens a class behind its bracket: a caret negates it, and hyphens and a closing bracket in front
are members. Something has to follow. -/
def openClass? (f : Flags) (outer : ClassItems) (t : List Char) :
    Option (OpenClass × ClassItems × List Char) :=
  let (negated, t) := match f.skip t with
    | '^' :: rest => (true, f.skip rest)
    | t => (false, t)
  let (u, t) := takeHyphens f t.length {} t
  match t with
  | [] => none
  | ']' :: rest =>
    if u.count = 0 then
      match f.skip rest with
      | [] => none
      | t => some ({ outer, negated }, u.add (.single ']'.toNat) 0, t)
    else some ({ outer, negated }, u, t)
  | t => some ({ outer, negated }, u, t)

/-- An ASCII class such as `[:alpha:]`, behind its bracket. -/
def readAsciiClass? (f : Flags) (t : List Char) : Option (Option CodeSet × List Char) :=
  match t with
  | ':' :: rest => do
    let (negated, rest) := match rest with
      | '^' :: rest => (true, rest)
      | rest => (false, rest)
    let (name, rest) ← splitAtMark? [':'] rest
    match rest with
    | ']' :: rest => do
      let s ← asciiClass? (String.ofList name)
      some (f.close? negated s, rest)
    | _ => none
  | _ => none

/-- One member of a class. -/
def readMember? (f : Flags) : List Char → Option (Atom × List Char)
  | [] => none
  | '\\' :: rest => readEscape? f rest
  | c :: rest => some (.literal c, rest)

/-- The character of a member that ends a range. -/
def Atom.char? (f : Flags) : Atom → Option Char
  | .literal c => f.char? c
  | _ => none

/-- A member or a range of members. A hyphen in front of the closing bracket or of another hyphen makes
no range. -/
def readRange? (f : Flags) (t : List Char) : Option (CodeSet × List Char) := do
  let (first, rest) ← readMember? f t
  let alone : Option (CodeSet × List Char) :=
    match first with
    | .set s => some (s, f.skip rest)
    | .look _ => none
    | .literal c => (f.char? c).map fun c => (.single c.toNat, f.skip rest)
  match f.skip rest with
  | [] => none
  | '-' :: more =>
    match f.skip more with
    | [] => none
    | ']' :: _ | '-' :: _ => alone
    | more => do
      let (last, rest) ← readMember? f more
      let a ← first.char? f
      let b ← last.char? f
      if a ≤ b then some (.range a.toNat b.toNat, rest) else none
  | _ => alone

/-- Reads a class from behind its first bracket on: its set, how deep it nests, and the rest. -/
def readClass? (f : Flags) : Nat → List OpenClass → ClassItems → List Char →
    Option (CodeSet × Nat × List Char)
  | 0, _, _, _ => none
  | n + 1, stack, u, t =>
    let operation (op : ClassOp) (rest : List Char) : Option (CodeSet × Nat × List Char) :=
      match stack with
      | [] => none
      | k :: outer =>
        let (s, depth) := k.operand f u
        readClass? f n ({ k with pending := some (op, s, depth) } :: outer) {} rest
    let inner (rest : List Char) : Option (CodeSet × Nat × List Char) :=
      (openClass? f u rest).bind fun (k, u, rest) => readClass? f n (k :: stack) u rest
    match f.skip t with
    | [] => none
    | ']' :: rest =>
      match stack with
      | [] => none
      | k :: outer =>
        let (s, depth) := k.operand f u
        match f.close? k.negated s with
        | none => none
        | some s =>
          if outer.isEmpty then some (s, depth + 1, rest)
          else readClass? f n outer (k.outer.add s (depth + 1)) rest
    | '[' :: rest =>
      match readAsciiClass? f rest with
      | some (some s, rest) => readClass? f n stack (u.add s 0) rest
      | some (none, _) => none
      | none => inner rest
    | '&' :: '&' :: rest => operation .inter rest
    | '-' :: '-' :: rest => operation .diff rest
    | '~' :: '~' :: rest => operation .symmDiff rest
    | t => (readRange? f t).bind fun (s, rest) => readClass? f n stack (u.add s 0) rest

/-! ## Expressions -/

/-- A part of a sequence: an expression and how deep it nests, or flags, which nothing can repeat. -/
inductive Piece where
  | part (p : Pattern) (depth : Nat)
  | flags

/-- The pieces of a sequence as one expression, the last one first in the list. -/
def Piece.sequence (pieces : List Piece) : Pattern × Nat :=
  let parts := pieces.reverse.filterMap fun
    | .part p depth => some (p, depth)
    | .flags => none
  let depth := (parts.map (·.2)).foldl max 0
  match parts.reverse with
  | [] => (.empty, 0)
  | last :: before =>
    (before.foldl (fun p q => .seq q.1 p) last.1, if pieces.length < 2 then depth else depth + 1)

/-- The alternatives so far and the last one, as one expression. -/
def alternatives (before : List (Pattern × Nat)) (last : Pattern × Nat) : Pattern × Nat :=
  match before with
  | [] => last
  | _ =>
    (before.foldl (fun p q => .alt q.1 p) last.1, (before.map (·.2)).foldl max last.2 + 1)

/-- A group whose parenthesis is open: the alternatives and the pieces in front of it, the flags to go
back to, and whether its text is kept. -/
structure OpenGroup where
  before : List (Pattern × Nat)
  pieces : List Piece
  flags : Flags
  kept : Bool

/-- Where the reading of an expression stands. -/
structure Reading where
  flags : Flags
  /-- The finished alternatives of the innermost open group, the latest first. -/
  before : List (Pattern × Nat) := []
  /-- The pieces of the alternative at hand, the latest first. -/
  pieces : List Piece := []
  groups : List OpenGroup := []
  names : List (List Char) := []

/-- Adds a part. -/
def Reading.add (r : Reading) (p : Pattern) (depth : Nat) : Reading :=
  { r with pieces := .part p depth :: r.pieces }

/-- The expression of an atom. -/
def Atom.pattern? (f : Flags) : Atom → Option Pattern
  | .set s => some (.oneOf s)
  | .look l => some (.look l)
  | .literal c => (f.char? c).map fun c =>
    .oneOf (if f.ignoreCase then foldCase f.unicode (.single c.toNat) else .single c.toNat)

/-- The flags of a group, up to the colon or the parenthesis behind them: the flags, how many letters
there were, and the rest from that sign on. No letter and no minus may stand twice, and a minus needs a
letter behind it. -/
def readFlags? (f : Flags) (seen : List Char) : List Char → Option (Flags × Nat × List Char)
  | [] => none
  | c :: rest =>
    if c = ':' ∨ c = ')' then
      if seen.head? = some '-' then none else some (f, seen.length, c :: rest)
    else if seen.contains c then none
    else if c = '-' then readFlags? f (c :: seen) rest
    else (f.set? c (!seen.contains '-')).bind fun f => readFlags? f (c :: seen) rest

/-- Whether a character may stand in the name of a group. -/
def isNameChar (first : Bool) (c : Char) : Bool :=
  c == '_' || isAlphabetic c
    || (!first && (c == '.' || c == '[' || c == ']' || isNumeric c))

/-- Opens a group behind its parenthesis, or sets flags for the rest of the one at hand. -/
def Reading.openGroup? (r : Reading) (t : List Char) : Option (Reading × List Char) :=
  let enter (flags : Flags) (kept : Bool) : Reading :=
    { r with
      flags, before := [], pieces := [],
      groups := ⟨r.before, r.pieces, r.flags, kept⟩ :: r.groups }
  let named (rest : List Char) : Option (Reading × List Char) := do
    let (name, rest) ← splitAtMark? ['>'] rest
    if name.isEmpty || r.names.contains name then failure
    if !(name.take 1).all (isNameChar true) || !(name.drop 1).all (isNameChar false) then failure
    return ({ enter r.flags true with names := name :: r.names }, rest)
  match r.flags.skip t with
  | '?' :: '=' :: _ | '?' :: '!' :: _ | '?' :: '<' :: '=' :: _ | '?' :: '<' :: '!' :: _ => none
  | '?' :: 'P' :: '<' :: rest | '?' :: '<' :: rest => named rest
  | '?' :: rest => do
    let (flags, letters, rest) ← readFlags? r.flags [] rest
    match rest with
    | ')' :: rest =>
      if letters = 0 then none else some ({ r with flags, pieces := .flags :: r.pieces }, rest)
    | _ :: rest => some (enter flags false, rest)
    | [] => none
  | t => some (enter r.flags true, t)

/-- Closes the innermost group. -/
def Reading.closeGroup? (r : Reading) : Option Reading :=
  match r.groups with
  | [] => none
  | g :: groups =>
    let (p, depth) := alternatives r.before (Piece.sequence r.pieces)
    let p := if g.kept then .group p else p
    some { r with
      flags := g.flags, before := g.before, pieces := .part p (depth + 1) :: g.pieces, groups }

/-- Repeats the last part. -/
def Reading.repeat? (r : Reading) (min : Nat) (max : Option Nat) : Option Reading :=
  match r.pieces with
  | .part p depth :: pieces =>
    some { r with pieces := .part (.repeated p min max) (depth + 1) :: pieces }
  | _ => none

/-- What stands behind the question mark that may follow a repetition. -/
def skipLazy : List Char → List Char
  | '?' :: rest => rest
  | t => t

/-- A count in braces, behind the opening one: a number, a least number, or both ends. -/
def readBounds? (f : Flags) (t : List Char) : Option (Nat × Option Nat × List Char) := do
  let (least, rest) ← readCount? f (f.skip t)
  let (most, rest) ← match rest with
    | ',' :: rest =>
      match f.skip rest with
      | [] => none
      | '\x7d' :: rest => some (none, '\x7d' :: rest)
      | rest => do
        let (most, rest) ← readCount? f rest
        let most ← most
        some (some most, rest)
    | rest => some (least, rest)
  let least ← least
  match rest with
  | '\x7d' :: rest => if most.all (least ≤ ·) then some (least, most, rest) else none
  | _ => none

/-- The characters that the dot stands for. -/
def Flags.dot? (f : Flags) : Option CodeSet :=
  if !f.unicode then none
  else if f.dotAll then some .all
  else if f.crlf then some (CodeSet.ofRanges [('\n', '\n'), ('\r', '\r')]).compl
  else some (CodeSet.single '\n'.toNat).compl

/-- Reads one construct: the reading behind it, and the rest of the text. -/
def Reading.step? (r : Reading) (c : Char) (rest : List Char) : Option (Reading × List Char) :=
  let f := r.flags
  match c with
  | '(' => r.openGroup? rest
  | ')' => r.closeGroup?.map (·, rest)
  | '|' => some ({ r with before := Piece.sequence r.pieces :: r.before, pieces := [] }, rest)
  | '[' => do
    let (k, u, rest) ← openClass? f {} rest
    let (s, depth, rest) ← readClass? f (rest.length + 1) [k] u rest
    return (r.add (.oneOf s) depth, rest)
  | '?' => (r.repeat? 0 (some 1)).map (·, skipLazy rest)
  | '*' => (r.repeat? 0 none).map (·, skipLazy rest)
  | '+' => (r.repeat? 1 none).map (·, skipLazy rest)
  | '\x7b' => do
    let (least, most, rest) ← readBounds? f rest
    return (← r.repeat? least most, skipLazy (f.skip rest))
  | '.' => f.dot?.map fun s => (r.add (.oneOf s) 0, rest)
  | '^' => some (r.add (.look (if f.multiLine then .lineStart f.crlf else .start)) 0, rest)
  | '$' => some (r.add (.look (if f.multiLine then .lineEnd f.crlf else .finish)) 0, rest)
  | '\\' => do
    let (a, rest) ← readEscape? f rest
    return (r.add (← a.pattern? f) 0, rest)
  | c => ((Atom.literal c).pattern? f).map fun p => (r.add p 0, rest)

/-- The deepest nesting that is read. -/
def nestLimit : Nat := 250

/-- Reads constructs to the end of the text; each of them takes at least one character. -/
def Reading.run? : Nat → Reading → List Char → Option Pattern
  | 0, _, _ => none
  | n + 1, r, t =>
    match r.flags.skip t with
    | [] =>
      if !r.groups.isEmpty then none
      else
        let (p, depth) := alternatives r.before (Piece.sequence r.pieces)
        if depth ≤ nestLimit ∧ p.size ≤ sizeLimit then some p else none
    | c :: rest => (r.step? c rest).bind fun (r, rest) => run? n r rest

/-- The expression that a text writes, if it writes one. -/
def parse? (ignoreCase : Bool) (t : String) : Option Pattern :=
  Reading.run? (t.length + 1) { flags := { ignoreCase } } t.toList

end Pattern

end FileIndex
