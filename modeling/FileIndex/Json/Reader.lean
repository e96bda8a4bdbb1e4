/-
Reading JSON: one value between blanks. Every reader takes a text and gives what it read and the text
behind it. Values nest as deep as the text allows.
-/
import FileIndex.Json.Basic

namespace FileIndex.Json

/-- What may stand between the parts of a text. -/
def isBlank (c : Char) : Bool := c = ' ' ∨ c = '\t' ∨ c = '\n' ∨ c = '\r'

/-- A text from its first character that is no blank. -/
def skipBlanks (t : List Char) : List Char := t.dropWhile isBlank

/-! ## Strings and numbers -/

/-- A string from behind its opening quote, as it is written. -/
def readString? : List Char → Option (List Char × List Char)
  | [] => none
  | '"' :: rest => some ([], rest)
  | '\\' :: 'u' :: a :: b :: c :: d :: rest =>
    match unit? a b c d, readString? rest with
    | some _, some (t, rest) => some ('\\' :: 'u' :: a :: b :: c :: d :: t, rest)
    | _, _ => none
  | '\\' :: c :: rest =>
    match escape? c, readString? rest with
    | some _, some (t, rest) => some ('\\' :: c :: t, rest)
    | _, _ => none
  | c :: rest =>
    if c.toNat < 0x20 ∨ c = '\\' then none
    else (readString? rest).map fun (t, rest) => (c :: t, rest)

/-- One digit at least. -/
def readDigits? (t : List Char) : Option (List Char × List Char) :=
  match t.takeWhile Char.isDigit with
  | [] => none
  | digits => some (digits, t.dropWhile Char.isDigit)

/-- The whole part of a number: a zero, or digits that do not start with one. -/
def readWhole? (t : List Char) : Option (List Char × List Char) :=
  match t with
  | '0' :: rest => if rest.head?.any Char.isDigit then none else some (['0'], rest)
  | _ => readDigits? t

/-- The part of a number behind a point, if there is a point. -/
def readFraction? (t : List Char) : Option (List Char × List Char) :=
  match t with
  | '.' :: rest => (readDigits? rest).map fun (digits, rest) => ('.' :: digits, rest)
  | _ => some ([], t)

/-- The exponent of a number, if it has one. -/
def readExponent? (t : List Char) : Option (List Char × List Char) :=
  match t with
  | e :: rest =>
    if e = 'e' ∨ e = 'E' then
      match rest with
      | sign :: behind =>
        if sign = '+' ∨ sign = '-' then
          (readDigits? behind).map fun (digits, rest) => (e :: sign :: digits, rest)
        else (readDigits? rest).map fun (digits, rest) => (e :: digits, rest)
      | [] => none
    else some ([], t)
  | [] => some ([], [])

/-- A number. -/
def readNumber? (t : List Char) : Option (List Char × List Char) := do
  let (sign, t) := match t with
    | '-' :: rest => (['-'], rest)
    | _ => ([], t)
  let (whole, t) ← readWhole? t
  let (fraction, t) ← readFraction? t
  let (exponent, t) ← readExponent? t
  return (sign ++ whole ++ fraction ++ exponent, t)

/-! ## Values -/

mutual

/-- A value. The fuel bounds the steps into its parts. -/
def readValue? (fuel : Nat) (t : List Char) : Option (Json × List Char) :=
  match fuel with
  | 0 => none
  | fuel + 1 =>
    match skipBlanks t with
    | 'n' :: 'u' :: 'l' :: 'l' :: rest => some (.null, rest)
    | 't' :: 'r' :: 'u' :: 'e' :: rest => some (.boolean true, rest)
    | 'f' :: 'a' :: 'l' :: 's' :: 'e' :: rest => some (.boolean false, rest)
    | '"' :: rest => (readString? rest).map fun (t, rest) => (.string t, rest)
    | '[' :: rest =>
      match skipBlanks rest with
      | ']' :: rest => some (.array [], rest)
      | _ => (readItems? fuel rest).map fun (items, rest) => (.array items, rest)
    | '\x7b' :: rest =>
      match skipBlanks rest with
      | '\x7d' :: rest => some (.object [], rest)
      | _ => (readMembers? fuel rest).map fun (members, rest) => (.object members, rest)
    | rest => (readNumber? rest).map fun (digits, rest) => (.number digits, rest)

/-- The items of an array and the bracket behind them; there is one at least. -/
def readItems? (fuel : Nat) (t : List Char) : Option (List Json × List Char) :=
  match fuel with
  | 0 => none
  | fuel + 1 =>
    match readValue? fuel t with
    | none => none
    | some (item, rest) =>
      match skipBlanks rest with
      | ']' :: rest => some ([item], rest)
      | ',' :: rest => (readItems? fuel rest).map fun (items, rest) => (item :: items, rest)
      | _ => none

/-- The members of an object and the brace behind them; there is one at least. -/
def readMembers? (fuel : Nat) (t : List Char) : Option (List (List Char × Json) × List Char) :=
  match fuel with
  | 0 => none
  | fuel + 1 =>
    match skipBlanks t with
    | '"' :: rest =>
      match readString? rest with
      | none => none
      | some (name, rest) =>
        match skipBlanks rest with
        | ':' :: rest =>
          match readValue? fuel rest with
          | none => none
          | some (v, rest) =>
            match skipBlanks rest with
            | '\x7d' :: rest => some ([(name, v)], rest)
            | ',' :: rest =>
              (readMembers? fuel rest).map fun (members, rest) => ((name, v) :: members, rest)
            | _ => none
        | _ => none
    | _ => none

end

/-- The value that is all of a text, blanks around it apart. Each step into a part passes a character or
follows one that did. -/
def read? (text : String) : Option Json :=
  match readValue? (2 * text.length + 1) text.toList with
  | some (v, rest) => if skipBlanks rest = [] then some v else none
  | none => none

end FileIndex.Json
