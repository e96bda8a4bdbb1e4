/-
JSON values and their strings. Numbers and strings stay as they are written until someone asks for what
they mean, so that a value nobody asks for needs only the right form.
-/

namespace FileIndex

/-- A JSON value. -/
inductive Json where
  | null
  | boolean (b : Bool)
  /-- A number as it is written. -/
  | number (digits : List Char)
  /-- A string as it is written between its quotes. -/
  | string (written : List Char)
  | array (items : List Json)
  /-- Members in order, their names as they are written. -/
  | object (members : List (List Char × Json))
deriving Repr

namespace Json

/-! ## Strings -/

/-- The value of a hexadecimal digit. -/
def hexDigit? (c : Char) : Option Nat :=
  if c.isDigit then some (c.toNat - '0'.toNat)
  else if 'a' ≤ c ∧ c ≤ 'f' then some (c.toNat - 'a'.toNat + 10)
  else if 'A' ≤ c ∧ c ≤ 'F' then some (c.toNat - 'A'.toNat + 10)
  else none

/-- The number of four hexadecimal digits. -/
def unit? (a b c d : Char) : Option Nat := do
  return (((← hexDigit? a) * 16 + (← hexDigit? b)) * 16 + (← hexDigit? c)) * 16 + (← hexDigit? d)

/-- The first half of a pair of units that names one character. -/
def isLeading (u : Nat) : Bool := 0xD800 ≤ u && u ≤ 0xDBFF

/-- The second half of such a pair. -/
def isTrailing (u : Nat) : Bool := 0xDC00 ≤ u && u ≤ 0xDFFF

/-- The character that one letter behind a backslash stands for. -/
def escape? (c : Char) : Option Char :=
  match c with
  | '"' => some '"'
  | '\\' => some '\\'
  | '/' => some '/'
  | 'b' => some '\x08'
  | 'f' => some '\x0c'
  | 'n' => some '\n'
  | 'r' => some '\r'
  | 't' => some '\t'
  | _ => none

/-- What a written string means. Half a pair of units means nothing. -/
def decode : List Char → Option (List Char)
  | [] => some []
  | '\\' :: 'u' :: a :: b :: c :: d :: rest =>
    match unit? a b c d with
    | none => none
    | some u =>
      if isLeading u then
        match rest with
        | '\\' :: 'u' :: e :: f :: g :: h :: rest =>
          match unit? e f g h with
          | none => none
          | some v =>
            if isTrailing v then
              (decode rest).map (Char.ofNat (0x10000 + (u - 0xD800) * 0x400 + (v - 0xDC00)) :: ·)
            else none
        | _ => none
      else if isTrailing u then none
      else (decode rest).map (Char.ofNat u :: ·)
  | '\\' :: c :: rest =>
    match escape? c with
    | some meant => (decode rest).map (meant :: ·)
    | none => none
  | c :: rest => (decode rest).map (c :: ·)

/-- A hexadecimal digit in lower case. -/
def hexDigit (n : Nat) : Char := Nat.digitChar (n % 16)

/-- The written form of one character. -/
def encodeOne (c : Char) : List Char :=
  match c with
  | '"' => ['\\', '"']
  | '\\' => ['\\', '\\']
  | '\x08' => ['\\', 'b']
  | '\x0c' => ['\\', 'f']
  | '\n' => ['\\', 'n']
  | '\r' => ['\\', 'r']
  | '\t' => ['\\', 't']
  | _ =>
    if c.toNat < 0x20 then ['\\', 'u', '0', '0', hexDigit (c.toNat / 16), hexDigit c.toNat] else [c]

/-- The written form of a string. -/
def encode (t : List Char) : List Char := t.flatMap encodeOne

/-! ## What values mean -/

/-- The text of a string. -/
def text? : Json → Option String
  | .string written => (decode written).map String.ofList
  | _ => none

/-- The character that is all of a string. -/
def char? (v : Json) : Option Char :=
  match v.text?.map String.toList with
  | some [c] => some c
  | _ => none

/-- A truth value. -/
def boolean? : Json → Option Bool
  | .boolean b => some b
  | _ => none

/-- The largest whole number that a count may be. -/
def largest : Nat := 18446744073709551615

/-- A whole number in digits alone. -/
def count? : Json → Option Nat
  | .number digits =>
    if digits.all Char.isDigit then
      let n := digits.foldl (fun n c => n * 10 + (c.toNat - '0'.toNat)) 0
      if n ≤ largest then some n else none
    else none
  | _ => none

/-- The value of a text. -/
def ofText (t : String) : Json := .string (encode t.toList)

/-- The value of a count. -/
def ofCount (n : Nat) : Json := .number (Nat.toDigits 10 n)

/-- The values of a record's fields, in the order of their names: of an object its members of these
names, none of them twice and whatever else it has left out; of an array its items in order, no more of
them than fields. -/
def fields? (names : List String) : Json → Option (List (Option Json))
  | .array items =>
    if items.length ≤ names.length then
      some (items.map some ++ List.replicate (names.length - items.length) none)
    else none
  | .object members =>
    match members.mapM fun (k, v) => (decode k).map fun k => (String.ofList k, v) with
    | none => none
    | some named => names.mapM fun name =>
      match named.filter (·.1 == name) with
      | [] => some none
      | [(_, v)] => some (some v)
      | _ => none
  | _ => none

end Json

end FileIndex
