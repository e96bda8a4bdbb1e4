/-
Values: what a comparison reads its word as. Sizes may carry a binary unit, dates may be written in a
few absolute forms or as a distance from today, and two values of one kind have an order.
-/
import FileIndex.Calendar
import FileIndex.Fault
import FileIndex.Query.Error
import FileIndex.Query.Key
import FileIndex.Text.Blank

namespace FileIndex

open Text

/-- A value of a property, or one to compare it with. -/
inductive Value where
  | text (t : String)
  | boolean (b : Bool)
  | integer (n : Int)
  /-- A point in time; a day-only one stands for the whole day that it lies in. -/
  | moment (m : Moment) (dayOnly : Bool)
deriving DecidableEq, Repr

namespace Value

/-- The kind of a value. -/
def kind : Value → Kind
  | .text _ => .text
  | .boolean _ => .boolean
  | .integer _ => .integer
  | .moment _ _ => .moment

/-- The order of a value and a reference of the same kind. A day-only reference is compared by the day
alone. -/
def compare : Value → Value → Except Fault Ordering
  | .text a, .text b => .ok (Ord.compare a b)
  | .boolean a, .boolean b => .ok (Ord.compare a b)
  | .integer a, .integer b => .ok (Ord.compare a b)
  | .moment a _, .moment b dayOnly =>
    .ok (if dayOnly then Ord.compare a.day b.day else a.compare b)
  | a, b => .error (.incomparable a.kind b.kind)

/-- The text of a value. -/
def display : Value → String
  | .text t => t
  | .boolean b => if b then "true" else "false"
  | .integer n => if n < 0 then "-" ++ Nat.repr n.natAbs else Nat.repr n.natAbs
  | .moment m _ => m.text

/-! ## Integers -/

/-- The number that decimal digits write. -/
def digitsValue (digits : List Char) : Nat :=
  digits.foldl (fun n c => n * 10 + (c.toNat - '0'.toNat)) 0

/-- An optional sign, and what stands behind it. -/
def takeSign : List Char → Bool × List Char
  | '-' :: rest => (true, rest)
  | '+' :: rest => (false, rest)
  | rest => (false, rest)

/-- An optionally signed run of decimal digits at the start of a text, and what stands behind it. -/
def takeInteger? (t : List Char) : Option (Int × List Char) :=
  let (negative, rest) := takeSign t
  let digits := rest.takeWhile Char.isDigit
  if digits.isEmpty then none
  else
    let n : Int := digitsValue digits
    some (if negative then -n else n, rest.dropWhile Char.isDigit)

/-- The number of bytes in the unit that a suffix names. -/
def unitSize? (suffix : String) : Option Nat :=
  match suffix with
  | "" | "B" => some 1
  | "K" | "KB" => some 1024
  | "M" | "MB" => some (1024 * 1024)
  | "G" | "GB" => some (1024 * 1024 * 1024)
  | "T" | "TB" => some (1024 * 1024 * 1024 * 1024)
  | _ => none

/-- A number that fits into 64 bits with a sign. -/
def inRange (n : Int) : Bool := -9223372036854775808 ≤ n && n < 9223372036854775808

/-- An integer with an optional unit, in any ASCII case, between optional white space. -/
def parseInteger (t : String) : Except QueryError Int :=
  let result : Option Int := do
    let (n, rest) ← takeInteger? ((trimBlanks t.toList).map Char.toUpper)
    let size ← unitSize? (String.ofList (trimBlanks rest))
    if inRange (n * size) then some (n * size) else none
  match result with
  | some n => .ok n
  | none => .error (.badInteger t)

/-! ## Truth values -/

/-- One of `true`, `yes`, `1` or `false`, `no`, `0`, in any ASCII case. -/
def parseBoolean (t : String) : Except QueryError Bool :=
  match String.ofList ((trimBlanks t.toList).map Char.toLower) with
  | "true" | "yes" | "1" => .ok true
  | "false" | "no" | "0" => .ok false
  | _ => .error (.badBoolean t)

/-! ## Dates by distance -/

/-- The units of a distance. -/
inductive DateUnit where
  | day
  | month
  | year
deriving DecidableEq, Repr

/-- A distance from today. -/
structure DateOffset where
  amount : Int
  unit : DateUnit
deriving DecidableEq, Repr

/-- The unit that a word names. -/
def dateUnit? (word : String) : Option DateUnit :=
  match word with
  | "day" | "days" => some .day
  | "month" | "months" => some .month
  | "year" | "years" => some .year
  | _ => none

/-- A number with an optional sign, directly followed by a unit in any ASCII case. -/
def dateOffset? (t : List Char) : Option DateOffset := do
  let (amount, rest) ← takeInteger? t
  let unit ← dateUnit? (String.ofList (rest.map Char.toLower))
  return { amount, unit }

/-- The largest number of days or months that a distance may have. -/
def largestOffset : Nat := 4294967295

/-- A moment moved by a distance: the time of day stays. A year is twelve months. -/
def DateOffset.shift? (o : DateOffset) (now : Moment) : Option Moment := do
  let amount := match o.unit with
    | .year => o.amount * 12
    | _ => o.amount
  if largestOffset < amount.natAbs then failure
  let day ← match o.unit with
    | .day => Calendar.addDays? now.day amount
    | _ => Calendar.addMonths? now.day amount
  return { now with day }

/-! ## Dates in full -/

/-- The fields of a written date. -/
structure DateFields where
  year : Int := 0
  month : Nat := 0
  day : Nat := 0
  hour : Nat := 0
  minute : Nat := 0
  second : Nat := 0
deriving DecidableEq, Repr

/-- The pieces of a date form. -/
inductive DatePiece where
  | year
  | month
  | day
  | hour
  | minute
  | second
  /-- This very character. -/
  | mark (c : Char)
  /-- Any white space, or none. -/
  | gap
deriving DecidableEq, Repr

/-- Up to `width` decimal digits at the start of a text, but at least one. -/
def takeDigits? (width : Nat) (t : List Char) : Option (Nat × List Char) :=
  let digits := (t.take width).takeWhile Char.isDigit
  if digits.isEmpty then none else some (digitsValue digits, t.drop digits.length)

/-- A year: up to four digits, or a sign and any number of them. -/
def takeYear? (t : List Char) : Option (Int × List Char) :=
  match t with
  | '-' :: rest => (takeDigits? rest.length rest).map fun (n, r) => (-n, r)
  | '+' :: rest => (takeDigits? rest.length rest).map fun (n, r) => (n, r)
  | _ => (takeDigits? 4 t).map fun (n, r) => (n, r)

/-- Reads one piece. A number may have white space in front of it. -/
def DatePiece.read? (p : DatePiece) (f : DateFields) (t : List Char) :
    Option (DateFields × List Char) :=
  let number (low high : Nat) (set : Nat → DateFields) : Option (DateFields × List Char) := do
    let (n, rest) ← takeDigits? 2 (t.dropWhile isBlank)
    if low ≤ n ∧ n ≤ high then some (set n, rest) else none
  match p with
  | .year => (takeYear? (t.dropWhile isBlank)).map fun (n, r) => ({ f with year := n }, r)
  | .month => number 1 12 fun n => { f with month := n }
  | .day => number 1 31 fun n => { f with day := n }
  | .hour => number 0 23 fun n => { f with hour := n }
  | .minute => number 0 59 fun n => { f with minute := n }
  | .second => number 0 60 fun n => { f with second := n }
  | .mark c =>
    match t with
    | d :: rest => if d = c then some (f, rest) else none
    | [] => none
  | .gap => some (f, t.dropWhile isBlank)

/-- Reads the pieces of a form, which have to use up the whole text. -/
def readForm? : List DatePiece → DateFields → List Char → Option DateFields
  | [], f, [] => some f
  | [], _, _ :: _ => none
  | p :: form, f, t => (p.read? f t).bind fun (f, rest) => readForm? form f rest

/-- The moment that the fields name, if the date exists. Second 60 is a leap second. -/
def DateFields.moment? (f : DateFields) : Option Moment := do
  let day ← Calendar.day? ⟨f.year, f.month, f.day⟩
  return { day, second := f.hour * 3600 + f.minute * 60 + min f.second 59, leap := f.second = 60 }

/-- A date with a mark between its parts. -/
def dateForm (c : Char) : List DatePiece := [.year, .mark c, .month, .mark c, .day]

/-- Hour and minute. -/
def minuteForm : List DatePiece := [.hour, .mark ':', .minute]

/-- Hour, minute and second. -/
def secondForm : List DatePiece := minuteForm ++ [.mark ':', .second]

/-- The forms of a date with a time of day. -/
def momentForms : List (List DatePiece) :=
  [dateForm '-' ++ [.gap] ++ secondForm, dateForm '-' ++ [.mark 'T'] ++ secondForm,
    dateForm '-' ++ [.gap] ++ minuteForm, dateForm '-' ++ [.mark 'T'] ++ minuteForm,
    dateForm '/' ++ [.gap] ++ secondForm, dateForm '/' ++ [.gap] ++ minuteForm]

/-- The forms of a date alone. -/
def dayForms : List (List DatePiece) :=
  [dateForm '-', dateForm '/', [.year, .month, .day]]

/-- The moment that a text names in the first of the forms that reads it. -/
def readForms? (forms : List (List DatePiece)) (t : List Char) : Option Moment :=
  forms.findSome? fun form => (readForm? form {} t).bind DateFields.moment?

/-- A distance from `now`, or a date in full. A text that reads as a distance is nothing else. -/
def parseMoment (now : Moment) (t : String) : Except QueryError Value :=
  let trimmed := trimBlanks t.toList
  let result : Option Value :=
    match dateOffset? trimmed with
    | some offset => (offset.shift? now).map (.moment · true)
    | none =>
      match readForms? momentForms trimmed with
      | some m => some (.moment m false)
      | none => (readForms? dayForms trimmed).map (.moment · true)
  match result with
  | some v => .ok v
  | none => .error (.badDate t)

/-! ## Reading a value -/

/-- Reads a text as a value of the given kind. -/
def parse (now : Moment) (k : Kind) (t : String) : Except QueryError Value :=
  match k with
  | .text => .ok (.text t)
  | .boolean => (parseBoolean t).map .boolean
  | .integer => (parseInteger t).map .integer
  | .moment => parseMoment now t

end Value

end FileIndex
