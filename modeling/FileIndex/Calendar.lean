/-
The calendar: dates of the proleptic Gregorian calendar as days from 1970-01-01, and moments as a day
and a second of it. Moving by days or by months is exact and fails where it leaves the years that the
calendar holds. Moments are written as `2018-01-01 12:30:00`.
-/

namespace FileIndex

/-- A date by year, month (from 1) and day of the month (from 1). -/
structure CivilDate where
  year : Int
  month : Nat
  day : Nat
deriving DecidableEq, Repr

namespace Calendar

/-- The first year of the calendar. -/
def firstYear : Int := -262143

/-- The last year of the calendar. -/
def lastYear : Int := 262142

/-- A year with a 29th of February. -/
def isLeapYear (year : Int) : Bool :=
  year % 4 == 0 && (year % 100 != 0 || year % 400 == 0)

/-- The length of a month. -/
def monthLength (year : Int) (month : Nat) : Nat :=
  match month with
  | 2 => if isLeapYear year then 29 else 28
  | 4 | 6 | 9 | 11 => 30
  | _ => 31

/-- The number of days from 1970-01-01 to a date. Years are counted from March, so that the leap day is
the last day of its year. -/
def dayOf (d : CivilDate) : Int :=
  let y := if d.month ≤ 2 then d.year - 1 else d.year
  let era := y / 400
  let yearOfEra := y - era * 400
  let monthFromMarch : Int := (d.month + 9 : Nat) % 12
  let dayOfYear := (153 * monthFromMarch + 2) / 5 + d.day - 1
  let dayOfEra := yearOfEra * 365 + yearOfEra / 4 - yearOfEra / 100 + dayOfYear
  era * 146097 + dayOfEra - 719468

/-- The date a number of days from 1970-01-01. -/
def civilOf (day : Int) : CivilDate :=
  let z := day + 719468
  let era := z / 146097
  let dayOfEra := z - era * 146097
  let yearOfEra := (dayOfEra - dayOfEra / 1460 + dayOfEra / 36524 - dayOfEra / 146096) / 365
  let dayOfYear := dayOfEra - (365 * yearOfEra + yearOfEra / 4 - yearOfEra / 100)
  let monthFromMarch := (5 * dayOfYear + 2) / 153
  let dayOfMonth := dayOfYear - (153 * monthFromMarch + 2) / 5 + 1
  let month := if monthFromMarch < 10 then monthFromMarch + 3 else monthFromMarch - 9
  let year := yearOfEra + era * 400 + if month ≤ 2 then 1 else 0
  { year, month := month.toNat, day := dayOfMonth.toNat }

/-- The first day of the calendar. -/
def firstDay : Int := dayOf ⟨firstYear, 1, 1⟩

/-- The last day of the calendar. -/
def lastDay : Int := dayOf ⟨lastYear, 12, 31⟩

/-- The day of a date that exists in the calendar. -/
def day? (d : CivilDate) : Option Int :=
  if firstYear ≤ d.year ∧ d.year ≤ lastYear ∧ 1 ≤ d.month ∧ d.month ≤ 12
      ∧ 1 ≤ d.day ∧ d.day ≤ monthLength d.year d.month then
    some (dayOf d)
  else none

/-- A day moved by a number of days, if it stays in the calendar. -/
def addDays? (day n : Int) : Option Int :=
  if firstDay ≤ day + n ∧ day + n ≤ lastDay then some (day + n) else none

/-- The date moved by a number of months. The day of the month stays, or becomes the last day of a
shorter month. -/
def shiftMonths (d : CivilDate) (n : Int) : CivilDate :=
  let months := d.year * 12 + (d.month - 1 : Int) + n
  let year := months / 12
  let month := (months % 12).toNat + 1
  { year, month, day := min d.day (monthLength year month) }

/-- A day moved by a number of months, if it stays in the calendar. -/
def addMonths? (day n : Int) : Option Int := day? (shiftMonths (civilOf day) n)

end Calendar

/-- A point in time to the second. A leap second follows the last second of a minute and carries its
number. -/
structure Moment where
  /-- Days from 1970-01-01. -/
  day : Int
  /-- The second of the day. -/
  second : Nat
  leap : Bool := false
deriving DecidableEq, Repr

namespace Moment

/-- The moment a number of seconds from the start of 1970. -/
def ofSeconds (n : Int) : Moment := { day := n / 86400, second := (n % 86400).toNat }

/-- Seconds from the start of 1970; a leap second counts as the second in front of it. -/
def toSeconds (m : Moment) : Int := m.day * 86400 + m.second

/-- The order in time. -/
def compare (a b : Moment) : Ordering :=
  (Ord.compare a.day b.day).then ((Ord.compare a.second b.second).then (Ord.compare a.leap b.leap))

/-! ## Writing -/

/-- A number in at least `width` digits. -/
def padded (width n : Nat) : String :=
  let digits := Nat.toDigits 10 n
  String.ofList (List.replicate (width - digits.length) '0' ++ digits)

/-- A year in four digits; one that needs more, or lies before the year 0, with its sign. -/
def yearText (year : Int) : String :=
  if 0 ≤ year ∧ year ≤ 9999 then padded 4 year.toNat
  else (if year < 0 then "-" else "+") ++ padded 4 year.natAbs

/-- A moment as year, month and day and, behind a space, hour, minute and second. -/
def text (m : Moment) : String :=
  let d := Calendar.civilOf m.day
  let second := m.second % 60 + if m.leap then 1 else 0
  yearText d.year ++ "-" ++ padded 2 d.month ++ "-" ++ padded 2 d.day ++ " "
    ++ padded 2 (m.second / 3600) ++ ":" ++ padded 2 (m.second / 60 % 60) ++ ":" ++ padded 2 second

end Moment

end FileIndex
