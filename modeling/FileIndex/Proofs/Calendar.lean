/-
The calendar, by its cycles. A day is told by the year that begins with March and the days in it, a year by its place
in the cycle of 400 years (`Cycle`); from that, dates and days are two names of one thing (`civilOf_dayOf`,
`dayOf_civilOf`), the calendar holds the days of its years (`inCalendar_iff`), and a shift by months keeps the day of
the month as far as the new month has it (`addMonths?_eq_some_iff`).
-/
import FileIndex.Calendar

namespace FileIndex.Calendar

variable {c q r s y era day v n : Int} {d e : CivilDate}

/-! ## Cycles of years -/

/-- A day by its century, its four years and its year in a cycle of 400 years: only a last year has a day more. -/
structure Cycle (c q r s : Int) : Prop where
  century : 0 ≤ c ∧ c ≤ 3
  four : 0 ≤ q ∧ q ≤ 24
  year : 0 ≤ r ∧ r ≤ 3
  day : 0 ≤ s ∧ s ≤ 365
  leap : s = 365 → r = 3 ∧ (q < 24 ∨ c = 3)

/-- The number of a day in a cycle. -/
def cycleDay (c q r s : Int) : Int := 36524 * c + 1461 * q + 365 * r + s

/-- The number of a year in a cycle. -/
def cycleYear (c q r : Int) : Int := 100 * c + 4 * q + r

theorem exists_cycle (h0 : 0 ≤ n) (h1 : n < 146097) : ∃ c q r s, Cycle c q r s ∧ n = cycleDay c q r s := by
  -- The last day of the cycle and of four years would begin a century or a year of their own.
  obtain ⟨c, hc⟩ : ∃ c, c = min (n / 36524) 3 := ⟨_, rfl⟩
  obtain ⟨q, hq⟩ : ∃ q, q = (n - 36524 * c) / 1461 := ⟨_, rfl⟩
  obtain ⟨r, hr⟩ : ∃ r, r = min ((n - 36524 * c - 1461 * q) / 365) 3 := ⟨_, rfl⟩
  have hn : 0 ≤ n - 36524 * c ∧ n - 36524 * c ≤ 36524 ∧ (c < 3 → n - 36524 * c < 36524) := by omega
  have hm : 0 ≤ n - 36524 * c - 1461 * q ∧ n - 36524 * c - 1461 * q ≤ 1460 := by omega
  refine ⟨c, q, r, n - 36524 * c - 1461 * q - 365 * r, ⟨?_, ?_, ?_, ?_, ?_⟩, by rw [cycleDay]; omega⟩
  all_goals omega

/-- The last day of a cycle alone counts for a century too many, and for itself. -/
theorem century_eq (hc : 0 ≤ c ∧ c ≤ 3) (h0 : 0 ≤ n) (h1 : n < 36524 ∨ n = 36524 ∧ c = 3) :
    (36524 * c + n) / 36524 - (36524 * c + n) / 146096 = c := by
  rcases h1 with h1 | ⟨rfl, rfl⟩
  · rw [show (36524 * c + n) / 36524 = c by omega, show (36524 * c + n) / 146096 = 0 by omega]
    omega
  · decide

namespace Cycle

variable (h : Cycle c q r s)
include h

theorem cycleDay_mem : 0 ≤ cycleDay c q r s ∧ cycleDay c q r s < 146097 := by
  obtain ⟨hc, hq, hr, hs, hl⟩ := h
  rw [cycleDay]
  omega

theorem cycleYear_mem : 0 ≤ cycleYear c q r ∧ cycleYear c q r < 400 := by
  obtain ⟨hc, hq, hr, hs, hl⟩ := h
  rw [cycleYear]
  omega

/-- The year of a day in a cycle: too many leap days are taken off, and those of the centuries given back. -/
theorem year_eq : (cycleDay c q r s - cycleDay c q r s / 1460 + cycleDay c q r s / 36524 -
    cycleDay c q r s / 146096) / 365 = cycleYear c q r := by
  obtain ⟨hc, hq, hr, hs, hl⟩ := h
  have hcentury := century_eq hc (n := 1461 * q + 365 * r + s) (by omega) (by omega)
  have hfour : cycleDay c q r s / 1460 = 25 * c + q + (24 * c + q + 365 * r + s) / 1460 := by
    rw [cycleDay]
    omega
  rw [show 36524 * c + (1461 * q + 365 * r + s) = cycleDay c q r s by rw [cycleDay]; omega] at hcentury
  rw [cycleYear]
  simp only [cycleDay] at *
  omega

theorem yearStart_eq : 365 * cycleYear c q r + cycleYear c q r / 4 - cycleYear c q r / 100 =
    36524 * c + 1461 * q + 365 * r := by
  obtain ⟨hc, hq, hr, hs, hl⟩ := h
  simp only [cycleYear]
  omega

end Cycle

/-! ## Dates and days -/

/-- A date that exists. -/
structure Exists (d : CivilDate) : Prop where
  month : 1 ≤ d.month ∧ d.month ≤ 12
  day : 1 ≤ d.day ∧ d.day ≤ monthLength d.year d.month

/-- The date of a day of the year that begins with March. -/
def marchDate (y s : Int) : CivilDate :=
  let m := (5 * s + 2) / 153
  let month := if m < 10 then m + 3 else m - 9
  { year := y + if month ≤ 2 then 1 else 0, month := month.toNat, day := (s - (153 * m + 2) / 5 + 1).toNat }

/-- The first day of the year that begins with March. -/
def marchDay (y : Int) : Int := 365 * y + y / 4 - y / 100 + y / 400 - 719468

theorem marchDay_cycle (h : Cycle c q r s) (era : Int) :
    marchDay (400 * era + cycleYear c q r) + s = era * 146097 + cycleDay c q r s - 719468 := by
  have hy := h.cycleYear_mem
  have hstart := h.yearStart_eq
  rw [marchDay, cycleDay]
  generalize cycleYear c q r = y at *
  omega

/-- Every day is one of a year that begins with March. -/
theorem exists_marchDay (day : Int) : ∃ era c q r s, Cycle c q r s ∧
    day = marchDay (400 * era + cycleYear c q r) + s := by
  obtain ⟨c, q, r, s, h, hs⟩ := exists_cycle (n := (day + 719468) % 146097) (by omega) (by omega)
  refine ⟨(day + 719468) / 146097, c, q, r, s, h, ?_⟩
  rw [marchDay_cycle h]
  omega

theorem civilOf_marchDay (h : Cycle c q r s) (era : Int) :
    civilOf (marchDay (400 * era + cycleYear c q r) + s) = marchDate (400 * era + cycleYear c q r) s := by
  have hday := h.cycleDay_mem
  have hyear := h.year_eq
  have hstart := h.yearStart_eq
  have hera : (marchDay (400 * era + cycleYear c q r) + s + 719468) / 146097 = era := by
    rw [marchDay_cycle h]
    omega
  have hrest : marchDay (400 * era + cycleYear c q r) + s + 719468 - era * 146097 = cycleDay c q r s := by
    rw [marchDay_cycle h]
    omega
  have hs : cycleDay c q r s - (365 * cycleYear c q r + cycleYear c q r / 4 - cycleYear c q r / 100) = s := by
    rw [hstart, cycleDay]
    omega
  simp only [civilOf, hera, hrest, hyear, hs, marchDate, CivilDate.mk.injEq, and_true]
  omega

theorem dayOf_marchDate (h0 : 0 ≤ s) (h1 : s ≤ 365) (y : Int) : dayOf (marchDate y s) = marchDay y + s := by
  obtain ⟨m, hm⟩ : ∃ m, m = (5 * s + 2) / 153 := ⟨_, rfl⟩
  have hmonth : 0 ≤ m ∧ m ≤ 11 ∧ 0 ≤ s - (153 * m + 2) / 5 := by omega
  simp only [marchDate, dayOf, ← hm, marchDay]
  by_cases hspring : m < 10
  · have hback : (((m + 3).toNat + 9 : Nat) : Int) % 12 = m := by omega
    rw [if_pos hspring, hback, if_neg (by omega), if_neg (by omega)]
    omega
  · have hback : (((m - 9).toNat + 9 : Nat) : Int) % 12 = m := by omega
    rw [if_neg hspring, hback, if_pos (by omega), if_pos (by omega)]
    omega

/-- A month has the days that the next one leaves it; February has what is left of the year. -/
theorem exists_marchDate (h : Cycle c q r s) (era : Int) : Exists (marchDate (400 * era + cycleYear c q r) s) := by
  obtain ⟨hc, hq, hr, hs, hl⟩ := h
  obtain ⟨m, hm⟩ : ∃ m : Nat, (5 * s + 2) / 153 = m := ⟨((5 * s + 2) / 153).toNat, by omega⟩
  have hm12 : m < 12 := by omega
  have hleap : s = 365 → isLeapYear (400 * era + cycleYear c q r + 1) = true := by
    intro h
    obtain ⟨hr, hlast⟩ := hl h
    simp only [isLeapYear, cycleYear, Bool.and_eq_true, Bool.or_eq_true, beq_iff_eq, bne_iff_ne]
    omega
  have : m = 0 ∨ m = 1 ∨ m = 2 ∨ m = 3 ∨ m = 4 ∨ m = 5 ∨ m = 6 ∨ m = 7 ∨ m = 8 ∨ m = 9 ∨ m = 10 ∨ m = 11 := by omega
  rcases this with rfl | rfl | rfl | rfl | rfl | rfl | rfl | rfl | rfl | rfl | rfl | rfl
  case inr.inr.inr.inr.inr.inr.inr.inr.inr.inr.inr =>
    refine ⟨by simp [marchDate, hm], by simp [marchDate, hm]; omega, ?_⟩
    have hlast : s = 365 ∨ s < 365 := by omega
    rcases hlast with hlast | hlast
    · simp [marchDate, monthLength, hleap hlast, hlast]
    · simp [marchDate, hm, monthLength]
      split <;> omega
  all_goals
    refine ⟨by simp [marchDate, hm], by simp [marchDate, hm]; omega, ?_⟩
    simp [marchDate, hm, monthLength]
    omega

/-- The days of the months in front, and those of the month, give the month back. -/
theorem marchDate_of_exists (h : Exists d) : ∃ y s, d = marchDate y s ∧ 0 ≤ s ∧ s ≤ 365 ∧
    (s = 365 → isLeapYear (y + 1) = true) := by
  obtain ⟨year, month, day⟩ := d
  obtain ⟨⟨hm1, hm12⟩, hd1, hd⟩ := h
  dsimp only at *
  by_cases hfeb : month = 2
  · subst hfeb
    simp only [monthLength] at hd
    refine ⟨year - 1, 336 + day, ?_, by omega, ?_, fun hs => ?_⟩
    · have : day ≤ 29 := by split at hd <;> omega
      have hm : (5 * (336 + (day : Int)) + 2) / 153 = 11 := by omega
      simp only [marchDate, hm, CivilDate.mk.injEq]
      exact ⟨by simp, by simp, by omega⟩
    · split at hd <;> omega
    · split at hd
      · simpa
      · omega
  · have hlen : day ≤ 31 ∧ (month = 4 ∨ month = 6 ∨ month = 9 ∨ month = 11 → day ≤ 30) := by
      unfold monthLength at hd
      split at hd
      case h_1 => exact absurd rfl hfeb
      case h_6 => exact ⟨hd, by rintro (h | h | h | h) <;> contradiction⟩
      all_goals exact ⟨by omega, fun _ => hd⟩
    have hmonths : month = 1 ∨ month = 3 ∨ month = 4 ∨ month = 5 ∨ month = 6 ∨ month = 7 ∨ month = 8 ∨ month = 9 ∨
        month = 10 ∨ month = 11 ∨ month = 12 := by omega
    obtain ⟨m, hm⟩ : ∃ m : Int, m = ((month + 9 : Nat) : Int) % 12 := ⟨_, rfl⟩
    refine ⟨if month ≤ 2 then year - 1 else year, (153 * m + 2) / 5 + day - 1, ?_, ?_⟩
    · have hback : (5 * ((153 * m + 2) / 5 + (day : Int) - 1) + 2) / 153 = m := by
        rcases hmonths with rfl | rfl | rfl | rfl | rfl | rfl | rfl | rfl | rfl | rfl | rfl <;> omega
      simp only [marchDate, hback, CivilDate.mk.injEq]
      refine ⟨?_, ?_, by omega⟩
      · split <;> split <;> omega
      · split <;> omega
    · rcases hmonths with rfl | rfl | rfl | rfl | rfl | rfl | rfl | rfl | rfl | rfl | rfl <;> omega

theorem exists_marchDate_of_exists (h : Exists d) : ∃ era c q r s, Cycle c q r s ∧
    d = marchDate (400 * era + cycleYear c q r) s := by
  obtain ⟨y, s, rfl, h0, h1, hleap⟩ := marchDate_of_exists h
  refine ⟨y / 400, y % 400 / 100, y % 100 / 4, y % 4, s, ⟨by omega, by omega, by omega, ⟨h0, h1⟩, fun hs => ?_⟩, ?_⟩
  · have := hleap hs
    simp only [isLeapYear, Bool.and_eq_true, Bool.or_eq_true, beq_iff_eq, bne_iff_ne] at this
    omega
  · rw [cycleYear]
    congr 1
    omega

theorem dayOf_civilOf (day : Int) : dayOf (civilOf day) = day := by
  obtain ⟨era, c, q, r, s, h, rfl⟩ := exists_marchDay day
  rw [civilOf_marchDay h, dayOf_marchDate h.day.1 h.day.2]

theorem exists_civilOf (day : Int) : Exists (civilOf day) := by
  obtain ⟨era, c, q, r, s, h, rfl⟩ := exists_marchDay day
  rw [civilOf_marchDay h]
  exact exists_marchDate h era

theorem civilOf_dayOf (h : Exists d) : civilOf (dayOf d) = d := by
  obtain ⟨era, c, q, r, s, hs, rfl⟩ := exists_marchDate_of_exists h
  rw [dayOf_marchDate hs.day.1 hs.day.2, civilOf_marchDay hs]

/-! ## The days that the calendar holds -/

/-- Whether a day lies in a year of the calendar. -/
def InCalendar (day : Int) : Prop := firstYear ≤ (civilOf day).year ∧ (civilOf day).year ≤ lastYear

instance (day : Int) : Decidable (InCalendar day) :=
  inferInstanceAs (Decidable (firstYear ≤ (civilOf day).year ∧ (civilOf day).year ≤ lastYear))

theorem inCalendar_iff : InCalendar day ↔ firstDay ≤ day ∧ day ≤ lastDay := by
  obtain ⟨era, c, q, r, s, h, rfl⟩ := exists_marchDay day
  have hfirst : firstDay = marchDay (-262144) + 306 := by decide
  have hlast : lastDay = marchDay 262142 + 305 := by decide
  have hs := h.day
  rw [InCalendar, civilOf_marchDay h, hfirst, hlast]
  generalize 400 * era + cycleYear c q r = y
  have hyear : (marchDate y s).year = if s < 306 then y else y + 1 := by
    simp only [marchDate]
    split <;> split <;> omega
  simp only [hyear, firstYear, lastYear, marchDay]
  -- The calendar begins and ends within a year that begins with March.
  have : y = -262144 ∨ y = 262142 ∨ y < -262144 ∨ 262142 < y ∨ -262144 < y ∧ y < 262142 := by omega
  rcases this with rfl | rfl | h | h | h <;> split <;> omega

theorem addDays?_eq_some_iff : addDays? day n = some v ↔ v = day + n ∧ InCalendar v := by
  unfold addDays?
  split
  · rename_i h
    rw [Option.some.injEq]
    constructor
    · rintro rfl
      exact ⟨rfl, inCalendar_iff.2 h⟩
    · exact fun h => h.1.symm
  · rename_i h
    refine ⟨nofun, ?_⟩
    rintro ⟨rfl, hin⟩
    exact absurd (inCalendar_iff.1 hin) h

/-! ## Shifts by months -/

/-- A date moved by a number of months: its day of the month stays, or becomes the last one of a shorter month. -/
structure ShiftedBy (n : Int) (d e : CivilDate) : Prop where
  month : 1 ≤ e.month ∧ e.month ≤ 12
  months : 12 * e.year + e.month = 12 * d.year + d.month + n
  day : e.day = min d.day (monthLength e.year e.month)

theorem shiftMonths_shiftedBy (d : CivilDate) (n : Int) : ShiftedBy n d (shiftMonths d n) := by
  refine ⟨?_, ?_, rfl⟩
  all_goals
    simp only [shiftMonths]
    omega

/-- A date is moved to one date only. -/
theorem ShiftedBy.eq_shiftMonths (h : ShiftedBy n d e) : e = shiftMonths d n := by
  have hs := shiftMonths_shiftedBy d n
  generalize shiftMonths d n = f at hs
  have hmonth : e.month = f.month ∧ e.year = f.year := by
    have := h.month
    have := h.months
    have := hs.month
    have := hs.months
    omega
  obtain ⟨hm, hy⟩ := hmonth
  have hd : e.day = f.day := by rw [h.day, hs.day, hm, hy]
  cases e
  cases f
  simp only at hm hy hd
  rw [hm, hy, hd]

theorem monthLength_pos (year : Int) (month : Nat) : 1 ≤ monthLength year month := by
  unfold monthLength
  split
  · split <;> omega
  all_goals omega

/-- A date that exists is moved to one that exists. -/
theorem ShiftedBy.exists (h : ShiftedBy n d e) (hd : Exists d) : Exists e := by
  have hlen := monthLength_pos e.year e.month
  refine ⟨h.month, ?_⟩
  have := hd.day
  have := h.day
  omega

/-- Every day is moved to exactly one day. -/
theorem shiftedBy_iff : ShiftedBy n (civilOf day) (civilOf v) ↔ v = dayOf (shiftMonths (civilOf day) n) := by
  constructor
  · intro h
    rw [← h.eq_shiftMonths, dayOf_civilOf]
  · rintro rfl
    have hs := shiftMonths_shiftedBy (civilOf day) n
    rwa [civilOf_dayOf (hs.exists (exists_civilOf day))]

theorem addMonths?_eq_some_iff :
    addMonths? day n = some v ↔ ShiftedBy n (civilOf day) (civilOf v) ∧ InCalendar v := by
  have he := (shiftMonths_shiftedBy (civilOf day) n).exists (exists_civilOf day)
  have hin : InCalendar (dayOf (shiftMonths (civilOf day) n)) ↔
      firstYear ≤ (shiftMonths (civilOf day) n).year ∧ (shiftMonths (civilOf day) n).year ≤ lastYear := by
    rw [InCalendar, civilOf_dayOf he]
  rw [shiftedBy_iff, addMonths?, day?]
  split
  · rename_i h
    rw [Option.some.injEq]
    constructor
    · rintro rfl
      exact ⟨rfl, hin.2 ⟨h.1, h.2.1⟩⟩
    · exact fun h => h.1.symm
  · rename_i h
    refine ⟨nofun, ?_⟩
    rintro ⟨rfl, hv⟩
    exact absurd ⟨(hin.1 hv).1, (hin.1 hv).2, he.month.1, he.month.2, he.day.1, he.day.2⟩ h

end FileIndex.Calendar
