/-
Dates by distance. A distance from today is written as an integer and, directly behind it, a word for days, months or
years in any ASCII case (`WritesOffset`). Such a text stands for the day that the distance leads to, at the time of
day that it is now, as long as the distance is no larger than 32 bits hold and the calendar has that day; no other
text is taken for a distance (`parseMoment_distance`).
-/
import FileIndex.Proofs.Calendar
import FileIndex.Proofs.Query.Size

namespace FileIndex.Value

open Text Calendar

variable {t word : List Char} {s : String} {c : Char} {o : DateOffset} {unit : DateUnit} {now m : Moment} {day v : Int}

/-! ## Written distances -/

/-- The words for the units of a distance. -/
def unitWords : List (String × DateUnit) :=
  [("day", .day), ("days", .day), ("month", .month), ("months", .month), ("year", .year), ("years", .year)]

/-- Whether a text names a unit, in any ASCII case. -/
def NamesUnit (word : List Char) (unit : DateUnit) : Prop := (String.ofList (word.map Char.toLower), unit) ∈ unitWords

instance (word : List Char) (unit : DateUnit) : Decidable (NamesUnit word unit) :=
  inferInstanceAs (Decidable (_ ∈ unitWords))

theorem dateUnit?_eq_some_iff : dateUnit? s = some unit ↔ (s, unit) ∈ unitWords := by
  constructor
  · intro h
    unfold dateUnit? at h
    split at h
    case h_7 => cases h
    all_goals
      obtain rfl := Option.some.inj h
      decide
  · have hall : ∀ u ∈ unitWords, dateUnit? u.1 = some u.2 := by decide
    exact fun h => hall _ h

/-- Units are named with letters. -/
theorem NamesUnit.letter (h : NamesUnit word unit) (hc : c ∈ word) : 65 ≤ c.toNat ∧ c.toNat ≤ 122 := by
  have hall : ∀ u ∈ unitWords, u.1.toList.all (fun d => 97 ≤ d.toNat && d.toNat ≤ 122) = true := by decide
  have hletters := hall _ h
  rw [String.toList_ofList] at hletters
  have hd : 97 ≤ c.toLower.toNat ∧ c.toLower.toNat ≤ 122 := by
    simpa using List.all_eq_true.1 hletters _ (List.mem_map_of_mem hc)
  rcases toLower_cases c with he | he
  · rw [he] at hd
    omega
  · omega

theorem NamesUnit.ne_nil (h : NamesUnit word unit) : word ≠ [] := by
  rintro rfl
  exact absurd h (by cases unit <;> decide)

/-- Whether a text writes a distance: an integer and the name of a unit, with any white space around. -/
inductive WritesOffset : List Char → DateOffset → Prop
  | intro {front number word back : List Char} {amount : Int} {unit : DateUnit}
    (hfront : ∀ c ∈ front, isBlank c = true) (hnumber : WritesInteger number amount) (hword : NamesUnit word unit)
    (hback : ∀ c ∈ back, isBlank c = true) : WritesOffset (front ++ number ++ word ++ back) ⟨amount, unit⟩

/-- **What is read as a distance** is what writes one. -/
theorem dateOffset?_eq_some_iff : dateOffset? (trimBlanks t) = some o ↔ WritesOffset t o := by
  constructor
  · intro h
    obtain ⟨⟨amount, rest⟩, hn, h⟩ := Option.bind_eq_some_iff.1 h
    obtain ⟨unit, hunit, h⟩ := Option.bind_eq_some_iff.1 h
    obtain rfl := Option.some.inj h
    obtain ⟨number, htrim, hw, -⟩ := takeInteger?_eq_some_iff.1 hn
    obtain ⟨front, back, ht, hfront, hback⟩ := exists_trimBlanks t
    rw [ht, htrim, ← List.append_assoc]
    exact .intro hfront hw (dateUnit?_eq_some_iff.1 hunit) hback
  · rintro ⟨hfront, hnumber, hword, hback⟩
    rename_i front number word back amount unit
    have htrim : trimBlanks (front ++ number ++ word ++ back) = number ++ word := by
      have := trimBlanks_around hfront hback (t := number ++ word) ?_ ?_
      · simpa using this
      · intro c hc
        rw [List.head?_append, List.head?_eq_some_head hnumber.ne_nil, Option.some_or, Option.some.injEq] at hc
        exact hnumber.isBlank (hc ▸ List.head_mem hnumber.ne_nil)
      · intro c hc
        rw [List.getLast?_append, List.getLast?_eq_some_getLast hword.ne_nil, Option.some_or, Option.some.injEq] at hc
        have := hword.letter (hc ▸ List.getLast_mem hword.ne_nil)
        exact isBlank_of_letter this.1 this.2
    have htake : takeInteger? (number ++ word) = some (amount, word) := by
      refine takeInteger?_eq_some_iff.2 ⟨number, rfl, hnumber, fun c hc => ?_⟩
      have := hword.letter (List.mem_of_mem_head? hc)
      rw [Bool.eq_false_iff, Ne, isDigit_iff]
      omega
    have hunit : dateUnit? (String.ofList (word.map Char.toLower)) = some unit := dateUnit?_eq_some_iff.2 hword
    rw [dateOffset?, htrim, htake]
    simp [hunit]

/-! ## Where a distance leads -/

namespace DateOffset

/-- The days of a distance in days, the months of the others: a year has twelve. -/
def span (o : DateOffset) : Int :=
  match o.unit with
  | .day | .month => o.amount
  | .year => 12 * o.amount

/-- Whether a distance leads from a day to another one. -/
def Leads (o : DateOffset) (day v : Int) : Prop :=
  match o.unit with
  | .day => v = day + o.span
  | .month | .year => ShiftedBy o.span (civilOf day) (civilOf v)

/-- From every day a distance leads to exactly one. -/
theorem exists_leads (o : DateOffset) (day : Int) : ∃ v, ∀ w, o.Leads day w ↔ w = v := by
  obtain ⟨amount, unit⟩ := o
  cases unit with
  | day => exact ⟨day + amount, fun w => Iff.rfl⟩
  | month => exact ⟨_, fun w => shiftedBy_iff⟩
  | year => exact ⟨_, fun w => shiftedBy_iff⟩

/-- The day that a distance leads to, if the calendar has it. -/
def end? (o : DateOffset) (day : Int) : Option Int :=
  match o.unit with
  | .day => addDays? day o.span
  | .month | .year => addMonths? day o.span

theorem end?_eq_some_iff : o.end? day = some v ↔ o.Leads day v ∧ InCalendar v := by
  obtain ⟨amount, unit⟩ := o
  cases unit with
  | day => exact addDays?_eq_some_iff
  | month => exact addMonths?_eq_some_iff
  | year => exact addMonths?_eq_some_iff

theorem shift?_eq (o : DateOffset) (now : Moment) : o.shift? now =
    if largestOffset < o.span.natAbs then none else (o.end? now.day).map fun day => { now with day } := by
  obtain ⟨amount, unit⟩ := o
  cases unit with
  | day =>
    cases hd : addDays? now.day amount <;> by_cases hs : largestOffset < amount.natAbs <;>
      simp [shift?, span, end?, hd, hs]
  | month =>
    cases hd : addMonths? now.day amount <;> by_cases hs : largestOffset < amount.natAbs <;>
      simp [shift?, span, end?, hd, hs]
  | year =>
    cases hd : addMonths? now.day (amount * 12) <;> by_cases hs : largestOffset < (amount * 12).natAbs <;>
      simp [shift?, span, end?, hd, hs, Int.mul_comm 12]

/-- A moment is moved to the day that the distance leads to, unless one of them is too large. -/
theorem shift?_of_leads (h : ∀ w, o.Leads now.day w ↔ w = v) : o.shift? now =
    if o.span.natAbs ≤ 2 ^ 32 - 1 ∧ InCalendar v then some { now with day := v } else none := by
  rw [shift?_eq, largestOffset]
  by_cases hspan : 4294967295 < o.span.natAbs
  · rw [if_pos hspan, if_neg fun hc => by omega]
  rw [if_neg hspan]
  by_cases hin : InCalendar v
  · rw [end?_eq_some_iff.2 ⟨(h v).2 rfl, hin⟩, if_pos ⟨by omega, hin⟩]
    rfl
  · rw [if_neg fun hc => hin hc.2, Option.map_eq_none_iff, Option.eq_none_iff_forall_ne_some]
    intro w hw
    obtain ⟨hw, hwin⟩ := end?_eq_some_iff.1 hw
    exact hin ((h w).1 hw ▸ hwin)

end DateOffset

/-! ## Reading a date -/

/-- A text that is no distance is read without a look at the clock. -/
theorem parseMoment_of_not_writes (h : ∀ o, ¬WritesOffset s.toList o) (now now' : Moment) :
    parseMoment now s = parseMoment now' s := by
  have hnone : dateOffset? (trimBlanks s.toList) = none :=
    Option.eq_none_iff_forall_ne_some.2 fun o ho => h o (dateOffset?_eq_some_iff.1 ho)
  simp only [parseMoment, hnone]

theorem parseMoment_of_writes (h : WritesOffset s.toList o) (now : Moment) :
    parseMoment now s = ((o.shift? now).map (Value.moment · true)).elim (.error (.badDate s)) .ok := by
  simp only [parseMoment, dateOffset?_eq_some_iff.2 h]
  cases o.shift? now <;> rfl

/-- **Distances are exact.** A text that writes a distance leads from today to exactly one day. It is read as that
day, at the time of day that it is now, and fails with the text as it was given if and only if the distance is larger
than 32 bits hold or the calendar does not have the day; a number of years is read as twelve times as many months. No
other text is taken for a distance: what it is read as does not depend on the clock. -/
theorem parseMoment_distance (now : Moment) (s : String) :
    (∀ o, WritesOffset s.toList o → ∃ day, (∀ v, o.Leads now.day v ↔ v = day) ∧
      parseMoment now s = if o.span.natAbs ≤ 2 ^ 32 - 1 ∧ InCalendar day then .ok (.moment { now with day } true)
        else .error (.badDate s)) ∧
    (∀ a r, WritesOffset s.toList ⟨a, .year⟩ → WritesOffset r.toList ⟨12 * a, .month⟩ →
      ∀ v, parseMoment now s = .ok v ↔ parseMoment now r = .ok v) ∧
    ((∀ o, ¬WritesOffset s.toList o) → dateOffset? (trimBlanks s.toList) = none ∧
      ∀ now', parseMoment now' s = parseMoment now s) := by
  refine ⟨fun o ho => ?_, fun a r hs hr v => ?_, fun h => ⟨?_, fun now' => parseMoment_of_not_writes h now' now⟩⟩
  · obtain ⟨day, hday⟩ := o.exists_leads now.day
    refine ⟨day, hday, ?_⟩
    rw [parseMoment_of_writes ho, DateOffset.shift?_of_leads hday]
    split <;> rfl
  · have hsame : DateOffset.shift? ⟨a, .year⟩ now = DateOffset.shift? ⟨12 * a, .month⟩ now := by
      rw [DateOffset.shift?_eq, DateOffset.shift?_eq]
      rfl
    rw [parseMoment_of_writes hs, parseMoment_of_writes hr, hsame]
    cases DateOffset.shift? ⟨12 * a, .month⟩ now with
    | none => exact ⟨nofun, nofun⟩
    | some m => exact Iff.rfl
  · exact Option.eq_none_iff_forall_ne_some.2 fun o ho => h o (dateOffset?_eq_some_iff.1 ho)

/-- A month from the end of January leads to the end of February; a year and twelve months lead to one day; a gap in
front of the unit makes a text no distance. -/
theorem parseMoment_distance_january :
    (WritesOffset "\u3000+1Month ".toList ⟨1, .month⟩ ∧
      parseMoment ⟨dayOf ⟨2024, 1, 31⟩, 3600, false⟩ "\u3000+1Month " =
        .ok (.moment ⟨dayOf ⟨2024, 2, 29⟩, 3600, false⟩ true)) ∧
    (WritesOffset "-1YEAR".toList ⟨-1, .year⟩ ∧ WritesOffset "-012months".toList ⟨-12, .month⟩ ∧
      ∀ now v, parseMoment now "-1YEAR" = .ok v ↔ parseMoment now "-012months" = .ok v) ∧
    (∀ o, ¬WritesOffset "1 day".toList o) ∧ ∀ now now', parseMoment now' "1 day" = parseMoment now "1 day" := by
  have hmonth : WritesOffset "\u3000+1Month ".toList ⟨1, .month⟩ :=
    @WritesOffset.intro ['\u3000'] "+1".toList "Month".toList [' '] 1 .month
      (List.all_eq_true.1 (by decide +kernel)) (@WritesInteger.plus ['1'] (by decide) (List.all_eq_true.1 (by decide)))
      (by decide) (List.all_eq_true.1 (by decide))
  have hyear : WritesOffset "-1YEAR".toList ⟨-1, .year⟩ :=
    @WritesOffset.intro [] "-1".toList "YEAR".toList [] (-1) .year nofun
      (@WritesInteger.minus ['1'] (by decide) (List.all_eq_true.1 (by decide))) (by decide) nofun
  have hmonths : WritesOffset "-012months".toList ⟨-12, .month⟩ :=
    @WritesOffset.intro [] "-012".toList "months".toList [] (-12) .month nofun
      (@WritesInteger.minus ['0', '1', '2'] (by decide) (List.all_eq_true.1 (by decide))) (by decide) nofun
  have hgap : ∀ o, ¬WritesOffset "1 day".toList o := fun o ho =>
    absurd (dateOffset?_eq_some_iff.2 ho) (by rw [show dateOffset? (trimBlanks "1 day".toList) = none by decide]; nofun)
  refine ⟨⟨hmonth, ?_⟩, ⟨hyear, hmonths, fun now => (parseMoment_distance now "-1YEAR").2.1 (-1) _ hyear hmonths⟩, hgap,
    fun now => ((parseMoment_distance now "1 day").2.2 hgap).2⟩
  obtain ⟨day, hday, hread⟩ := (parseMoment_distance ⟨dayOf ⟨2024, 1, 31⟩, 3600, false⟩ "\u3000+1Month ").1 _ hmonth
  obtain rfl := (hday (dayOf ⟨2024, 2, 29⟩)).1 ⟨by decide, by decide, by decide⟩
  rw [hread, if_pos (by decide)]

end FileIndex.Value
