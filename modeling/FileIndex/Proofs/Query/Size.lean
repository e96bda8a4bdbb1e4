/-
Written integers. An integer is written as an optional sign and decimal digits (`WritesInteger`); the reader takes
such a front of a text that no further digit follows, and nothing else (`takeInteger?_eq_some_iff`). White space
around a text is trimmed off, and what case ASCII letters have makes no difference to digits, signs and white space.

Written sizes. A size is written as an integer and, behind any white space, a unit in any ASCII case
(`WritesSize`). The reader takes exactly these texts, as long as the number of bytes fits into 64 bits with a sign;
what it reads is that number, so that a comparison of sizes decides the relation of the integers
(`parseInteger_exact`).
-/
import FileIndex.Filter.Matcher
import FileIndex.Query.Value
import Mathlib

namespace FileIndex

/-! ## White space around a text -/

namespace Text

variable {t front back : List Char}

/-- A text is what is left of it with white space on both sides. -/
theorem exists_trimBlanks (t : List Char) : ∃ front back, t = front ++ trimBlanks t ++ back ∧
    (∀ c ∈ front, isBlank c = true) ∧ ∀ c ∈ back, isBlank c = true := by
  refine ⟨t.takeWhile isBlank, ((t.dropWhile isBlank).reverse.takeWhile isBlank).reverse, ?_, ?_, ?_⟩
  · rw [List.append_assoc, trimBlanks, ← List.reverse_append, List.takeWhile_append_dropWhile, List.reverse_reverse,
      List.takeWhile_append_dropWhile]
  · exact fun c hc => List.all_eq_true.1 List.all_takeWhile c hc
  · exact fun c hc => List.all_eq_true.1 List.all_takeWhile c (List.mem_reverse.1 hc)

theorem dropWhile_isBlank_self (h : ∀ c, t.head? = some c → isBlank c = false) : t.dropWhile isBlank = t := by
  cases t with
  | nil => rfl
  | cons c t => exact List.dropWhile_cons_of_neg (by simp [h c rfl])

/-- White space around a text is trimmed off, and nothing else. -/
theorem trimBlanks_around (hf : ∀ c ∈ front, isBlank c = true) (hb : ∀ c ∈ back, isBlank c = true)
    (hfirst : ∀ c, t.head? = some c → isBlank c = false) (hlast : ∀ c, t.getLast? = some c → isBlank c = false) :
    trimBlanks (front ++ t ++ back) = t := by
  rw [trimBlanks, List.append_assoc, List.dropWhile_append_of_pos hf]
  cases t with
  | nil =>
    rw [List.nil_append, ← List.append_nil back, List.dropWhile_append_of_pos hb]
    rfl
  | cons c u =>
    have hself : (c :: u ++ back).dropWhile isBlank = c :: u ++ back := dropWhile_isBlank_self (by simpa using hfirst)
    rw [hself, List.reverse_append, List.dropWhile_append_of_pos fun d hd => hb d (List.mem_reverse.1 hd),
      dropWhile_isBlank_self, List.reverse_reverse]
    rwa [List.head?_reverse]

end Text

namespace Value

open Text

variable {c d : Char} {t digits rest : List Char} {n : Int}

/-! ## The case of ASCII letters -/

/-- Upper case changes nothing but lower-case letters, into letters. -/
theorem toUpper_cases (c : Char) :
    c.toUpper = c ∨ 97 ≤ c.toNat ∧ c.toNat ≤ 122 ∧ 65 ≤ c.toUpper.toNat ∧ c.toUpper.toNat ≤ 90 := by
  unfold Char.toUpper
  split
  · rename_i h
    have h1 : 97 ≤ c.val.toNat := h.1
    have h2 : c.val.toNat ≤ 122 := h.2
    refine .inr ⟨h1, h2, ?_⟩
    have hval : (c.val + ('A'.val - 'a'.val)).toNat = c.val.toNat - 32 := by
      rw [UInt32.toNat_add, show ('A'.val - 'a'.val).toNat = 4294967264 by decide]
      omega
    simp only [Char.toNat, hval]
    omega
  · exact .inl rfl

/-- Lower case changes nothing but upper-case letters. -/
theorem toLower_cases (c : Char) : c.toLower = c ∨ 65 ≤ c.toNat ∧ c.toNat ≤ 90 := by
  unfold Char.toLower
  split
  · rename_i h
    have h1 : 65 ≤ c.val.toNat := h.1
    have h2 : c.val.toNat ≤ 90 := h.2
    exact .inr ⟨h1, h2⟩
  · exact .inl rfl

theorem isDigit_iff : c.isDigit = true ↔ 48 ≤ c.toNat ∧ c.toNat ≤ 57 := Char.isDigit_iff_toNat

theorem isBlank_of_letter (h1 : 65 ≤ c.toNat) (h2 : c.toNat ≤ 122) : isBlank c = false := by
  rw [isBlank, if_pos (by omega)]
  have hne : c ≠ ' ' := by
    rintro rfl
    exact absurd h1 (by decide)
  simp only [beq_eq_false_iff_ne.2 hne, Bool.false_or, Bool.and_eq_false_iff, decide_eq_false_iff_not]
  omega

theorem isDigit_of_isBlank (h : isBlank c = true) : c.isDigit = false := by
  rw [Bool.eq_false_iff, Ne, isDigit_iff]
  intro hd
  rw [isBlank, if_pos (by omega)] at h
  rcases Bool.or_eq_true_iff.1 h with he | he
  · rw [beq_iff_eq] at he
    subst he
    exact absurd hd (by decide)
  · simp only [Bool.and_eq_true, decide_eq_true_eq] at he
    omega

theorem toUpper_of_toNat_lt (h : c.toUpper.toNat < 65) : c.toUpper = c := by
  rcases toUpper_cases c with he | he
  · exact he
  · omega

theorem isBlank_toUpper (c : Char) : isBlank c.toUpper = isBlank c := by
  rcases toUpper_cases c with he | he
  · rw [he]
  · rw [isBlank_of_letter he.2.2.1 (by omega), isBlank_of_letter (by omega) he.2.1]

/-! ## Digits and signs -/

theorem digitsValue_eq (digits : List Char) : digitsValue digits = Nat.ofDigitChars 10 digits 0 := by
  rw [digitsValue, Nat.ofDigitChars_eq_foldl]
  simp only [Nat.mul_comm 10]

/-- Whether a text writes an integer: one sign at most, and decimal digits behind it. -/
inductive WritesInteger : List Char → Int → Prop
  | plain {digits : List Char} (hne : digits ≠ []) (hd : ∀ c ∈ digits, c.isDigit = true) :
    WritesInteger digits (Nat.ofDigitChars 10 digits 0)
  | plus {digits : List Char} (hne : digits ≠ []) (hd : ∀ c ∈ digits, c.isDigit = true) :
    WritesInteger ('+' :: digits) (Nat.ofDigitChars 10 digits 0)
  | minus {digits : List Char} (hne : digits ≠ []) (hd : ∀ c ∈ digits, c.isDigit = true) :
    WritesInteger ('-' :: digits) (-(Nat.ofDigitChars 10 digits 0))

namespace WritesInteger

theorem ne_nil (h : WritesInteger t n) : t ≠ [] := by
  cases h with
  | plain hne hd => exact hne
  | plus hne hd => exact List.cons_ne_nil _ _
  | minus hne hd => exact List.cons_ne_nil _ _

/-- Integers are written with digits and signs. -/
theorem toNat_mem (h : WritesInteger t n) (hc : c ∈ t) : c.toNat = 43 ∨ c.toNat = 45 ∨ 48 ≤ c.toNat ∧ c.toNat ≤ 57 := by
  cases h with
  | plain hne hd => exact .inr (.inr (isDigit_iff.1 (hd c hc)))
  | plus hne hd | minus hne hd =>
    rcases List.mem_cons.1 hc with rfl | hc
    · decide
    · exact .inr (.inr (isDigit_iff.1 (hd c hc)))

theorem isBlank (h : WritesInteger t n) (hc : c ∈ t) : isBlank c = false := by
  have := h.toNat_mem hc
  rw [Text.isBlank, if_pos (by omega), Bool.or_eq_false_iff]
  refine ⟨beq_eq_false_iff_ne.2 ?_, by simp; omega⟩
  rintro rfl
  exact absurd this (by decide)

/-- Upper case leaves integers as they are, and makes none of what is none. -/
theorem map_toUpper_iff : WritesInteger (t.map Char.toUpper) n ↔ WritesInteger t n := by
  have hself : ∀ u : List Char, (∀ c ∈ u, c.toUpper = c) → u.map Char.toUpper = u :=
    fun u hu => (List.map_congr_left hu).trans (List.map_id u)
  constructor
  · intro h
    rwa [hself t fun c hc => ?_] at h
    have := h.toNat_mem (List.mem_map_of_mem hc)
    exact toUpper_of_toNat_lt (by omega)
  · intro h
    rwa [hself t fun c hc => ?_]
    have := h.toNat_mem hc
    rcases toUpper_cases c with he | he
    · exact he
    · omega

end WritesInteger

theorem takeWhile_isDigit (hd : ∀ c ∈ digits, c.isDigit = true) (hr : ∀ c, rest.head? = some c → c.isDigit = false) :
    (digits ++ rest).takeWhile Char.isDigit = digits ∧ (digits ++ rest).dropWhile Char.isDigit = rest := by
  rw [List.takeWhile_append_of_pos hd, List.dropWhile_append_of_pos hd]
  cases rest with
  | nil => simp
  | cons c rest => simp [hr c rfl]

theorem takeSign_of_isDigit (hne : digits ≠ []) (hd : ∀ c ∈ digits, c.isDigit = true) (rest : List Char) :
    takeSign (digits ++ rest) = (false, digits ++ rest) := by
  cases digits with
  | nil => exact absurd rfl hne
  | cons c digits =>
    have hc := isDigit_iff.1 (hd c (by simp))
    rw [List.cons_append]
    unfold takeSign
    split
    · rename_i he
      obtain rfl := (List.cons.inj he).1
      exact absurd hc.1 (by decide)
    · rename_i he
      obtain rfl := (List.cons.inj he).1
      exact absurd hc.1 (by decide)
    · rfl

theorem takeSign_cases (t : List Char) : (∃ u, t = '-' :: u ∧ takeSign t = (true, u)) ∨
    (∃ u, t = '+' :: u ∧ takeSign t = (false, u)) ∨ takeSign t = (false, t) := by
  unfold takeSign
  split
  · exact .inl ⟨_, rfl, rfl⟩
  · exact .inr (.inl ⟨_, rfl, rfl⟩)
  · exact .inr (.inr rfl)

/-- **What is taken for an integer**: a front of the text that writes it, with no digit behind. -/
theorem takeInteger?_eq_some_iff : takeInteger? t = some (n, rest) ↔
    ∃ number, t = number ++ rest ∧ WritesInteger number n ∧ ∀ c, rest.head? = some c → c.isDigit = false := by
  constructor
  · -- The digits are all that follow the sign.
    intro h
    unfold takeInteger? at h
    generalize hs : takeSign t = signed at h
    obtain ⟨negative, u⟩ := signed
    have hd : ∀ c ∈ u.takeWhile Char.isDigit, c.isDigit = true :=
      fun c hc => List.all_eq_true.1 List.all_takeWhile c hc
    have hr : ∀ c, (u.dropWhile Char.isDigit).head? = some c → c.isDigit = false := by
      intro c hc
      have := List.head?_dropWhile_not Char.isDigit u
      rwa [hc] at this
    have hu : u.takeWhile Char.isDigit ++ u.dropWhile Char.isDigit = u := List.takeWhile_append_dropWhile
    dsimp only at h
    split at h
    · cases h
    · rename_i hne
      rw [List.isEmpty_iff] at hne
      rw [digitsValue_eq] at h
      simp only [Option.some.injEq, Prod.mk.injEq] at h
      obtain ⟨rfl, rfl⟩ := h
      rcases takeSign_cases t with ⟨v, rfl, ht⟩ | ⟨v, rfl, ht⟩ | ht
      all_goals
        rw [ht, Prod.mk.injEq] at hs
        obtain ⟨rfl, rfl⟩ := hs
      · exact ⟨_, congrArg _ hu.symm, .minus hne hd, hr⟩
      · exact ⟨_, congrArg _ hu.symm, .plus hne hd, hr⟩
      · exact ⟨_, hu.symm, .plain hne hd, hr⟩
  · rintro ⟨number, rfl, hw, hr⟩
    cases hw with
    | @plain digits hne hd =>
      obtain ⟨h1, h2⟩ := takeWhile_isDigit hd hr
      simp [takeInteger?, takeSign_of_isDigit hne hd, h1, h2, hne, digitsValue_eq]
    | @plus digits hne hd =>
      obtain ⟨h1, h2⟩ := takeWhile_isDigit hd hr
      simp [takeInteger?, takeSign, h1, h2, hne, digitsValue_eq]
    | @minus digits hne hd =>
      obtain ⟨h1, h2⟩ := takeWhile_isDigit hd hr
      simp [takeInteger?, takeSign, h1, h2, hne, digitsValue_eq]

end Value

/-- The relation of integers that a comparison stands for. -/
def Comparison.Relates : Comparison → Int → Int → Prop
  | .lt, a, b => a < b
  | .le, a, b => a ≤ b
  | .eq, a, b => a = b
  | .ne, a, b => a ≠ b
  | .ge, a, b => b ≤ a
  | .gt, a, b => b < a

instance : (c : Comparison) → (a b : Int) → Decidable (c.Relates a b)
  | .lt, a, b => inferInstanceAs (Decidable (a < b))
  | .le, a, b => inferInstanceAs (Decidable (a ≤ b))
  | .eq, a, b => inferInstanceAs (Decidable (a = b))
  | .ne, a, b => inferInstanceAs (Decidable (a ≠ b))
  | .ge, a, b => inferInstanceAs (Decidable (b ≤ a))
  | .gt, a, b => inferInstanceAs (Decidable (b < a))

theorem Comparison.accepts_compare (c : Comparison) (a b : Int) :
    c.accepts (Ord.compare a b) = decide (c.Relates a b) := by
  rw [Bool.eq_iff_iff, decide_eq_true_eq]
  cases ho : Ord.compare a b with
  | lt =>
    have := Int.compare_eq_lt.1 ho
    cases c <;> simp [accepts, Relates] <;> omega
  | eq =>
    have := Int.compare_eq_eq.1 ho
    cases c <;> simp [accepts, Relates] <;> omega
  | gt =>
    have := Int.compare_eq_gt.1 ho
    cases c <;> simp [accepts, Relates] <;> omega

namespace Value

open Text

variable {t number gap unit rest : List Char} {n v : Int} {k : Nat} {c : Char} {s : String} {e : QueryError}

/-! ## Units -/

/-- The units, each with the power of 1024 that it stands for. -/
def unitPowers : List (String × Nat) :=
  [("", 0), ("B", 0), ("K", 1), ("KB", 1), ("M", 2), ("MB", 2), ("G", 3), ("GB", 3), ("T", 4), ("TB", 4)]

theorem unitSize?_eq (suffix : String) : unitSize? suffix = (unitPowers.lookup suffix).map (1024 ^ ·) := by
  unfold unitSize?
  split
  case h_11 =>
    have hne : ∀ u ∈ unitPowers, (suffix == u.1) = false := by
      simp only [unitPowers, List.forall_mem_cons, beq_eq_false_iff_ne]
      simp_all
    rw [List.lookup_eq_none_iff.2 fun u hu => by simpa using hne u hu]
    rfl
  all_goals rfl

/-- The power of 1024 of a unit in any ASCII case. -/
def unitPower? (unit : List Char) : Option Nat := unitPowers.lookup (String.ofList (unit.map Char.toUpper))

theorem unitSize?_toUpper (unit : List Char) :
    unitSize? (String.ofList (unit.map Char.toUpper)) = (unitPower? unit).map (1024 ^ ·) := unitSize?_eq _

/-- Units are written with letters. -/
theorem letter_of_unitPower? (h : unitPower? unit = some k) (hc : c ∈ unit) :
    65 ≤ c.toUpper.toNat ∧ c.toUpper.toNat ≤ 90 := by
  have hall : ∀ u ∈ unitPowers, u.1.toList.all (fun d => 65 ≤ d.toNat && d.toNat ≤ 90) = true := by decide
  obtain ⟨before, behind, hmem, -⟩ := List.lookup_eq_some_iff.1 h
  have hletters := hall (String.ofList (unit.map Char.toUpper), k) (by simp [hmem])
  rw [String.toList_ofList] at hletters
  simpa using List.all_eq_true.1 hletters _ (List.mem_map_of_mem hc)

theorem isBlank_of_unitPower? (h : unitPower? unit = some k) (hc : c ∈ unit) : isBlank c = false := by
  obtain ⟨h1, h2⟩ := letter_of_unitPower? h hc
  rw [← isBlank_toUpper, isBlank_of_letter h1 (by omega)]

/-! ## Sizes -/

/-- Whether a text writes a size: an integer and a unit, with any white space in front, between and behind. -/
inductive WritesSize : List Char → Int → Prop
  | intro {front number gap unit back : List Char} {n : Int} {k : Nat}
    (hfront : ∀ c ∈ front, isBlank c = true) (hnumber : WritesInteger number n)
    (hgap : ∀ c ∈ gap, isBlank c = true) (hunit : unitPower? unit = some k) (hback : ∀ c ∈ back, isBlank c = true) :
    WritesSize (front ++ number ++ gap ++ unit ++ back) (n * 1024 ^ k)

/-- Whether a number fits into 64 bits with a sign. -/
def Fits (v : Int) : Prop := -2 ^ 63 ≤ v ∧ v < 2 ^ 63

theorem inRange_iff : inRange v = true ↔ Fits v := by
  rw [inRange, Bool.and_eq_true, decide_eq_true_eq, decide_eq_true_eq]
  exact Iff.rfl

/-- What stands between the white space around a size. -/
theorem trimBlanks_size {front back : List Char} (hfront : ∀ c ∈ front, isBlank c = true)
    (hnumber : WritesInteger number n) (hgap : ∀ c ∈ gap, isBlank c = true) (hunit : unitPower? unit = some k)
    (hback : ∀ c ∈ back, isBlank c = true) : ∃ gap', (∀ c ∈ gap', isBlank c = true) ∧
      trimBlanks (front ++ number ++ gap ++ unit ++ back) = number ++ gap' ++ unit := by
  have hfirst : ∀ more c, (number ++ more).head? = some c → isBlank c = false := by
    intro more c hc
    rw [List.head?_append, List.head?_eq_some_head hnumber.ne_nil, Option.some_or, Option.some.injEq] at hc
    exact hnumber.isBlank (hc ▸ List.head_mem hnumber.ne_nil)
  by_cases hne : unit = []
  · -- Without a unit the white space behind the number is trimmed off as well.
    refine ⟨[], by simp, ?_⟩
    have hrest : ∀ c ∈ gap ++ back, isBlank c = true := fun c hc => (List.mem_append.1 hc).elim (hgap c) (hback c)
    have := trimBlanks_around hfront hrest (t := number) (by simpa using hfirst [])
      fun c hc => hnumber.isBlank (List.mem_of_getLast? hc)
    simpa [hne] using this
  · refine ⟨gap, hgap, ?_⟩
    have := trimBlanks_around hfront hback (t := number ++ gap ++ unit) (by simpa using hfirst (gap ++ unit)) ?_
    · simpa using this
    · intro c hc
      rw [List.getLast?_append, List.getLast?_eq_some_getLast hne, Option.some_or, Option.some.injEq] at hc
      exact isBlank_of_unitPower? hunit (hc ▸ List.getLast_mem hne)

theorem map_toUpper_trimBlanks (t : List Char) : trimBlanks (t.map Char.toUpper) = (trimBlanks t).map Char.toUpper := by
  have hfun : isBlank ∘ Char.toUpper = isBlank := funext isBlank_toUpper
  rw [trimBlanks, trimBlanks, List.dropWhile_map, ← List.map_reverse, List.dropWhile_map, ← List.map_reverse, hfun]

/-- The number of bytes that a text in upper case gives, if it gives one at all. -/
theorem reads_iff : (∃ n rest size, takeInteger? ((trimBlanks t).map Char.toUpper) = some (n, rest) ∧
      unitSize? (String.ofList (trimBlanks rest)) = some size ∧ v = n * size) ↔ WritesSize t v := by
  constructor
  · rintro ⟨n, rest, size, hn, hsize, rfl⟩
    obtain ⟨number, hnumber, hw, -⟩ := takeInteger?_eq_some_iff.1 hn
    obtain ⟨number, behind, htrim, rfl, rfl⟩ := List.map_eq_append_iff.1 hnumber
    obtain ⟨front, back, ht, hfront, hback⟩ := exists_trimBlanks t
    obtain ⟨gap, gap', hbehind, hgap, hgap'⟩ := exists_trimBlanks behind
    rw [map_toUpper_trimBlanks, unitSize?_toUpper] at hsize
    obtain ⟨k, hk, rfl⟩ := Option.map_eq_some_iff.1 hsize
    have hblanks : ∀ c ∈ gap' ++ back, isBlank c = true := fun c hc => (List.mem_append.1 hc).elim (hgap' c) (hback c)
    have := WritesSize.intro hfront (WritesInteger.map_toUpper_iff.1 hw) hgap hk hblanks
    rw [ht, htrim, hbehind]
    simpa using this
  · rintro ⟨hfront, hnumber, hgap, hunit, hback⟩
    rename_i number gap unit back n k
    obtain ⟨gap', hgap', htrim⟩ := trimBlanks_size hfront hnumber hgap hunit hback
    refine ⟨n, (gap' ++ unit).map Char.toUpper, 1024 ^ k, ?_, ?_, by simp⟩
    · rw [htrim, List.append_assoc, List.map_append]
      refine takeInteger?_eq_some_iff.2 ⟨_, rfl, WritesInteger.map_toUpper_iff.2 hnumber, fun c hc => ?_⟩
      rw [List.head?_map, Option.map_eq_some_iff] at hc
      obtain ⟨d, hd, rfl⟩ := hc
      rcases List.mem_append.1 (List.mem_of_mem_head? hd) with hd | hd
      · exact isDigit_of_isBlank (by rw [isBlank_toUpper, hgap' d hd])
      · have := letter_of_unitPower? hunit hd
        rw [Bool.eq_false_iff, Ne, isDigit_iff]
        omega
    · have hself := @trimBlanks_around unit gap' [] hgap' (by simp)
        (fun c hc => isBlank_of_unitPower? hunit (List.mem_of_mem_head? hc))
        fun c hc => isBlank_of_unitPower? hunit (List.mem_of_getLast? hc)
      rw [List.append_nil] at hself
      rw [map_toUpper_trimBlanks, hself, unitSize?_toUpper, hunit]
      rfl

/-- A written size is read if it fits. -/
theorem parseInteger_of_writes (h : WritesSize s.toList v) :
    parseInteger s = if inRange v then .ok v else .error (.badInteger s) := by
  obtain ⟨n, rest, size, hn, hsize, rfl⟩ := reads_iff.2 h
  rw [parseInteger]
  simp only [hn, hsize, Option.bind_eq_bind, Option.bind_some]
  cases inRange (n * size) <;> rfl

/-- What is no written size is not read. -/
theorem parseInteger_of_not_writes (h : ∀ v, ¬WritesSize s.toList v) : parseInteger s = .error (.badInteger s) := by
  rw [parseInteger]
  cases hn : takeInteger? ((trimBlanks s.toList).map Char.toUpper) with
  | none => rfl
  | some found =>
    cases hsize : unitSize? (String.ofList (trimBlanks found.2)) with
    | none =>
      simp only [hsize, Option.bind_eq_bind, Option.bind_some]
      rfl
    | some size => exact absurd (reads_iff.1 ⟨found.1, found.2, size, hn, hsize, rfl⟩) (h _)

theorem parseInteger_eq_ok_iff : parseInteger s = .ok v ↔ WritesSize s.toList v ∧ Fits v := by
  by_cases hw : ∃ w, WritesSize s.toList w
  · obtain ⟨w, hw⟩ := hw
    -- A text writes one size only.
    have hv : WritesSize s.toList v ↔ v = w := by
      constructor
      · intro hv
        obtain ⟨n, rest, size, hn, hsize, rfl⟩ := reads_iff.2 hw
        obtain ⟨n', rest', size', hn', hsize', rfl⟩ := reads_iff.2 hv
        obtain ⟨rfl, rfl⟩ := Prod.mk.inj (Option.some.inj (hn'.symm.trans hn))
        rw [Option.some.inj (hsize'.symm.trans hsize)]
      · rintro rfl
        exact hw
    rw [parseInteger_of_writes hw, hv, ← inRange_iff]
    constructor
    · intro h
      split at h
      · rename_i hr
        obtain rfl := Except.ok.inj h
        exact ⟨rfl, hr⟩
      · cases h
    · rintro ⟨rfl, hr⟩
      rw [if_pos hr]
  · rw [parseInteger_of_not_writes fun w h => hw ⟨w, h⟩]
    exact ⟨nofun, fun h => absurd ⟨v, h.1⟩ hw⟩

/-- The one error of the reader carries the text as it was given. -/
theorem eq_badInteger (h : parseInteger s = .error e) : e = .badInteger s := by
  by_cases hw : ∃ w, WritesSize s.toList w
  · obtain ⟨w, hw⟩ := hw
    rw [parseInteger_of_writes hw] at h
    split at h
    · cases h
    · exact (Except.error.inj h).symm
  · rw [parseInteger_of_not_writes fun w h => hw ⟨w, h⟩] at h
    exact (Except.error.inj h).symm

/-- **Sizes are read exactly.** A text is taken for a number of bytes if and only if it writes one that fits into 64
bits with a sign, and every other text is given back in the error. The comparisons of an item's size with a word that
was read are the relations of the two integers. -/
theorem parseInteger_exact (s : String) :
    (∀ v, parseInteger s = .ok v ↔ WritesSize s.toList v ∧ Fits v) ∧
    (∀ e, parseInteger s = .error e ↔ e = .badInteger s ∧ ¬∃ v, WritesSize s.toList v ∧ Fits v) ∧
    ∀ v, WritesSize s.toList v → Fits v → ∀ now c (item : Item), item.size < 2 ^ 63 →
      ∃ m, Matcher.compile now (.compare c) .size s = .ok m ∧
        m.holds .size item = .ok (decide (c.Relates item.size v)) := by
  refine ⟨fun v => parseInteger_eq_ok_iff, fun e => ⟨fun h => ⟨eq_badInteger h, ?_⟩, ?_⟩, ?_⟩
  · rintro ⟨v, hv⟩
    rw [parseInteger_eq_ok_iff.2 hv] at h
    cases h
  · rintro ⟨rfl, hno⟩
    cases h : parseInteger s with
    | ok v => exact absurd ⟨v, parseInteger_eq_ok_iff.1 h⟩ hno
    | error e => rw [eq_badInteger h]
  · intro v hw hv now c item hsize
    have hitem : inRange item.size = true := inRange_iff.2 ⟨by omega, by exact_mod_cast hsize⟩
    refine ⟨.compare c (.integer v), ?_, ?_⟩
    · rw [Matcher.compile, Property.kind, parse, parseInteger_eq_ok_iff.2 ⟨hw, hv⟩]
      rfl
    · rw [Matcher.holds, Property.value?, if_pos hitem, ← c.accepts_compare]
      rfl

/-- The smallest number that fits, with a wide space in front, a narrow one in front of the unit and letters of both
cases: only sizes above it are found by `>`. -/
theorem parseInteger_exact_lowest : WritesSize "\u3000-8388608\u2009tB ".toList (-2 ^ 63) ∧ Fits (-2 ^ 63) ∧
    parseInteger "\u3000-8388608\u2009tB " = .ok (-2 ^ 63) ∧
    ∃ m, Matcher.compile ⟨0, 0, false⟩ (.compare .gt) .size "\u3000-8388608\u2009tB " = .ok m ∧
      m.holds .size (.ofName "f" "a/f" false false 0 none) = .ok true := by
  have hw : WritesSize "\u3000-8388608\u2009tB ".toList (-2 ^ 63) :=
    @WritesSize.intro ['\u3000'] "-8388608".toList ['\u2009'] ['t', 'B'] [' '] (-8388608) 4
      (List.all_eq_true.1 (by decide +kernel))
      (@WritesInteger.minus "8388608".toList (by decide) (List.all_eq_true.1 (by decide)))
      (List.all_eq_true.1 (by decide +kernel)) (by decide) (List.all_eq_true.1 (by decide))
  have hf : Fits (-2 ^ 63) := ⟨by decide, by decide⟩
  obtain ⟨hok, -, hcompare⟩ := parseInteger_exact "\u3000-8388608\u2009tB "
  exact ⟨hw, hf, (hok _).2 ⟨hw, hf⟩, hcompare _ hw hf ⟨0, 0, false⟩ .gt (.ofName "f" "a/f" false false 0 none) (by decide)⟩

end Value

end FileIndex
