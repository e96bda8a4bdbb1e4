/-
Leading zeros of numbers. A text falls into runs of digits and runs of other characters (`runs_eq_iff`), and to strip it of
leading zeros is to write for each run of digits the numeral of its value (`stripLeadingZeros_numerals`). What is stripped
has the runs of the text, written that way (`runs_stripLeadingZeros`), so two texts come to the same if and only if they
have the same runs but for the way numbers are written.
-/
import FileIndex.Projection.Basic
import Mathlib.Data.List.SplitBy

namespace FileIndex.Projection

variable {c : Char} {r t : List Char} {rs : List (List Char)}

/-! ## Runs -/

/-- The runs of a text: where a digit and another character stand side by side, a run ends. -/
def runs (t : List Char) : List (List Char) := t.splitBy fun a b => a.isDigit == b.isDigit

/-- Whether a run is one of digits. -/
def isNumber (r : List Char) : Bool := r.all Char.isDigit

/-- Lists of runs: none is empty, each has digits only or no digit, and those side by side are of the two sorts. -/
structure AreRuns (rs : List (List Char)) : Prop where
  filled : [] ∉ rs
  even : ∀ r ∈ rs, ∀ c ∈ r, c.isDigit = isNumber r
  apart : rs.IsChain fun r s => isNumber r ≠ isNumber s

theorem isNumber_of_forall (h : ∀ c ∈ r, c.isDigit = true) : isNumber r = true := List.all_eq_true.2 h

theorem isNumber_eq (h : r.IsChain fun a b => (a.isDigit == b.isDigit) = true) : ∀ c ∈ r, c.isDigit = isNumber r := by
  have hpairs : r.Pairwise fun a b => a.isDigit = b.isDigit :=
    (List.isChain_iff_pairwise (R := fun a b : Char => a.isDigit = b.isDigit)).1 (h.imp fun _ _ => eq_of_beq)
  cases r with
  | nil => simp
  | cons d r =>
    have hall : ∀ c ∈ d :: r, c.isDigit = d.isDigit := by
      intro c hc
      rcases List.mem_cons.1 hc with rfl | hc
      · rfl
      · exact ((List.pairwise_cons.1 hpairs).1 c hc).symm
    intro c hc
    rw [hall c hc]
    cases hd : d.isDigit with
    | true => exact (isNumber_of_forall fun c hc => (hall c hc).trans hd).symm
    | false => simp [isNumber, hd]

theorem isChain_of_even (h : ∀ c ∈ r, c.isDigit = isNumber r) : r.IsChain fun a b => (a.isDigit == b.isDigit) = true :=
  (List.pairwise_of_forall_mem_list fun a ha b hb => by rw [h a ha, h b hb, beq_self_eq_true]).isChain

/-- A text has one list of runs. -/
theorem runs_eq_iff : runs t = rs ↔ rs.flatten = t ∧ AreRuns rs := by
  have hends : ∀ {r s : List Char}, (∀ c ∈ r, c.isDigit = isNumber r) → (∀ c ∈ s, c.isDigit = isNumber s) →
      ∀ (hr : r ≠ []) (hs : s ≠ []), (((r.getLast hr).isDigit == (s.head hs).isDigit) = false) ↔ isNumber r ≠ isNumber s := by
    intro r s hr hs hrne hsne
    rw [hr _ (List.getLast_mem hrne), hs _ (List.head_mem hsne), beq_eq_false_iff_ne]
  rw [runs, List.splitBy_eq_iff]
  constructor
  · rintro ⟨rfl, hfilled, hchain, hapart⟩
    have heven := fun r hr => isNumber_eq (hchain r hr)
    refine ⟨rfl, hfilled, heven, hapart.imp_of_mem_imp fun r s hr hs ⟨hrne, hsne, h⟩ => ?_⟩
    exact (hends (heven r hr) (heven s hs) hrne hsne).1 h
  · rintro ⟨rfl, h⟩
    refine ⟨rfl, h.filled, fun r hr => isChain_of_even (h.even r hr), h.apart.imp_of_mem_imp fun r s hr hs hne => ?_⟩
    have hrne : r ≠ [] := fun he => h.filled (he ▸ hr)
    have hsne : s ≠ [] := fun he => h.filled (he ▸ hs)
    exact ⟨hrne, hsne, (hends (h.even r hr) (h.even s hs) hrne hsne).2 hne⟩

theorem areRuns_runs (t : List Char) : AreRuns (runs t) := (runs_eq_iff.1 rfl).2

theorem flatten_runs (t : List Char) : (runs t).flatten = t := (runs_eq_iff.1 rfl).1

/-! ## Numerals -/

/-- What a run stands for: digits for a number, other characters for themselves. -/
def meaning (r : List Char) : Nat ⊕ List Char := if isNumber r then .inl (Nat.ofDigitChars 10 r 0) else .inr r

/-- A number is written by its decimal numeral. -/
def written : Nat ⊕ List Char → List Char := Sum.elim (Nat.toDigits 10) id

theorem isNumber_toDigits (n : Nat) : isNumber (Nat.toDigits 10 n) = true :=
  isNumber_of_forall fun _ => Nat.isDigit_of_mem_toDigits (by decide) (by decide)

theorem isNumber_written (r : List Char) : isNumber (written (meaning r)) = isNumber r := by
  rw [meaning]
  split
  · rename_i h
    rw [h]
    exact isNumber_toDigits _
  · rfl

theorem written_ne_nil (h : r ≠ []) : written (meaning r) ≠ [] := by
  rw [meaning]
  split
  · exact Nat.toDigits_ne_nil
  · exact h

/-- What is written for a run has its meaning. -/
theorem meaning_written (r : List Char) : meaning (written (meaning r)) = meaning r := by
  rw [meaning, isNumber_written, meaning]
  split
  · exact congrArg Sum.inl Nat.ofDigitChars_ten_toDigits
  · rfl

theorem AreRuns.written (h : AreRuns rs) : AreRuns (rs.map fun r => written (meaning r)) where
  filled hmem := by
    obtain ⟨r, hr, he⟩ := List.mem_map.1 hmem
    exact written_ne_nil (fun hnil => h.filled (hnil ▸ hr)) he
  even := by
    intro w hw c hc
    obtain ⟨r, hr, rfl⟩ := List.mem_map.1 hw
    cases hn : isNumber r with
    | true =>
      rw [← isNumber_written] at hn
      rw [hn, List.all_eq_true.1 hn c hc]
    | false =>
      rw [meaning, if_neg (by simp [hn])] at hc ⊢
      exact h.even r hr c hc
  apart := by
    rw [List.isChain_map]
    simpa only [isNumber_written] using h.apart

/-! ## What is stripped -/

/-- A digit is the numeral of its value. -/
theorem digitChar_value (h : c.isDigit = true) : c.toNat - '0'.toNat < 10 ∧ Nat.digitChar (c.toNat - '0'.toNat) = c := by
  have hbounds : 48 ≤ c.toNat ∧ c.toNat ≤ 57 := Char.isDigit_iff_toNat.1 h
  have hlt : c.toNat - '0'.toNat < 10 := by
    change c.toNat - 48 < 10
    omega
  refine ⟨hlt, Char.toNat_inj.1 ?_⟩
  rw [Nat.toNat_digitChar_of_lt_ten hlt]
  change 48 + (c.toNat - 48) = c.toNat
  omega

/-- Digits that do not begin with a zero are the numeral of their value. -/
theorem toDigits_ofDigitChars (hd : ∀ d ∈ c :: r, d.isDigit = true) (h0 : c ≠ '0') :
    0 < Nat.ofDigitChars 10 (c :: r) 0 ∧ Nat.toDigits 10 (Nat.ofDigitChars 10 (c :: r) 0) = c :: r := by
  induction r using List.reverseRecOn with
  | nil =>
    obtain ⟨hlt, hchar⟩ := digitChar_value (hd c (by simp))
    rw [Nat.ofDigitChars_cons, Nat.ofDigitChars_nil, Nat.mul_zero, Nat.zero_add, Nat.toDigits_of_lt_base hlt, hchar]
    refine ⟨Nat.pos_of_ne_zero fun hz => h0 ?_, rfl⟩
    rw [← hchar, hz]
    rfl
  | append_singleton r d ih =>
    obtain ⟨hpos, hnumeral⟩ := ih fun e he => hd e (List.mem_append_left [d] he)
    obtain ⟨hlt, hchar⟩ := digitChar_value (hd d (by simp))
    have hvalue : Nat.ofDigitChars 10 (c :: (r ++ [d])) 0 = 10 * Nat.ofDigitChars 10 (c :: r) 0 + (d.toNat - '0'.toNat) := by
      rw [← List.cons_append, Nat.ofDigitChars_append, Nat.ofDigitChars_cons, Nat.ofDigitChars_nil]
    rw [hvalue, ← Nat.toDigits_append_toDigits (by decide) hpos hlt, hnumeral, Nat.toDigits_of_lt_base hlt, hchar]
    exact ⟨by omega, rfl⟩

/-- Behind a kept digit the digits of a run are all kept. -/
theorem stripLeadingZeros_inRun (h : ∀ c ∈ r, c.isDigit = true) (t : List Char) :
    stripLeadingZeros true (r ++ t) = r ++ stripLeadingZeros true t := by
  induction r with
  | nil => rfl
  | cons c r ih =>
    obtain ⟨hc, hr⟩ := List.forall_mem_cons.1 h
    rw [List.cons_append, stripLeadingZeros, if_neg (by simp), hc, ih hr, List.cons_append]

/-- Of a run of digits its numeral is kept. -/
theorem stripLeadingZeros_number (hne : r ≠ []) (h : ∀ c ∈ r, c.isDigit = true) (ht : ∀ d ∈ t.head?, d.isDigit = false) :
    stripLeadingZeros false (r ++ t) = Nat.toDigits 10 (Nat.ofDigitChars 10 r 0) ++ stripLeadingZeros true t := by
  induction r with
  | nil => exact absurd rfl hne
  | cons c r ih =>
    obtain ⟨hc, hr⟩ := List.forall_mem_cons.1 h
    by_cases h0 : c = '0'
    · subst h0
      cases r with
      | nil =>
        have hlast : t.head?.any Char.isDigit = false := by
          cases hhead : t.head? with
          | none => rfl
          | some d => exact ht d hhead
        rw [List.singleton_append, stripLeadingZeros, if_neg (by simp [hlast])]
        rfl
      | cons d r =>
        -- A zero in front of a digit is dropped and adds nothing to the value.
        rw [List.cons_append, List.cons_append, stripLeadingZeros, if_pos (by simp [hr d (by simp)]), ← List.cons_append,
          ih (List.cons_ne_nil d r) hr, Nat.ofDigitChars_cons]
        rfl
    · rw [(toDigits_ofDigitChars h h0).2, List.cons_append, stripLeadingZeros, if_neg (by simp [h0]), hc,
        stripLeadingZeros_inRun hr, List.cons_append]

/-- Of other characters all are kept. -/
theorem stripLeadingZeros_text (h : ∀ c ∈ r, c.isDigit = false) (t : List Char) :
    stripLeadingZeros false (r ++ t) = r ++ stripLeadingZeros false t := by
  induction r with
  | nil => rfl
  | cons c r ih =>
    obtain ⟨hc, hr⟩ := List.forall_mem_cons.1 h
    have h0 : c ≠ '0' := by
      rintro rfl
      exact absurd hc (by decide)
    rw [List.cons_append, stripLeadingZeros, if_neg (by simp [h0]), hc, ih hr, List.cons_append]

/-- In front of a character that is no digit it does not matter what was kept. -/
theorem stripLeadingZeros_congr (ht : ∀ d ∈ t.head?, d.isDigit = false) :
    stripLeadingZeros true t = stripLeadingZeros false t := by
  cases t with
  | nil => rfl
  | cons d t =>
    have h0 : d ≠ '0' := by
      rintro rfl
      exact absurd (ht '0' rfl) (by decide)
    rw [stripLeadingZeros, stripLeadingZeros, if_neg (by simp [h0]), if_neg (by simp [h0])]

theorem stripLeadingZeros_flatten (h : AreRuns rs) :
    stripLeadingZeros false rs.flatten = (rs.map fun r => written (meaning r)).flatten := by
  induction rs with
  | nil => rfl
  | cons r rs ih =>
    have hrest : AreRuns rs := ⟨fun hmem => h.filled (.tail r hmem), fun s hs => h.even s (.tail r hs), h.apart.tail⟩
    have hne : r ≠ [] := fun he => h.filled (he ▸ List.mem_cons_self)
    have heven := h.even r List.mem_cons_self
    rw [List.flatten_cons, List.map_cons, List.flatten_cons, ← ih hrest, meaning]
    cases hn : isNumber r with
    | false => exact stripLeadingZeros_text (fun c hc => (heven c hc).trans hn) _
    | true =>
      have hhead : ∀ d ∈ rs.flatten.head?, d.isDigit = false := by
        intro d hd
        cases rs with
        | nil => simp at hd
        | cons s rs =>
          have hs : isNumber s = false := by
            have := (List.isChain_cons_cons.1 h.apart).1
            rwa [hn, ne_comm, ne_eq, Bool.not_eq_true] at this
          obtain ⟨e, s, rfl⟩ := List.exists_cons_of_ne_nil fun he : s = [] => hrest.filled (he ▸ List.mem_cons_self)
          rw [List.flatten_cons, List.cons_append, List.head?_cons, Option.mem_some_iff] at hd
          subst hd
          exact (hrest.even _ List.mem_cons_self _ List.mem_cons_self).trans hs
      rw [stripLeadingZeros_number hne (fun c hc => (heven c hc).trans hn) hhead, stripLeadingZeros_congr hhead]
      rfl

/-- The runs of what is stripped are the runs of the text, with numbers written by their numerals. -/
theorem runs_stripLeadingZeros (t : List Char) :
    runs (stripLeadingZeros false t) = (runs t).map fun r => written (meaning r) :=
  runs_eq_iff.2 ⟨by rw [← stripLeadingZeros_flatten (areRuns_runs t), flatten_runs], (areRuns_runs t).written⟩

/-- To strip a text of leading zeros writes for every run of digits the decimal numeral of its value, and keeps the other
runs. What is stripped stays as it is, and two texts come to the same if and only if their runs mean the same. -/
theorem stripLeadingZeros_numerals (t : List Char) :
    ((runs t).flatten = t ∧ AreRuns (runs t)) ∧
    stripLeadingZeros false t = ((runs t).map meaning).flatMap written ∧
    stripLeadingZeros false (stripLeadingZeros false t) = stripLeadingZeros false t ∧
    ∀ u, stripLeadingZeros false t = stripLeadingZeros false u ↔ (runs t).map meaning = (runs u).map meaning := by
  have hstrip : ∀ t, stripLeadingZeros false t = ((runs t).map meaning).flatMap written := fun t => by
    rw [List.flatMap_map, List.flatMap_def, ← stripLeadingZeros_flatten (areRuns_runs t), flatten_runs]
  have hmeaning : ∀ t, (runs (stripLeadingZeros false t)).map meaning = (runs t).map meaning := fun t => by
    rw [runs_stripLeadingZeros, List.map_map]
    exact List.map_congr_left fun r _ => meaning_written r
  refine ⟨runs_eq_iff.1 rfl, hstrip t, ?_, fun u => ⟨fun h => ?_, fun h => ?_⟩⟩
  · rw [hstrip (stripLeadingZeros false t), hmeaning, ← hstrip]
  · rw [← hmeaning t, h, hmeaning]
  · rw [hstrip t, h, ← hstrip]

example : stripLeadingZeros false "v000-0120".toList = "v0-120".toList := by decide

end FileIndex.Projection
