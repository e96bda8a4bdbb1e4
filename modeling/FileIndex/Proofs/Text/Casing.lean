/-
Upper case and decomposition. A character and its upper case come to the same decomposed text in upper case
(`cased_cased`), marks stay what they are and composites are in upper case what their parts are (`keepsMarks_cased`), all
but for the iota subscript, a mark whose upper case is a letter. This is checked for one character after another
(`casingChecked`).
-/
import FileIndex.Proofs.Text.Composing
import FileIndex.Proofs.Text.Seek
import FileIndex.Proofs.Text.Tables

namespace FileIndex.Text

variable {a b c d p : Char}

/-- The decomposition of the upper case of a character. -/
def cased (c : Char) : List Char := (uppercase c).flatMap decompose

/-! ## What is checked of the tables -/

namespace Seek

/-- The code points of the decomposition of the upper case of a code point. -/
def cased (n : Nat) : List Nat := (uppercased n).flatMap decomposed

theorem cased_toNat (c : Char) : cased c.toNat = (Text.cased c).map Char.toNat := by
  rw [cased, uppercased_toNat, flatMap_map_toNat decomposed_toNat, Text.cased]

/-- Whether a code point and its upper case come to the same text in upper case, and the upper case has no iota subscript. -/
def agrees (n : Nat) : Bool := (cased n).flatMap cased == (decomposed n).flatMap cased && !(cased n).contains 0x345

/-- The members of a run that have an upper case. -/
def members (r : Nat) : List Nat :=
  let step := r / rowBase / rowBase % rowBase
  (List.range ((r / rowBase % rowBase - r % rowBase) / step + 1)).map fun i => r % rowBase + i * step

theorem mem_members {n r : Nat} (h1 : r % rowBase ≤ n) (h2 : n ≤ r / rowBase % rowBase)
    (h3 : (n - r % rowBase) % (r / rowBase / rowBase % rowBase) = 0) : n ∈ members r := by
  refine List.mem_map.2 ⟨(n - r % rowBase) / (r / rowBase / rowBase % rowBase), List.mem_range.2 ?_, ?_⟩
  · exact Nat.lt_succ_of_le (Nat.div_le_div_right (by omega))
  · rw [Nat.div_mul_cancel (Nat.dvd_of_mod_eq_zero h3)]
    omega

/-- Whether what a row joins has the upper case of the two parts. -/
def joinsCased (r : Nat) : Bool :=
  r % rowBase == 0x345 || cased (code (r / pairBase)) == cased (rowFirst r) ++ cased (r % rowBase)

/-- Whether a mark of a class is in upper case and decomposes to itself or to marks of its class. -/
def isPlainMark (k n : Nat) : Bool :=
  n == 0x345 || uppercased n == [n] && (decomposed n).all fun d => d == n || classOf d == k

/-- What is checked of single code points, and which of them no row is about. -/
@[mk_iff]
structure CasingChecked : Prop where
  ascii : (List.range 0x80).all agrees = true
  texts : Text.uppercaseTexts.toList.all (fun r => agrees (r % rowBase)) = true
  runs : Text.uppercaseRuns.toList.all (fun r => (members r).all agrees) = true
  composites : Text.composites.toList.all joinsCased = true
  marks : Text.markRuns.toList.all (fun r => (List.range (r / rowBase % rowBase + 1 - r % rowBase)).all fun i =>
    isPlainMark (r / rowBase / rowBase) (r % rowBase + i)) = true
  hangulTexts : ∀ r ∈ Text.uppercaseTexts.toList, r % rowBase < 0x1100 ∨ 0x11FF < r % rowBase ∧
    (r % rowBase < 0xAC00 ∨ 0xD7A3 < r % rowBase)
  hangulRuns : ∀ r ∈ Text.uppercaseRuns.toList, r / rowBase % rowBase < 0x1100 ∨ 0x11FF < r % rowBase ∧
    (r / rowBase % rowBase < 0xAC00 ∨ 0xD7A3 < r % rowBase)
  hangulRows : Decomposition.rowList.all (fun r => !within 0x1100 0x11FF (r % rowBase)) = true

theorem casingChecked : CasingChecked := by
  rw [casingChecked_iff]
  decide +kernel

end Seek

/-! ## Which characters have an upper case -/

/-- Where the upper case of a character stands: nowhere, among the letters of the first block, in a row of a text, or in
a run. -/
theorem uppercase_cases (c : Char) : uppercase c = [c] ∨ (c.toNat < 0x80 ∧ uppercase c = [c.toUpper]) ∨
    (∃ r ∈ uppercaseTexts.toList, r % rowBase = c.toNat ∧ uppercase c = rowText r) ∨
    ∃ r ∈ uppercaseRuns.toList, c.toNat ∈ Seek.members r ∧ r % rowBase ≤ c.toNat ∧ c.toNat ≤ r / rowBase % rowBase ∧
      uppercase c = [Char.ofNat (c.toNat - r % rowBase + r / rowBase / rowBase / rowBase)] := by
  rw [uppercase]
  split
  · rename_i h
    exact .inr (.inl ⟨h, rfl⟩)
  cases htext : findRow? uppercaseTexts c.toNat with
  | some text =>
    obtain ⟨r, hr, hc, rfl⟩ := (tablesOrdered).uppercaseTexts.findRow?_eq_some_iff.1 htext
    exact .inr (.inr (.inl ⟨r, hr, hc, rfl⟩))
  | none =>
    rw [uppercaseOne?]
    cases hrun : lastRow? uppercaseRuns c.toNat with
    | none => exact .inl rfl
    | some r =>
      obtain ⟨hr, hfirst, -⟩ := (tablesOrdered).uppercaseRuns.lastRow?_eq_some_iff.1 hrun
      simp only [Option.bind_eq_bind, Option.bind_some]
      split
      · rename_i h
        rw [Bool.and_eq_true, decide_eq_true_eq, beq_iff_eq] at h
        exact .inr (.inr (.inr ⟨r, hr, Seek.mem_members hfirst h.1 h.2, hfirst, h.1, rfl⟩))
      · exact .inl rfl

/-- **A character and its upper case come to the same text in upper case.** -/
theorem cased_cased (c : Char) : (cased c).flatMap cased = (decompose c).flatMap cased ∧
    ('\u0345' ∈ cased c → '\u0345' ∈ decompose c) := by
  have hagrees : ∀ n, c.toNat = n → Seek.agrees n = true → (cased c).flatMap cased = (decompose c).flatMap cased ∧
      ('\u0345' ∈ cased c → '\u0345' ∈ decompose c) := by
    rintro n rfl h
    rw [Seek.agrees, Bool.and_eq_true, beq_iff_eq, Seek.cased_toNat, Seek.decomposed_toNat,
      Seek.flatMap_map_toNat Seek.cased_toNat, Seek.flatMap_map_toNat Seek.cased_toNat, Seek.map_toNat_inj,
      Bool.not_eq_true', Bool.eq_false_iff, Ne, List.contains_iff_mem] at h
    exact ⟨h.1, fun hmem => absurd (List.mem_map_of_mem (f := Char.toNat) hmem) h.2⟩
  rcases uppercase_cases c with h | ⟨h, -⟩ | ⟨r, hr, hc, -⟩ | ⟨r, hr, hc, -⟩
  · rw [cased, h, List.flatMap_singleton]
    exact ⟨rfl, id⟩
  · exact hagrees _ rfl (List.all_eq_true.1 (Seek.casingChecked).ascii _ (List.mem_range.2 h))
  · exact hagrees _ hc.symm (List.all_eq_true.1 (Seek.casingChecked).texts r hr)
  · exact hagrees _ rfl (List.all_eq_true.1 (List.all_eq_true.1 (Seek.casingChecked).runs r hr) _ hc)

/-! ## Composites -/

/-- Consonants, vowels and syllables have no upper case. -/
theorem uppercase_of_hangul (h : 0x1100 ≤ c.toNat ∧ c.toNat ≤ 0x11FF ∨ 0xAC00 ≤ c.toNat ∧ c.toNat ≤ 0xD7A3) :
    uppercase c = [c] := by
  refine uppercase_of_no_row (by omega) (fun r hr => ?_) fun r hr => ?_
  · have := (Seek.casingChecked).hangulTexts r hr
    omega
  · have := (Seek.casingChecked).hangulRuns r hr
    omega

theorem decompose_of_jamo (h1 : 0x1100 ≤ c.toNat) (h2 : c.toNat ≤ 0x11FF) : decompose c = [c] := by
  have hrow : findRow? Decomposition.rows c.toNat = none :=
    (tablesOrdered).decompositions.findRow?_eq_none fun r hr => by
      have := List.all_eq_true.1 (Seek.casingChecked).hangulRows r (Decomposition.rows_toList ▸ hr)
      rw [Bool.not_eq_true', within_eq_false] at this
      omega
  rw [decompose, if_neg (by omega), Hangul.parts?_eq_none (by omega), hrow]
  rfl

theorem Hangul.parts?_of_open {i j : Nat} (hi : i < 19) (hj : j < 21) :
    parts? (0xAC00 + (i * 21 + j) * 28) = some [Char.ofNat (0x1100 + i), Char.ofNat (0x1161 + j)] := by
  have h1 : (i * 21 + j) * 28 / 588 = i := by omega
  have h2 : (i * 21 + j) * 28 % 588 / 28 = j := by omega
  have h3 : (i * 21 + j) * 28 % 28 = 0 := by omega
  rw [parts?, if_pos (by simp only [syllableBase, syllables, vowels, trails]; omega)]
  simp only [syllableBase, vowels, trails, leadBase, vowelBase, Nat.add_sub_cancel_left, h1, h2, h3, if_true]

theorem Hangul.parts?_of_closed {i j k : Nat} (hi : i < 19) (hj : j < 21) (h0 : 0 < k) (hk : k < 28) :
    parts? (0xAC00 + (i * 21 + j) * 28 + k) =
      some [Char.ofNat (0x1100 + i), Char.ofNat (0x1161 + j), Char.ofNat (0x11A7 + k)] := by
  have h1 : ((i * 21 + j) * 28 + k) / 588 = i := by omega
  have h2 : ((i * 21 + j) * 28 + k) % 588 / 28 = j := by omega
  have h3 : ((i * 21 + j) * 28 + k) % 28 = k := by omega
  rw [parts?, if_pos (by simp only [syllableBase, syllables, vowels, trails]; omega), Nat.add_assoc]
  simp only [syllableBase, vowels, trails, leadBase, vowelBase, trailBase, Nat.add_sub_cancel_left, h1, h2, h3]
  rw [if_neg (by omega)]

theorem decompose_of_parts {parts : List Char} (h : 0xA0 ≤ c.toNat) (hp : Hangul.parts? c.toNat = some parts) :
    decompose c = parts := by
  rw [decompose, if_neg (by omega), hp]

/-- A syllable decomposes to what it is joined from. -/
theorem Hangul.cased_join? (h : Hangul.join? a.toNat b.toNat = some p) : cased p = cased a ++ cased b := by
  have hcased : ∀ {c : Char}, (0x1100 ≤ c.toNat ∧ c.toNat ≤ 0x11FF ∨ 0xAC00 ≤ c.toNat ∧ c.toNat ≤ 0xD7A3) →
      cased c = decompose c := fun h => by rw [cased, uppercase_of_hangul h, List.flatMap_singleton]
  rw [Hangul.join?] at h
  split at h
  · rename_i hopen
    simp only [leadBase, vowelBase, vowels] at hopen
    obtain ⟨i, hi⟩ := Nat.exists_eq_add_of_le hopen.1
    obtain ⟨j, hj⟩ := Nat.exists_eq_add_of_le hopen.2.2.1
    have hp : p.toNat = 0xAC00 + (i * 21 + j) * 28 := by
      rw [← Option.some.inj h, hi, hj]
      simp only [leadBase, vowelBase, vowels, syllableBase, trails, Nat.add_sub_cancel_left]
      exact toNat_ofNat (.inl (by omega))
    have hparts : decompose p = [a, b] := by
      rw [decompose_of_parts (by omega) (hp ▸ parts?_of_open (i := i) (j := j) (by omega) (by omega)), ← hi, ← hj,
        Char.ofNat_toNat, Char.ofNat_toNat]
    rw [hcased (c := p) (.inr (by omega)), hcased (c := a) (.inl (by omega)), hcased (c := b) (.inl (by omega)), hparts,
      decompose_of_jamo (c := a) (by omega) (by omega), decompose_of_jamo (c := b) (by omega) (by omega)]
    rfl
  · split at h
    · rename_i hclosed
      simp only [syllableBase, syllables, vowels, trails, trailBase] at hclosed
      obtain ⟨s, hs⟩ := Nat.exists_eq_add_of_le hclosed.1
      obtain ⟨k, hk⟩ := Nat.exists_eq_add_of_le (Nat.le_of_lt hclosed.2.2.2.1)
      obtain ⟨i, j, hi, hj, hij⟩ : ∃ i j, i < 19 ∧ j < 21 ∧ s = (i * 21 + j) * 28 :=
        ⟨s / 588, s % 588 / 28, by omega, by omega, by omega⟩
      subst hij
      have hp : p.toNat = 0xAC00 + (i * 21 + j) * 28 + k := by
        rw [← Option.some.inj h, hs, hk]
        simp only [trailBase, Nat.add_sub_cancel_left]
        exact toNat_ofNat (.inl (by omega))
      rw [hcased (c := p) (.inr (by omega)), hcased (c := a) (.inr (by omega)), hcased (c := b) (.inl (by omega)),
        decompose_of_parts (c := a) (by omega) (hs ▸ parts?_of_open hi hj), decompose_of_jamo (c := b) (by omega) (by omega),
        decompose_of_parts (c := p) (by omega) (hp ▸ parts?_of_closed hi hj (by omega) (by omega)), ← hk, Char.ofNat_toNat]
      rfl
    · cases h

/-- A composite has the upper case of the pair that it is joined from. -/
theorem cased_join? (h : join? a b = some p) (hb : b ≠ '\u0345') : cased p = cased a ++ cased b := by
  rw [join?] at h
  split at h
  · rename_i q hq
    exact Hangul.cased_join? (hq.trans h)
  · obtain ⟨r, hr, hpair, rfl⟩ := composite?_eq_some_iff.1 h
    obtain ⟨ha, hb'⟩ := row_pair hpair
    have hrow := List.all_eq_true.1 (Seek.casingChecked).composites r hr
    rw [Seek.joinsCased, ha, hb', Bool.or_eq_true, beq_iff_eq, beq_iff_eq, ← toNat_ofNat_eq_code, Seek.cased_toNat,
      Seek.cased_toNat, Seek.cased_toNat, ← List.map_append, Seek.map_toNat_inj] at hrow
    exact hrow.resolve_left fun h => hb (char_ext h)

/-- Upper case keeps marks, except for the iota subscript. -/
theorem keepsMarks_cased : KeepsMarks cased '\u0345' where
  mark c hc hne d hd := by
    obtain ⟨r, hr, hfirst, hlast, hclass⟩ := exists_markRun hc
    have hplain := List.all_eq_true.1 (List.all_eq_true.1 (Seek.casingChecked).marks r hr) (c.toNat - r % rowBase)
      (List.mem_range.2 (by omega))
    rw [Nat.add_sub_cancel' hfirst, ← hclass, Seek.isPlainMark, Bool.or_eq_true, beq_iff_eq, Bool.and_eq_true, beq_iff_eq,
      Seek.uppercased_toNat, Seek.decomposed_toNat] at hplain
    obtain ⟨hupper, hdec⟩ := hplain.resolve_left fun h => hne (char_ext h)
    rw [cased, Seek.map_toNat_inj (t := [c]).1 hupper, List.flatMap_singleton] at hd
    have := List.all_eq_true.1 hdec _ (List.mem_map_of_mem hd)
    rw [Bool.or_eq_true, beq_iff_eq, beq_iff_eq, Seek.classOf_toNat] at this
    exact this.elim (fun h => congrArg combiningClass (char_ext h)) id
  join a b p h hb := cased_join? h hb

end FileIndex.Text
