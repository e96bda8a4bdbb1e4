/-
Look-ups that evaluate fast. The halves of a table are closures of each other (`seek`), and what they find for a code point
is what a binary search finds (`Seek.decomposed_toNat`, `Seek.uppercased_toNat`, `Seek.classOf_toNat`). What is to be checked
of single characters is checked on these.
-/
import FileIndex.Proofs.Text.Tables

namespace FileIndex.Text

variable {rows : Array Nat} {l m : List Nat} {depth c n r : Nat} {best : Option Nat}

/-! ## Halves of a table -/

/-- The search in the first `2 ^ depth - 1` rows of a table, and the other rows. The search gives the last row that is
not above a key, or what it is told if there is none. -/
def seek : Nat → List Nat → (Nat → Option Nat → Option Nat) × List Nat
  | 0, l => (fun _ best => best, l)
  | depth + 1, l =>
    match seek depth l with
    | (left, []) => (left, [])
    | (left, r :: l) =>
      match seek depth l with
      | (right, l) => (fun c best => bif Nat.ble (r % rowBase) c then right c (some r) else left c best, l)

/-- The last of some rows that is not above a key. -/
def lastOf (l : List Nat) (c : Nat) : Option Nat := (l.filter fun r => r % rowBase ≤ c).getLast?

theorem lastOf_append_cons (h : (l ++ r :: m).Pairwise fun a b => a % rowBase < b % rowBase) :
    (lastOf (l ++ r :: m) c).or best =
      if r % rowBase ≤ c then (lastOf m c).or (some r) else (lastOf l c).or best := by
  obtain ⟨-, hm, -⟩ := List.pairwise_append.1 h
  have hr := (List.pairwise_cons.1 hm).1
  rw [lastOf, List.filter_append]
  split
  · rename_i hc
    rw [List.filter_cons_of_pos (by simpa using hc), List.getLast?_append, List.getLast?_cons, lastOf]
    cases (m.filter fun r => decide (r % rowBase ≤ c)).getLast? <;> rfl
  · rename_i hc
    have hnone : (r :: m).filter (fun r => decide (r % rowBase ≤ c)) = [] := by
      rw [List.filter_eq_nil_iff]
      intro e he
      rcases List.mem_cons.1 he with rfl | he
      · simpa using hc
      · have := hr e he
        simp
        omega
    rw [hnone, List.append_nil, lastOf]

theorem seek_spec (depth : Nat) (h : l.Pairwise fun a b => a % rowBase < b % rowBase) :
    ∃ m, m ++ (seek depth l).2 = l ∧ ((seek depth l).2 = [] ∨ m.length + 1 = 2 ^ depth) ∧
      ∀ c best, (seek depth l).1 c best = (lastOf m c).or best := by
  induction depth generalizing l with
  | zero => exact ⟨[], rfl, .inr rfl, fun _ _ => rfl⟩
  | succ depth ih =>
    obtain ⟨x, hx, hsize, hleft⟩ := ih h
    rw [seek]
    rcases hs : seek depth l with ⟨left, _ | ⟨r, rest⟩⟩
    · rw [hs] at hx hleft
      exact ⟨x, hx, .inl rfl, hleft⟩
    · rw [hs] at hx hleft hsize
      subst hx
      obtain ⟨y, hy, hsize', hright⟩ := ih (List.pairwise_cons.1 (List.pairwise_append.1 h).2.1).2
      refine ⟨x ++ r :: y, by simp [hy], ?_, fun c best => ?_⟩
      · refine hsize'.imp_right fun hy => ?_
        have hx := hsize.resolve_left (List.cons_ne_nil _ _)
        simp only [List.length_append, List.length_cons, Nat.pow_succ]
        omega
      · have hsub : (x ++ r :: y).Pairwise fun a b => a % rowBase < b % rowBase := by
          rw [← hy, ← List.cons_append, ← List.append_assoc] at h
          exact (List.pairwise_append.1 h).1
        rw [lastOf_append_cons hsub, ← hleft, ← hright]
        change (bif Nat.ble (r % rowBase) c then (seek depth rest).1 c (some r) else left c best) = _
        by_cases hr : r % rowBase ≤ c
        · rw [if_pos hr, Nat.ble_eq_true_of_le hr, cond_true]
        · rw [if_neg hr, Bool.eq_false_iff.2 fun hble => hr (Nat.le_of_ble_eq_true hble), cond_false]

theorem IsTable.lastRow?_eq_lastOf (h : IsTable (· % rowBase) depth rows) : lastRow? rows c = lastOf rows.toList c := by
  ext r
  have hpairs := pairwise_of_ascending h.ascending
  rw [h.lastRow?_eq_some_iff, lastOf]
  constructor
  · rintro ⟨hr, hc, hlast⟩
    obtain ⟨x, y, hxy⟩ := List.append_of_mem hr
    rw [hxy] at hpairs hlast ⊢
    have hy : y.filter (fun r => decide (r % rowBase ≤ c)) = [] := by
      rw [List.filter_eq_nil_iff]
      intro e he
      have hlt := (List.pairwise_cons.1 (List.pairwise_append.1 hpairs).2.1).1 e he
      rw [decide_eq_true_eq]
      exact fun hle => absurd (hlast e (by simp [he]) hle) (by omega)
    rw [List.filter_append, List.filter_cons_of_pos (by simpa using hc), hy, List.getLast?_concat]
  · intro hr
    obtain ⟨x, hx⟩ := List.getLast?_eq_some_iff.1 hr
    have hmem : ∀ e, e ∈ rows.toList ∧ e % rowBase ≤ c ↔ e ∈ x ∨ e = r := fun e => by
      rw [← List.mem_singleton, ← List.mem_append, ← hx, List.mem_filter, decide_eq_true_eq]
    have hsorted := hpairs.filter fun r => decide (r % rowBase ≤ c)
    rw [hx] at hsorted
    obtain ⟨hr, hc⟩ := (hmem r).2 (.inr rfl)
    refine ⟨hr, hc, fun e he hec => ?_⟩
    rcases (hmem e).1 ⟨he, hec⟩ with he | rfl
    · exact Nat.le_of_lt ((List.pairwise_append.1 hsorted).2.2 e he r (by simp))
    · exact Nat.le_refl _

/-- In a table the search finds what a look-up finds. -/
theorem IsTable.seek_eq_lastRow? (h : IsTable (· % rowBase) depth rows) (c : Nat) :
    (seek depth rows.toList).1 c none = lastRow? rows c := by
  obtain ⟨m, hm, hlen, hspec⟩ := seek_spec depth (pairwise_of_ascending h.ascending)
  have hrest : (seek depth rows.toList).2 = [] := by
    refine hlen.elim id fun hm2 => ?_
    have hsum := congrArg List.length hm
    rw [List.length_append] at hsum
    have := h.size
    exact List.eq_nil_of_length_eq_zero (by omega)
  rw [hrest, List.append_nil] at hm
  rw [hspec, h.lastRow?_eq_lastOf, hm, Option.or_none]

/-! ## Texts of rows -/

/-- The code point of the character that a number stands for. -/
def code (n : Nat) : Nat := bif Nat.blt n 0xD800 then n else bif within 0xE000 0x10FFFF n then n else 0

theorem toNat_ofNat_eq_code (n : Nat) : (Char.ofNat n).toNat = code n := by
  simp only [code, cond_eq_ite, Nat.blt_eq, within_iff]
  by_cases hn : n.isValidChar
  · rw [toNat_ofNat hn]
    split
    · rfl
    · rw [if_pos (by rcases hn with hn | hn <;> omega)]
  · rw [ofNat_of_not_valid hn, if_neg fun h => hn (.inl h), if_neg fun h => hn (.inr (by omega))]
    rfl

/-- The code points of a numeral that has no more digits than a number allows. -/
def codes : Nat → Nat → List Nat → List Nat
  | 0, _, acc => acc
  | count + 1, n, acc => bif Nat.beq n 0 then acc else codes count (n / rowBase) (code (n % rowBase) :: acc)

theorem codes_eq {count : Nat} (h : n < rowBase ^ count) (acc : List Nat) :
    codes count n (acc.map code) = (rowDigits n acc).map code := by
  induction count generalizing n acc with
  | zero =>
    rw [Nat.pow_zero] at h
    rw [codes, rowDigits, if_pos (by omega)]
  | succ count ih =>
    rw [codes, rowDigits]
    simp only [cond_eq_ite, Nat.beq_eq]
    split
    · rfl
    · rw [← ih (Nat.div_lt_of_lt_mul (by rwa [Nat.pow_succ, Nat.mul_comm] at h)), List.map_cons]

/-- The code points of the text that a search finds. -/
def seekText? (look : Nat → Option Nat → Option Nat) (c : Nat) : Option (List Nat) :=
  match look c none with
  | some row => bif Nat.beq (row % rowBase) c then some (codes 20 (row / rowBase) []) else none
  | none => none

theorem IsTable.seekText?_eq (h : IsTable (· % rowBase) depth rows) (c : Nat) :
    seekText? (seek depth rows.toList).1 c = (findRow? rows c).map (List.map Char.toNat) := by
  rw [seekText?, h.seek_eq_lastRow?, findRow?]
  cases hr : lastRow? rows c with
  | none => rfl
  | some row =>
    have hrow := Nat.blt_eq.mp (List.all_eq_true.1 h.short row (h.lastRow?_eq_some_iff.1 hr).1)
    have hcodes : codes 20 (row / rowBase) [] = ((rowDigits (row / rowBase) []).map Char.ofNat).map Char.toNat := by
      rw [List.map_map, funext (f := Char.toNat ∘ Char.ofNat) toNat_ofNat_eq_code]
      exact codes_eq (Nat.div_lt_of_lt_mul (by rwa [Nat.pow_succ, Nat.mul_comm] at hrow)) []
    simp only [hcodes, cond_eq_ite, Nat.beq_eq, Option.bind_eq_bind, Option.bind_some]
    split <;> rfl

namespace Seek

/-! ## The tables -/

/-- The search for a decomposition. -/
def decompositions : Nat → Option Nat → Option Nat := (seek 13 Decomposition.rowList).1

/-- The search for an upper case that is a text. -/
def uppercaseTexts : Nat → Option Nat → Option Nat := (seek 7 Text.uppercaseTexts.toList).1

/-- The search for a run of characters that have an upper case. -/
def uppercaseRuns : Nat → Option Nat → Option Nat := (seek 8 Text.uppercaseRuns.toList).1

/-- The search for a run of marks. -/
def markRuns : Nat → Option Nat → Option Nat := (seek 9 Text.markRuns.toList).1

/-- The code points that a code point decomposes to. -/
def decomposed (n : Nat) : List Nat :=
  bif Nat.blt n 0xA0 then [n]
  else match Hangul.parts? n with
    | some parts => parts.map Char.toNat
    | none => (seekText? decompositions n).getD [n]

theorem decomposed_toNat (c : Char) : decomposed c.toNat = (decompose c).map Char.toNat := by
  rw [decomposed, decompose, decompositions, ← Decomposition.rows_toList, (tablesOrdered).decompositions.seekText?_eq]
  simp only [cond_eq_ite, Nat.blt_eq]
  split
  · rfl
  · cases Hangul.parts? c.toNat with
    | some parts => rfl
    | none => cases findRow? Decomposition.rows c.toNat <;> rfl

/-- The code points of the upper case of a code point. -/
def uppercased (n : Nat) : List Nat :=
  bif Nat.blt n 0x80 then [(Char.ofNat n).toUpper.toNat]
  else match seekText? uppercaseTexts n with
    | some text => text
    | none => match uppercaseRuns n none with
      | none => [n]
      | some row =>
        let first := row % rowBase
        bif Nat.ble n (row / rowBase % rowBase) && Nat.beq ((n - first) % (row / rowBase / rowBase % rowBase)) 0 then
          [code (n - first + row / rowBase / rowBase / rowBase)]
        else [n]

theorem uppercased_toNat (c : Char) : uppercased c.toNat = (uppercase c).map Char.toNat := by
  rw [uppercased, uppercaseTexts, (tablesOrdered).uppercaseTexts.seekText?_eq, uppercaseRuns,
    (tablesOrdered).uppercaseRuns.seek_eq_lastRow?, uppercase, uppercaseOne?]
  simp only [cond_eq_ite, Nat.blt_eq, Nat.ble_eq, Nat.beq_eq, Bool.and_eq_true, decide_eq_true_eq, beq_iff_eq,
    Char.ofNat_toNat, ← toNat_ofNat_eq_code]
  split
  · rfl
  cases findRow? Text.uppercaseTexts c.toNat with
  | some text => rfl
  | none =>
    cases lastRow? Text.uppercaseRuns c.toNat with
    | none => rfl
    | some row =>
      simp only [Option.bind_eq_bind, Option.bind_some, Option.map_none]
      split <;> rfl

/-- The combining class of a code point. -/
def classOf (n : Nat) : Nat :=
  bif Nat.blt n 0x300 then 0
  else match markRuns n none with
    | some row => bif Nat.ble n (row / rowBase % rowBase) then row / rowBase / rowBase else 0
    | none => 0

theorem classOf_toNat (c : Char) : classOf c.toNat = combiningClass c := by
  rw [classOf, markRuns, (tablesOrdered).markRuns.seek_eq_lastRow?, combiningClass]
  cases lastRow? Text.markRuns c.toNat <;> simp only [cond_eq_ite, Nat.blt_eq, Nat.ble_eq]

/-! ## Characters -/

theorem flatMap_map_toNat {f : Char → List Char} {g : Nat → List Nat} (h : ∀ c, g c.toNat = (f c).map Char.toNat)
    (t : List Char) : (t.map Char.toNat).flatMap g = (t.flatMap f).map Char.toNat := by
  rw [List.flatMap_map, List.map_flatMap]
  exact congrArg (t.flatMap ·) (funext h)

theorem map_toNat_inj {s t : List Char} : s.map Char.toNat = t.map Char.toNat ↔ s = t :=
  List.map_inj_right fun _ _ => char_ext

/-- The decomposition of a character. -/
def decompose (c : Char) : List Char := (decomposed c.toNat).map Char.ofNat

/-- The upper case of a character. -/
def uppercase (c : Char) : List Char := (uppercased c.toNat).map Char.ofNat

/-- The combining class of a character. -/
def combiningClass (c : Char) : Nat := classOf c.toNat

theorem map_ofNat_toNat (t : List Char) : (t.map Char.toNat).map Char.ofNat = t := by
  simp [Function.comp_def]

theorem decompose_eq (c : Char) : decompose c = Text.decompose c := by rw [decompose, decomposed_toNat, map_ofNat_toNat]

theorem uppercase_eq (c : Char) : uppercase c = Text.uppercase c := by rw [uppercase, uppercased_toNat, map_ofNat_toNat]

theorem combiningClass_eq (c : Char) : combiningClass c = Text.combiningClass c := classOf_toNat c

end Seek

end FileIndex.Text
