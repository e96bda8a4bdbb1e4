/-
Tables by their rows. A binary search in an ascending table finds where a bound lies (`lt_partitionPoint_iff`), so that
what a look-up gives can be told from the rows alone: decompositions (`findRow?_eq_some_iff`), composites
(`composite?_eq_some_iff`), combining classes (`exists_markRun`) and upper case (`uppercase_of_no_row`). Facts about
all characters are then facts about the rows, checked in one pass.
-/
import FileIndex.Projection.Basic
import Mathlib

namespace FileIndex.Text

theorem toNat_ofNat {n : Nat} (h : n.isValidChar) : (Char.ofNat n).toNat = n := by
  rw [Char.ofNat, dif_pos h]
  rfl

theorem ofNat_of_not_valid {n : Nat} (h : ¬n.isValidChar) : Char.ofNat n = '\x00' := dif_neg h

theorem char_ext {c d : Char} (h : c.toNat = d.toNat) : c = d := by rw [← Char.ofNat_toNat c, h, Char.ofNat_toNat]

/-- What a check finds of each member of a list holds of all of them. -/
theorem forall_mem_of_all {α : Type} {P : α → Prop} [DecidablePred P] {l : List α}
    (h : l.all (fun a => decide (P a)) = true) : ∀ a ∈ l, P a :=
  fun a ha => of_decide_eq_true (List.all_eq_true.1 h a ha)

/-- Whether a number lies between two others. -/
def within (first last n : Nat) : Bool := Nat.ble first n && Nat.ble n last

@[simp] theorem within_iff {first last n : Nat} : within first last n = true ↔ first ≤ n ∧ n ≤ last := by simp [within]

@[simp] theorem within_eq_false {first last n : Nat} : within first last n = false ↔ n < first ∨ last < n := by
  rw [← Bool.not_eq_true, within_iff]
  omega

/-! ## Binary search -/

section Search

variable {α : Type} {a : Array α} {p : α → Bool} {lo hi i : Nat}

theorem partitionPoint.go_spec (hmono : ∀ i j (hj : j < a.size) (hij : i ≤ j), p a[j] = true → p a[i] = true)
    (h : hi ≤ a.size) (hle : lo ≤ hi) (hlo : ∀ i (hi : i < a.size), i < lo → p a[i] = true)
    (hhi : ∀ i (hb : i < a.size), hi ≤ i → p a[i] = false) :
    go a p lo hi h ≤ a.size ∧ ∀ i (hb : i < a.size), p a[i] = true ↔ i < go a p lo hi h := by
  fun_induction go a p lo hi h with
  | case1 lo hi h hlt hm hp ih =>
    refine ih (by omega) (fun i hb hi => ?_) hhi
    exact hmono i _ hm (by omega) hp
  | case2 lo hi h hlt hm hp ih =>
    refine ih (by omega) hlo fun i hb hi => ?_
    rw [← Bool.not_eq_true]
    exact fun hpi => hp (hmono _ i hb (by omega) hpi)
  | case3 lo hi h hlt =>
    refine ⟨by omega, fun i hb => ⟨fun hp => ?_, hlo i hb⟩⟩
    rcases Nat.lt_or_ge i lo with hi | hi
    · exact hi
    · rw [hhi i hb (by omega)] at hp
      cases hp

/-- What holds on a leading part of an array holds in front of the partition point and nowhere else. -/
theorem lt_partitionPoint_iff (hmono : ∀ i j (hj : j < a.size) (hij : i ≤ j), p a[j] = true → p a[i] = true) :
    partitionPoint a p ≤ a.size ∧ ∀ i (hb : i < a.size), p a[i] = true ↔ i < partitionPoint a p :=
  partitionPoint.go_spec hmono _ (Nat.zero_le _) (fun _ _ h => absurd h (Nat.not_lt_zero _))
    fun _ hb h => absurd hb (by omega)

end Search

/-! ## Ascending tables -/

/-- Whether the keys of a table ascend. -/
def ascending (key : Nat → Nat) : List Nat → Bool
  | a :: b :: rest => Nat.blt (key a) (key b) && ascending key (b :: rest)
  | _ => true

/-- An array that a binary search can find its way in: the keys of its rows ascend, its rows are fewer than `2 ^ depth`,
and none has more than 21 digits. -/
@[mk_iff]
structure IsTable (key : Nat → Nat) (depth : Nat) (rows : Array Nat) : Prop where
  ascending : ascending key rows.toList = true
  size : rows.toList.length < 2 ^ depth
  short : rows.toList.all (Nat.blt · (rowBase ^ 21)) = true

variable {rows : Array Nat} {key : Nat → Nat} {depth r c i j : Nat} {t : List Char}

theorem pairwise_of_ascending {l : List Nat} (h : ascending key l = true) : l.Pairwise fun a b => key a < key b := by
  induction l with
  | nil => exact .nil
  | cons a l ih =>
    cases l with
    | nil => exact List.pairwise_singleton _ _
    | cons b l =>
      rw [ascending, Bool.and_eq_true, Nat.blt_eq] at h
      have hb := ih h.2
      refine List.pairwise_cons.2 ⟨fun d hd => ?_, hb⟩
      rcases List.mem_cons.1 hd with rfl | hd
      · exact h.1
      · exact Nat.lt_trans h.1 ((List.pairwise_cons.1 hb).1 d hd)

theorem key_lt (h : ascending key rows.toList = true) (hj : j < rows.size) (hij : i < j) :
    key rows[i] < key rows[j] := by
  have := List.pairwise_iff_getElem.1 (pairwise_of_ascending h) i j (by simp; omega) (by simpa using hj) hij
  simpa using this

theorem IsTable.key_lt (h : IsTable key depth rows) (hj : j < rows.size) (hij : i < j) : key rows[i] < key rows[j] :=
  Text.key_lt h.ascending hj hij

theorem mem_rows (h : r ∈ rows.toList) : ∃ j, ∃ hj : j < rows.size, rows[j] = r := by
  obtain ⟨j, hj, rfl⟩ := List.mem_iff_getElem.1 h
  exact ⟨j, by simpa using hj, by simp⟩

/-- The first row that is not below a key is the row of that key, if there is one. -/
theorem IsTable.getElem?_partitionPoint (h : IsTable key depth rows) :
    rows[partitionPoint rows fun r => decide (key r < c)]? = some r ∧ key r = c ↔ r ∈ rows.toList ∧ key r = c := by
  obtain ⟨-, hpoint⟩ := lt_partitionPoint_iff (a := rows) (p := fun r => decide (key r < c)) fun i j hj hij hp => by
    rw [decide_eq_true_eq] at hp ⊢
    rcases Nat.eq_or_lt_of_le hij with rfl | hij
    · exact hp
    · exact Nat.lt_trans (h.key_lt hj hij) hp
  refine and_congr_left fun hr => ⟨fun hget => ?_, fun hmem => ?_⟩
  · exact Array.mem_toList_iff.2 (Array.mem_of_getElem? hget)
  · obtain ⟨j, hj, rfl⟩ := mem_rows hmem
    generalize partitionPoint rows (fun r => decide (key r < c)) = n at hpoint
    have hn : n ≤ j := by
      have : ¬j < n := fun hlt => by simpa [hr] using (hpoint j hj).2 hlt
      omega
    have hjn : j ≤ n := by
      rcases Nat.lt_or_ge n j with hlt | hge
      · have := (hpoint n (by omega)).1 (by simpa [hr] using h.key_lt hj hlt)
        omega
      · exact hge
    obtain rfl : n = j := by omega
    exact Array.getElem?_eq_getElem hj

/-- The last row at or below a bound has the largest key there. -/
theorem IsTable.lastRow?_eq_some_iff (h : IsTable (· % rowBase) depth rows) : lastRow? rows c = some r ↔
    r ∈ rows.toList ∧ r % rowBase ≤ c ∧ ∀ r' ∈ rows.toList, r' % rowBase ≤ c → r' % rowBase ≤ r % rowBase := by
  obtain ⟨hsize, hpoint⟩ := lt_partitionPoint_iff (a := rows) (p := (· % rowBase ≤ c)) fun i j hj hij hp => by
    rw [decide_eq_true_eq] at hp ⊢
    rcases Nat.eq_or_lt_of_le hij with rfl | hij
    · exact hp
    · exact Nat.le_trans (Nat.le_of_lt (h.key_lt hj hij)) hp
  simp only [decide_eq_true_eq] at hpoint
  rw [lastRow?]
  generalize partitionPoint rows (· % rowBase ≤ c) = n at hsize hpoint
  constructor
  · intro hget
    cases n with
    | zero => cases hget
    | succ n =>
      have hn : n < rows.size := by omega
      obtain rfl : rows[n] = r := Option.some.inj ((Array.getElem?_eq_getElem hn).symm.trans hget)
      refine ⟨by simp, (hpoint n hn).2 (by omega), fun r' hr' hle => ?_⟩
      obtain ⟨i, hi, rfl⟩ := mem_rows hr'
      rcases Nat.lt_or_ge i n with hlt | hge
      · exact Nat.le_of_lt (h.key_lt hn hlt)
      · have := (hpoint i hi).1 hle
        obtain rfl : i = n := by omega
        exact Nat.le_refl _
  · rintro ⟨hmem, hle, hlast⟩
    obtain ⟨j, hj, rfl⟩ := mem_rows hmem
    have hjn := (hpoint j hj).1 hle
    cases n with
    | zero => omega
    | succ n =>
      have hn : n < rows.size := by omega
      rcases Nat.lt_or_ge j n with hlt | hge
      · have := hlast rows[n] (by simp) ((hpoint n hn).2 (by omega))
        exact absurd (h.key_lt hn hlt) (by omega)
      · obtain rfl : n = j := by omega
        exact Array.getElem?_eq_getElem hn

/-- The text that a row holds. -/
def rowText (r : Nat) : List Char := (rowDigits (r / rowBase) []).map Char.ofNat

/-- Whether all digits of a numeral pass a test, of which there are no more than a number allows. -/
def allDigits (test : Nat → Bool) : Nat → Nat → Bool
  | 0, n => Nat.beq n 0
  | count + 1, n => bif Nat.beq n 0 then true else test (n % rowBase) && allDigits test count (n / rowBase)

theorem of_mem_rowDigits {test : Nat → Bool} {count n d : Nat} {acc : List Nat} (h : allDigits test count n = true)
    (hacc : ∀ d ∈ acc, test d = true) (hd : d ∈ rowDigits n acc) : test d = true := by
  induction count generalizing n acc with
  | zero =>
    rw [rowDigits, if_pos (Nat.eq_of_beq_eq_true h)] at hd
    exact hacc d hd
  | succ count ih =>
    rw [rowDigits] at hd
    split at hd
    · exact hacc d hd
    · rename_i hn
      rw [allDigits, Bool.eq_false_iff.2 fun h0 => hn (Nat.eq_of_beq_eq_true h0), cond_false, Bool.and_eq_true] at h
      obtain ⟨htest, hrest⟩ := h
      exact ih hrest (List.forall_mem_cons.2 ⟨htest, hacc⟩) hd

theorem IsTable.findRow?_eq_some_iff (h : IsTable (· % rowBase) depth rows) :
    findRow? rows c = some t ↔ ∃ r ∈ rows.toList, r % rowBase = c ∧ rowText r = t := by
  rw [findRow?]
  constructor
  · intro hfind
    obtain ⟨r, hr, hfind⟩ := Option.bind_eq_some_iff.1 hfind
    split at hfind
    · rename_i hc
      exact ⟨r, (h.lastRow?_eq_some_iff.1 hr).1, hc, Option.some.inj hfind⟩
    · cases hfind
  · rintro ⟨r, hr, rfl, rfl⟩
    rw [h.lastRow?_eq_some_iff.2 ⟨hr, Nat.le_refl _, fun _ _ hle => hle⟩]
    simp [rowText]

theorem IsTable.findRow?_eq_none (h : IsTable (· % rowBase) depth rows) (hc : ∀ r ∈ rows.toList, r % rowBase ≠ c) :
    findRow? rows c = none :=
  Option.eq_none_iff_forall_ne_some.2 fun _ ht =>
    have ⟨r, hr, hrc, _⟩ := h.findRow?_eq_some_iff.1 ht
    hc r hr hrc

/-- A look-up passes through the rows. -/
theorem IsTable.findRow?_eq_find? (h : IsTable (· % rowBase) depth rows) (c : Nat) :
    findRow? rows c = (rows.toList.find? fun r => r % rowBase == c).map rowText := by
  cases hr : rows.toList.find? fun r => r % rowBase == c with
  | none => exact h.findRow?_eq_none fun r hr' => by simpa using List.find?_eq_none.1 hr r hr'
  | some r =>
    have hc : r % rowBase = c := by simpa using List.find?_some hr
    exact h.findRow?_eq_some_iff.2 ⟨r, List.mem_of_find?_eq_some hr, hc, rfl⟩

/-- A member of a set of code points lies between a bound at an even place and the next one. -/
theorem CodeSet.exists_of_contains {s : CodeSet} {c : Nat} (hs : ascending id s.bounds.toList = true)
    (heven : s.bounds.size % 2 = 0) (h : s.contains c = true) :
    ∃ i, ∃ hi : 2 * i + 1 < s.bounds.size, s.bounds[2 * i] ≤ c ∧ c < s.bounds[2 * i + 1] := by
  obtain ⟨hsize, hpoint⟩ := lt_partitionPoint_iff (a := s.bounds) (p := (· ≤ c)) fun i j hj hij hp => by
    rw [decide_eq_true_eq] at hp ⊢
    rcases Nat.eq_or_lt_of_le hij with rfl | hij
    · exact hp
    · exact Nat.le_trans (Nat.le_of_lt (key_lt hs hj hij)) hp
  simp only [decide_eq_true_eq] at hpoint
  rw [contains, decide_eq_true_eq] at h
  generalize partitionPoint s.bounds (· ≤ c) = n at *
  refine ⟨n / 2, by omega, (hpoint _ (by omega)).2 (by omega), ?_⟩
  have := (hpoint (2 * (n / 2) + 1) (by omega)).1
  omega

/-! ## The tables -/

open Decomposition in
/-- The rows of all decompositions, joined from the end, which takes fewer steps. -/
def Decomposition.rowList : List Nat :=
  latin ++ (greek ++ (indic ++ (extended ++ (symbols ++ (kana ++ (ideographs ++ (presentation ++ (width ++
    (supplement ++ (mathematics ++ emblems))))))))))

theorem Decomposition.rows_toList : Decomposition.rows.toList = rowList := by
  simp only [Decomposition.rows, rowList, List.append_assoc]

/-- What is relied on of the tables. -/
@[mk_iff]
structure TablesOrdered : Prop where
  decompositions : IsTable (· % rowBase) 13 Decomposition.rows
  composites : IsTable (· % pairBase) 10 composites
  markRuns : IsTable (· % rowBase) 9 markRuns
  uppercaseRuns : IsTable (· % rowBase) 8 uppercaseRuns
  uppercaseTexts : IsTable (· % rowBase) 7 uppercaseTexts

theorem tablesOrdered : TablesOrdered := by
  simp only [tablesOrdered_iff, isTable_iff, Decomposition.rows_toList]
  decide +kernel

theorem Hangul.parts?_eq_none {n : Nat} (h : n < 0xAC00) : Hangul.parts? n = none := by
  rw [parts?, if_neg]
  simp only [syllableBase]
  omega

/-- What decomposes otherwise than by its row are the characters of the first block and Hangul. -/
theorem decompose_eq_find? {c : Char} (h : 0xA0 ≤ c.toNat) (hh : Hangul.parts? c.toNat = none) : decompose c =
    ((Decomposition.rows.toList.find? fun r => r % rowBase == c.toNat).map rowText).getD [c] := by
  rw [decompose, if_neg (by omega), hh, (tablesOrdered).decompositions.findRow?_eq_find?]

/-- The composite of a pair stands in its row. -/
theorem composite?_eq_some_iff {a b p : Char} : composite? a b = some p ↔
    ∃ r ∈ composites.toList, r % pairBase = a.toNat * rowBase + b.toNat ∧ Char.ofNat (r / pairBase) = p := by
  rw [composite?]
  constructor
  · intro hp
    obtain ⟨r, hr, hp⟩ := Option.bind_eq_some_iff.1 hp
    split at hp
    · rename_i hpair
      exact ⟨r, ((tablesOrdered).composites.getElem?_partitionPoint.1 ⟨hr, hpair⟩).1, hpair, Option.some.inj hp⟩
    · cases hp
  · rintro ⟨r, hr, hpair, rfl⟩
    have hget := ((tablesOrdered).composites.getElem?_partitionPoint.2 ⟨hr, hpair⟩).1
    exact Option.bind_eq_some_iff.2 ⟨r, hget, if_pos hpair⟩

/-- A mark lies in a run of marks that has its class. -/
theorem exists_markRun {c : Char} (h : combiningClass c ≠ 0) : ∃ r ∈ markRuns.toList,
    r % rowBase ≤ c.toNat ∧ c.toNat ≤ r / rowBase % rowBase ∧ combiningClass c = r / rowBase / rowBase := by
  by_cases hc : c.toNat < 0x300
  · rw [combiningClass, if_pos hc] at h
    exact absurd rfl h
  cases hr : lastRow? markRuns c.toNat with
  | none =>
    rw [combiningClass, if_neg hc, hr] at h
    exact absurd rfl h
  | some r =>
    obtain ⟨hmem, hfirst, -⟩ := (tablesOrdered).markRuns.lastRow?_eq_some_iff.1 hr
    have heq : combiningClass c = if c.toNat ≤ r / rowBase % rowBase then r / rowBase / rowBase else 0 := by
      rw [combiningClass, if_neg hc, hr]
    rw [heq] at h ⊢
    split at h
    · rename_i hlast
      exact ⟨r, hmem, hfirst, hlast, if_pos hlast⟩
    · exact absurd rfl h

/-- A character in none of the runs has no upper case of its own. -/
theorem uppercase_of_no_row {c : Char} (h : 0x80 ≤ c.toNat) (htext : ∀ r ∈ uppercaseTexts.toList, r % rowBase ≠ c.toNat)
    (hrun : ∀ r ∈ uppercaseRuns.toList, ¬(r % rowBase ≤ c.toNat ∧ c.toNat ≤ r / rowBase % rowBase)) :
    uppercase c = [c] := by
  have hone : uppercaseOne? c.toNat = none := by
    rw [uppercaseOne?]
    cases hr : lastRow? uppercaseRuns c.toNat with
    | none => rfl
    | some r =>
      obtain ⟨hmem, hfirst, -⟩ := (tablesOrdered).uppercaseRuns.lastRow?_eq_some_iff.1 hr
      have hlast : ¬c.toNat ≤ r / rowBase % rowBase := fun hle => hrun r hmem ⟨hfirst, hle⟩
      simp [hlast]
  rw [uppercase, if_neg (by omega), (tablesOrdered).uppercaseTexts.findRow?_eq_none htext, hone]
  rfl

end FileIndex.Text
