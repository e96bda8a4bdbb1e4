/-
The two kana scripts, letter by letter. In the tables of the Unicode standard hiragana letters decompose and compose as
their katakana letters do (`kanaChecked`), but for four of them: only in katakana do these have a voiced letter. So a letter
in katakana has the class, the upper case and the decomposition of the letter in hiragana (`map_ordered`), and joins what
that joins (`join?_toKatakana`), but for the four.
-/
import FileIndex.Proofs.Projection.Forms
import FileIndex.Proofs.Text.Composing
import FileIndex.Proofs.Text.Seek

namespace FileIndex

namespace Text

/-- Whether a number stands for a hiragana letter that has a katakana letter. -/
def hiraganaLetter (n : Nat) : Bool := within 0x3041 0x3096 n || within 0x309D 0x309E n

/-- Whether a number stands for a katakana letter that has a hiragana letter. -/
def katakanaLetter (n : Nat) : Bool := within 0x30A1 0x30F6 n || within 0x30FD 0x30FE n

/-- The number of the katakana letter of a hiragana letter. -/
def katakanaOf (n : Nat) : Nat := if hiraganaLetter n then n + 0x60 else n

/-- Whether a number stands for one of the letters `wa`, `wi`, `we` and `wo` in hiragana. -/
def hiraganaWa (n : Nat) : Bool := within 0x308F 0x3092 n

/-- Whether a number stands for one of these letters in katakana. -/
def katakanaWa (n : Nat) : Bool := within 0x30EF 0x30F2 n

/-- Whether a number stands for a voiced one of these letters. There are some in katakana only. -/
def voicedWa (n : Nat) : Bool := within 0x30F7 0x30FA n

/-- What is checked of kana. Hiragana letters decompose as their katakana letters do, and are composed as these are, except
for the four that are voiced in katakana only, to which no character decomposes. Letters of both scripts are no marks and
have no upper case. -/
@[mk_iff]
structure KanaChecked : Prop where
  decompositions :
    (Decomposition.rowList.filter fun r => hiraganaLetter (r % rowBase)).map
      (fun r => (katakanaOf (r % rowBase), (rowDigits (r / rowBase) []).map katakanaOf)) =
    (Decomposition.rowList.filter fun r => katakanaLetter (r % rowBase)).map
      fun r => (r % rowBase, rowDigits (r / rowBase) [])
  wa : Decomposition.rowList.all (fun r => allDigits (fun d => !hiraganaWa d) 18 (r / rowBase)) = true
  composites :
    (composites.toList.filter fun r => hiraganaLetter (rowFirst r)).map
      (fun r => (katakanaOf (rowFirst r), r % rowBase, katakanaOf (r / pairBase))) =
    (composites.toList.filter fun r => katakanaLetter (rowFirst r) && !katakanaWa (rowFirst r)).map
      fun r => (rowFirst r, r % rowBase, r / pairBase)
  plain : ∀ r ∈ Text.composites.toList, hiraganaLetter (r % rowBase) = false ∧ katakanaLetter (r % rowBase) = false ∧
    (hiraganaLetter (rowFirst r) = false → hiraganaLetter (r / pairBase) = false) ∧ hiraganaWa (r / pairBase) = false ∧
    hiraganaWa (rowFirst r) = false ∧ voicedWa (rowFirst r) = false ∧ (katakanaWa (rowFirst r) = true → r % rowBase = 0x3099)
  voiced : ∀ n < 4, (0x30F7 + n) * pairBase + (0x30EF + n) * rowBase + 0x3099 ∈ Text.composites.toList
  marks : ∀ r ∈ markRuns.toList, r / rowBase % rowBase < 0x3041 ∨ 0x30FE < r % rowBase ∨
    0x3099 ≤ r % rowBase ∧ r / rowBase % rowBase ≤ 0x309A
  uppercaseTexts : ∀ r ∈ uppercaseTexts.toList, r % rowBase < 0x3041 ∨ 0x30FF < r % rowBase
  uppercaseRuns : ∀ r ∈ uppercaseRuns.toList, r / rowBase % rowBase < 0x3041 ∨ 0x30FF < r % rowBase
  voiceMark : Seek.combiningClass '\u3099' = 8

theorem kanaChecked : KanaChecked := by
  rw [kanaChecked_iff]
  decide +kernel

end Text

namespace Projection

open Text

variable {c d p s : Char} {k : Cluster} {t u v x y l : List Char}

/-! ## Letters of the two scripts -/

theorem hiraganaLetter_iff {n : Nat} :
    hiraganaLetter n = true ↔ 0x3041 ≤ n ∧ n ≤ 0x3096 ∨ 0x309D ≤ n ∧ n ≤ 0x309E := by
  simp [hiraganaLetter]

theorem katakanaLetter_iff {n : Nat} :
    katakanaLetter n = true ↔ 0x30A1 ≤ n ∧ n ≤ 0x30F6 ∨ 0x30FD ≤ n ∧ n ≤ 0x30FE := by
  simp [katakanaLetter]

theorem toNat_toKatakana (c : Char) : (toKatakana c).toNat = katakanaOf c.toNat := by
  rw [toKatakana, katakanaOf]
  by_cases h : hiraganaLetter c.toNat = true
  · have hrange := hiraganaLetter_iff.1 h
    rw [if_pos (by simpa using hrange), if_pos h, toNat_ofNat (.inl (by omega))]
  · rw [if_neg (by simpa [hiraganaLetter_iff] using h), if_neg h]

theorem katakanaOf_cases (n : Nat) : katakanaOf n = n ∧ hiraganaLetter n = false ∨
    katakanaOf n = n + 0x60 ∧ hiraganaLetter n = true ∧ katakanaLetter (n + 0x60) = true := by
  rw [katakanaOf]
  cases h : hiraganaLetter n with
  | false => exact .inl ⟨rfl, rfl⟩
  | true =>
    have := hiraganaLetter_iff.1 h
    exact .inr ⟨rfl, rfl, katakanaLetter_iff.2 (by omega)⟩

theorem toKatakana_of_not_letter (h : hiraganaLetter c.toNat = false) : toKatakana c = c :=
  char_ext (by rw [toNat_toKatakana, katakanaOf, h]; rfl)

theorem toNat_toKatakana_of_letter (h : hiraganaLetter c.toNat = true) : (toKatakana c).toNat = c.toNat + 0x60 := by
  rw [toNat_toKatakana, katakanaOf, if_pos h]

theorem hiraganaLetter_katakanaOf (n : Nat) : hiraganaLetter (katakanaOf n) = false := by
  rcases katakanaOf_cases n with ⟨he, h⟩ | ⟨he, -, h⟩
  · rwa [he]
  · rw [he, Bool.eq_false_iff, Ne, hiraganaLetter_iff]
    have := katakanaLetter_iff.1 h
    omega

@[simp] theorem toKatakana_toKatakana (c : Char) : toKatakana (toKatakana c) = toKatakana c :=
  toKatakana_of_not_letter (by rw [toNat_toKatakana, hiraganaLetter_katakanaOf])

theorem toKatakana_ofNat (n : Nat) : toKatakana (Char.ofNat n) = Char.ofNat (katakanaOf n) := by
  by_cases hn : n.isValidChar
  · rcases katakanaOf_cases n with ⟨he, h⟩ | ⟨he, h, -⟩
    · rw [he, toKatakana_of_not_letter (by rwa [toNat_ofNat hn])]
    · have hvalid : (n + 0x60).isValidChar := .inl (by have := hiraganaLetter_iff.1 h; omega)
      refine char_ext ?_
      rw [toNat_toKatakana, toNat_ofNat hn, he, toNat_ofNat hvalid]
  · have hletter : hiraganaLetter n = false := by
      rw [Bool.eq_false_iff, Ne, hiraganaLetter_iff]
      exact fun h => hn (.inl (by omega))
    rw [katakanaOf, hletter, if_neg Bool.false_ne_true, ofNat_of_not_valid hn]
    decide

theorem combiningClass_of_kana (h1 : 0x3041 ≤ c.toNat) (h2 : c.toNat ≤ 0x30FE)
    (h3 : c.toNat < 0x3099 ∨ 0x309A < c.toNat) : combiningClass c = 0 := by
  refine Decidable.byContradiction fun h => ?_
  obtain ⟨r, hr, hfirst, hlast, -⟩ := exists_markRun h
  have := (kanaChecked).marks r hr
  omega

/-- The letters of both scripts are no marks. -/
theorem combiningClass_of_letter (h : hiraganaLetter c.toNat = true ∨ katakanaLetter c.toNat = true) :
    combiningClass c = 0 := by
  rw [hiraganaLetter_iff, katakanaLetter_iff] at h
  exact combiningClass_of_kana (by omega) (by omega) (by omega)

theorem combiningClass_toKatakana (c : Char) : combiningClass (toKatakana c) = combiningClass c := by
  rcases katakanaOf_cases c.toNat with ⟨-, h⟩ | ⟨he, h, hk⟩
  · rw [toKatakana_of_not_letter h]
  · rw [combiningClass_of_letter (.inl h), combiningClass_of_letter (.inr (by rwa [toNat_toKatakana, he]))]

theorem uppercase_of_kana (h1 : 0x3041 ≤ c.toNat) (h2 : c.toNat ≤ 0x30FF) : uppercase c = [c] := by
  refine uppercase_of_no_row (by omega) (fun r hr => ?_) fun r hr => ?_
  · have := (kanaChecked).uppercaseTexts r hr
    omega
  · have := (kanaChecked).uppercaseRuns r hr
    omega

theorem isBlank_of_le (h : 0x3001 ≤ c.toNat) : isBlank c = false := by
  have hall : ∀ b ∈ blankChars, b.toNat < 0x3001 := forall_mem_of_all (by decide)
  rw [Bool.eq_false_iff]
  intro hb
  have := hall c (mem_blankChars hb)
  omega

/-- Kana other than the long vowel mark stand for themselves, in katakana. -/
theorem fuzzyOf_kana (h1 : 0x3041 ≤ c.toNat) (h2 : c.toNat ≤ 0x30FF) (h3 : c ≠ 'ー') : fuzzyOf [c] = [toKatakana c] := by
  rw [fuzzyOf, List.flatMap_singleton, uppercase_of_kana h1 h2]
  simp [fuzzyChar?, isBlank_of_le (c := c) (by omega), h3]

theorem fuzzyOf_cons (c : Char) (l : List Char) : fuzzyOf (c :: l) = fuzzyOf [c] ++ fuzzyOf l := fuzzyOf_append [c] l

theorem fuzzyOf_toKatakana (c : Char) : fuzzyOf [toKatakana c] = fuzzyOf [c] := by
  rcases katakanaOf_cases c.toNat with ⟨-, h⟩ | ⟨he, h, hk⟩
  · rw [toKatakana_of_not_letter h]
  · have hn := toNat_toKatakana_of_letter h
    rw [hiraganaLetter_iff] at h
    have hne : ∀ d : Char, d.toNat ≠ 0x30FC → d ≠ 'ー' := by
      rintro d hd rfl
      exact hd rfl
    rw [fuzzyOf_kana (by omega) (by omega) (hne _ (by omega)), fuzzyOf_kana (by omega) (by omega) (hne _ (by omega)),
      toKatakana_toKatakana]

/-- The fuzzy form does not tell the scripts apart in what is composed. -/
theorem fuzzyOf_map (l : List Char) : fuzzyOf (l.map toKatakana) = fuzzyOf l := by
  induction l with
  | nil => rfl
  | cons c l ih => rw [List.map_cons, fuzzyOf_cons, fuzzyOf_toKatakana, ih, ← fuzzyOf_cons]

/-! ## Decomposition -/

theorem findRow?_katakana {n : Nat} (hn : hiraganaLetter n = true) : findRow? Decomposition.rows (n + 0x60) =
    (findRow? Decomposition.rows n).map (List.map toKatakana) := by
  have htext : ∀ r s : Nat, (rowDigits (s / rowBase) []).map katakanaOf = rowDigits (r / rowBase) [] →
      (rowText s).map toKatakana = rowText r := by
    intro r s h
    rw [rowText, rowText, ← h, List.map_map, List.map_map]
    exact List.map_congr_left fun d _ => toKatakana_ofNat d
  have hk : katakanaLetter (n + 0x60) = true := by
    rcases katakanaOf_cases n with ⟨-, h⟩ | ⟨-, -, h⟩
    · rw [hn] at h
      cases h
    · exact h
  have hkn : katakanaOf n = n + 0x60 := by rw [katakanaOf, if_pos hn]
  have hrows := (kanaChecked).decompositions
  rw [← Decomposition.rows_toList] at hrows
  ext u
  rw [(tablesOrdered).decompositions.findRow?_eq_some_iff, Option.map_eq_some_iff]
  constructor
  · rintro ⟨r, hr, hrn, rfl⟩
    have hmem := List.mem_map_of_mem (f := fun r => (r % rowBase, rowDigits (r / rowBase) []))
      (List.mem_filter (p := fun r => katakanaLetter (r % rowBase)).2 ⟨hr, (congrArg katakanaLetter hrn).trans hk⟩)
    rw [← hrows, List.mem_map] at hmem
    obtain ⟨s, hs, he⟩ := hmem
    obtain ⟨hs, hletter⟩ := List.mem_filter.1 hs
    obtain ⟨hkey, hdigits⟩ := Prod.mk.inj he
    have hsn : s % rowBase = n := by
      rw [katakanaOf, if_pos hletter] at hkey
      omega
    exact ⟨rowText s, (tablesOrdered).decompositions.findRow?_eq_some_iff.2 ⟨s, hs, hsn, rfl⟩, htext r s hdigits⟩
  · rintro ⟨t, ht, rfl⟩
    obtain ⟨s, hs, hsn, rfl⟩ := (tablesOrdered).decompositions.findRow?_eq_some_iff.1 ht
    have hmem := List.mem_map_of_mem
      (f := fun r => (katakanaOf (r % rowBase), (rowDigits (r / rowBase) []).map katakanaOf))
      (List.mem_filter (p := fun r => hiraganaLetter (r % rowBase)).2 ⟨hs, (congrArg hiraganaLetter hsn).trans hn⟩)
    rw [hrows, List.mem_map] at hmem
    obtain ⟨r, hr, he⟩ := hmem
    obtain ⟨hkey, hdigits⟩ := Prod.mk.inj he
    exact ⟨r, (List.mem_filter.1 hr).1, by rw [hkey, hsn, hkn], (htext r s hdigits.symm).symm⟩

/-- A katakana letter decomposes as its hiragana letter does. -/
theorem decompose_toKatakana (h : hiraganaLetter c.toNat = true) : decompose (toKatakana c) = (decompose c).map toKatakana := by
  have hn := toNat_toKatakana_of_letter h
  have hrow := findRow?_katakana h
  rw [hiraganaLetter_iff] at h
  rw [decompose, if_neg (by omega), Hangul.parts?_eq_none (by omega), decompose, if_neg (by omega),
    Hangul.parts?_eq_none (by omega), hn, hrow]
  cases findRow? Decomposition.rows c.toNat <;> rfl

theorem map_decompose_toKatakana (c : Char) :
    (decompose (toKatakana c)).map toKatakana = (decompose c).map toKatakana := by
  cases h : hiraganaLetter c.toNat with
  | false => rw [toKatakana_of_not_letter h]
  | true => rw [decompose_toKatakana h, List.map_map]; simp [Function.comp_def]

theorem isKana_toKatakana (c : Char) : isKana (toKatakana c) = isKana c := by
  cases h : hiraganaLetter c.toNat with
  | false => rw [toKatakana_of_not_letter h]
  | true =>
    have hn := toNat_toKatakana_of_letter h
    rw [hiraganaLetter_iff] at h
    have h1 : isKana c = true := by simp [isKana, isHiragana]; omega
    have h2 : isKana (toKatakana c) = true := by simp [isKana, isKatakana, hn]; omega
    rw [h1, h2]

theorem combineMark_toKatakana (q : Option Char) (c : Char) :
    combineMark (q.map toKatakana) (toKatakana c) = toKatakana (combineMark q c) := by
  have hany : (q.map toKatakana).any isKana = q.any isKana := by
    cases q with
    | none => rfl
    | some b => exact isKana_toKatakana b
  cases h : hiraganaLetter c.toNat with
  | false =>
    rw [toKatakana_of_not_letter h, combineMark, combineMark, hany]
    split
    · split
      · decide
      · split
        · decide
        · exact (toKatakana_of_not_letter h).symm
    · exact (toKatakana_of_not_letter h).symm
  | true =>
    have hn := toNat_toKatakana_of_letter h
    rw [hiraganaLetter_iff] at h
    have hself : ∀ q b, b.toNat ≠ 0x309B → b.toNat ≠ 0x309C → combineMark q b = b := by
      intro q b h1 h2
      rw [combineMark, if_neg fun he : b = '\u309B' => h1 (he ▸ rfl), if_neg fun he : b = '\u309C' => h2 (he ▸ rfl)]
      split <;> rfl
    rw [hself _ c (by omega) (by omega), hself _ _ (by omega) (by omega)]

theorem combineMarks_map (q : Option Char) (t : List Char) :
    combineMarks (q.map toKatakana) (t.map toKatakana) = (combineMarks q t).map toKatakana := by
  induction t generalizing q with
  | nil => rfl
  | cons c t ih =>
    rw [List.map_cons, combineMarks, combineMarks, combineMark_toKatakana, List.map_cons]
    exact congrArg _ (ih (some c))

/-- A text in katakana is put in order as the text itself is. -/
theorem map_ordered (t : List Char) : (ordered (t.map toKatakana)).map toKatakana = (ordered t).map toKatakana := by
  have hmarks := combineMarks_map none t
  rw [Option.map_none] at hmarks
  rw [ordered, ordered, ← reorder_map combiningClass_toKatakana, ← reorder_map combiningClass_toKatakana, hmarks,
    List.map_flatMap, List.map_flatMap, List.flatMap_map]
  simp only [map_decompose_toKatakana]

/-! ## Composition -/

/-- Whether a character is one of the letters `wa`, `wi`, `we` and `wo` in hiragana. -/
def isWa (c : Char) : Bool := hiraganaWa c.toNat

theorem hiraganaLetter_of_isWa (h : isWa c = true) : hiraganaLetter c.toNat = true := by
  simp only [isWa, hiraganaWa, within_iff] at h
  rw [hiraganaLetter_iff]
  omega

theorem not_leads {n : Nat} (h1 : 0x3041 ≤ n) (h2 : n ≤ 0x30FF) : Hangul.leads n = false ∧ Hangul.follows n = false := by
  simp only [Hangul.leads, Hangul.follows, Bool.or_eq_false_iff, Bool.and_eq_false_iff, decide_eq_false_iff_not]
  omega

/-- Letters of both scripts join nothing in front of them. -/
theorem startsAnew_of_letter (h : hiraganaLetter c.toNat = true ∨ katakanaLetter c.toNat = true) : StartsAnew c := by
  have hrange : 0x3041 ≤ c.toNat ∧ c.toNat ≤ 0x30FE := by
    rw [hiraganaLetter_iff, katakanaLetter_iff] at h
    omega
  refine startsAnew_of_no_row (combiningClass_of_letter h) (not_leads (by omega) (by omega)).2 fun r hr he => ?_
  obtain ⟨h1, h2, -⟩ := (kanaChecked).plain r hr
  rw [he] at h1 h2
  rcases h with h | h
  · rw [h] at h1
    cases h1
  · rw [h] at h2
    cases h2

theorem startsAnew_toKatakana_of_isWa (h : isWa c = true) : StartsAnew c ∧ StartsAnew (toKatakana c) := by
  have hl := hiraganaLetter_of_isWa h
  rcases katakanaOf_cases c.toNat with ⟨-, hn⟩ | ⟨he, -, hk⟩
  · rw [hl] at hn
    cases hn
  · exact ⟨startsAnew_of_letter (.inl hl), startsAnew_of_letter (.inr (by rwa [toNat_toKatakana, he]))⟩

theorem inert_of_isWa (h : isWa c = true) : Inert c := by
  have hl := hiraganaLetter_iff.1 (hiraganaLetter_of_isWa h)
  refine inert_of_no_row (not_leads (by omega) (by omega)).1 fun r hr he => ?_
  obtain ⟨-, -, -, -, hwa, -⟩ := (kanaChecked).plain r hr
  rw [he] at hwa
  exact absurd (h.symm.trans hwa) nofun

theorem isWa_iff : isWa c = true ↔ 0x308F ≤ c.toNat ∧ c.toNat ≤ 0x3092 := by simp [isWa, hiraganaWa]

theorem toNat_toKatakana_of_isWa (h : isWa c = true) : (toKatakana c).toNat = c.toNat + 0x60 :=
  toNat_toKatakana_of_letter (hiraganaLetter_of_isWa h)

/-- In katakana the four letters join a voice mark and nothing else. -/
theorem join?_katakana_wa (h : isWa c = true) (hd : d ≠ '\u3099') : join? (toKatakana c) d = none := by
  have hn := toNat_toKatakana_of_isWa h
  rw [isWa_iff] at h
  refine Option.eq_none_iff_forall_ne_some.2 fun p hp => ?_
  obtain ⟨r, hr, hfirst, hsecond, -⟩ := (join?_eq_some_iff (.inl (not_leads (by omega) (by omega)).1)).1 hp
  obtain ⟨-, -, -, -, -, -, hwa⟩ := (kanaChecked).plain r hr
  have hw : katakanaWa (rowFirst r) = true := by
    rw [hfirst, hn]
    simp only [katakanaWa, within_iff]
    omega
  exact hd (char_ext (hsecond.symm.trans (hwa hw)))

/-- With a voice mark they make a letter that joins nothing more. -/
theorem exists_voiced (h : isWa c = true) :
    ∃ v, join? (toKatakana c) '\u3099' = some v ∧ Inert v ∧ fuzzyOf [v] = [v] := by
  have hn := toNat_toKatakana_of_isWa h
  rw [isWa_iff] at h
  obtain ⟨i, hi, hci⟩ : ∃ i < 4, c.toNat = 0x308F + i := ⟨c.toNat - 0x308F, by omega, by omega⟩
  have hv : (Char.ofNat (0x30F7 + i)).toNat = 0x30F7 + i := toNat_ofNat (.inl (by omega))
  have hnot : hiraganaLetter (Char.ofNat (0x30F7 + i)).toNat = false := by
    rw [hv, Bool.eq_false_iff, Ne, hiraganaLetter_iff]
    omega
  refine ⟨Char.ofNat (0x30F7 + i), ?_, ?_, ?_⟩
  · refine (join?_eq_some_iff (.inl (not_leads (by omega) (by omega)).1)).2
      ⟨_, (kanaChecked).voiced i hi, ?_, ?_, ?_⟩
    · rw [hn, hci]
      simp only [rowFirst, pairBase, rowBase]
      omega
    · simp only [pairBase, rowBase]
      have : '\u3099'.toNat = 0x3099 := rfl
      omega
    · congr 1
      simp only [pairBase, rowBase]
      omega
  · refine inert_of_no_row (by rw [hv]; exact (not_leads (by omega) (by omega)).1) fun r hr he => ?_
    obtain ⟨-, -, -, -, -, hvoiced, -⟩ := (kanaChecked).plain r hr
    rw [he, hv] at hvoiced
    simp only [voicedWa, within_eq_false] at hvoiced
    omega
  · rw [fuzzyOf_kana (by omega) (by omega) fun he => ?_, toKatakana_of_not_letter hnot]
    rw [he] at hv
    have : 'ー'.toNat = 0x30FC := rfl
    omega

theorem toKatakana_hangul {a b : Nat} (h : Hangul.join? a b = some p) : toKatakana p = p := by
  have hp : 0xAC00 ≤ p.toNat := by
    rw [Hangul.join?] at h
    split at h
    · rename_i hopen
      simp only [Hangul.leadBase, Hangul.vowelBase, Hangul.vowels] at hopen
      rw [← Option.some.inj h, toNat_ofNat (.inl ?_)]
      all_goals
        simp only [Hangul.leadBase, Hangul.vowelBase, Hangul.vowels, Hangul.syllableBase, Hangul.trails]
        omega
    · split at h
      · rename_i hclosed
        simp only [Hangul.syllableBase, Hangul.syllables, Hangul.vowels, Hangul.trails, Hangul.trailBase] at hclosed
        rw [← Option.some.inj h, toNat_ofNat (.inl ?_)]
        all_goals
          simp only [Hangul.trailBase]
          omega
      · cases h
  refine toKatakana_of_not_letter ?_
  rw [Bool.eq_false_iff, Ne, hiraganaLetter_iff]
  omega

theorem join?_of_not_letter (h : hiraganaLetter s.toNat = false) (d : Char) : (join? s d).map toKatakana = join? s d := by
  cases hj : join? s d with
  | none => rfl
  | some p =>
    rw [Option.map_some, Option.some.injEq]
    rw [join?] at hj
    split at hj
    · rename_i q hq
      rw [Option.some.injEq] at hj
      exact hj ▸ toKatakana_hangul hq
    · obtain ⟨r, hr, hpair, rfl⟩ := composite?_eq_some_iff.1 hj
      obtain ⟨-, -, hplain, -⟩ := (kanaChecked).plain r hr
      rw [toKatakana_ofNat, katakanaOf, hplain (by rw [(row_pair hpair).1, h])]
      rfl

/-- **Letters of the two scripts join alike**, but for the four and a voice mark. -/
theorem join?_toKatakana (h : ¬(isWa s = true ∧ d = '\u3099')) :
    join? (toKatakana s) (toKatakana d) = (join? s d).map toKatakana := by
  rcases katakanaOf_cases d.toNat with ⟨-, hd⟩ | ⟨hed, hd, hkd⟩
  · rw [toKatakana_of_not_letter hd]
    rcases katakanaOf_cases s.toNat with ⟨-, hs⟩ | ⟨hes, hs, hks⟩
    · rw [toKatakana_of_not_letter hs, join?_of_not_letter hs]
    · have hn := toNat_toKatakana_of_letter hs
      have hrange := hiraganaLetter_iff.1 hs
      ext q
      rw [Option.map_eq_some_iff, join?_eq_some_iff (.inl (not_leads (by omega) (by omega)).1)]
      constructor
      · rintro ⟨r, hr, hfirst, hsecond, rfl⟩
        have hwa : katakanaWa (rowFirst r) = false := by
          rw [Bool.eq_false_iff]
          intro hw
          obtain ⟨-, -, -, -, -, -, hmark⟩ := (kanaChecked).plain r hr
          have hdm : d = '\u3099' := char_ext (hsecond.symm.trans (hmark hw))
          simp only [katakanaWa, within_iff] at hw
          exact h ⟨isWa_iff.2 (by omega), hdm⟩
        have hmem := List.mem_map_of_mem (f := fun r => (rowFirst r, r % rowBase, r / pairBase))
          (List.mem_filter (p := fun r => katakanaLetter (rowFirst r) && !katakanaWa (rowFirst r)).2
            ⟨hr, by rw [hwa, hfirst, hn, hks]; rfl⟩)
        rw [← (kanaChecked).composites, List.mem_map] at hmem
        obtain ⟨r', hr', he⟩ := hmem
        obtain ⟨hr', hletter⟩ := List.mem_filter.1 hr'
        obtain ⟨he1, he2⟩ := Prod.mk.inj he
        obtain ⟨he2, he3⟩ := Prod.mk.inj he2
        refine ⟨Char.ofNat (r' / pairBase), ?_, by rw [toKatakana_ofNat, he3]⟩
        refine (join?_eq_some_iff (.inl (not_leads (by omega) (by omega)).1)).2 ⟨r', hr', ?_, he2.trans hsecond, rfl⟩
        rw [katakanaOf, if_pos hletter] at he1
        omega
      · rintro ⟨p, hp, rfl⟩
        obtain ⟨r', hr', hfirst, hsecond, rfl⟩ :=
          (join?_eq_some_iff (.inl (not_leads (by omega) (by omega)).1)).1 hp
        have hmem := List.mem_map_of_mem (f := fun r => (katakanaOf (rowFirst r), r % rowBase, katakanaOf (r / pairBase)))
          (List.mem_filter (p := fun r => hiraganaLetter (rowFirst r)).2 ⟨hr', by rw [hfirst, hs]⟩)
        rw [(kanaChecked).composites, List.mem_map] at hmem
        obtain ⟨r, hr, he⟩ := hmem
        obtain ⟨he1, he2⟩ := Prod.mk.inj he
        obtain ⟨he2, he3⟩ := Prod.mk.inj he2
        refine ⟨r, (List.mem_filter.1 hr).1, ?_, he2.trans hsecond, by rw [he3, toKatakana_ofNat]⟩
        rw [he1, hfirst, hes, hn]
  · rw [(startsAnew_of_letter (.inr (by rwa [toNat_toKatakana, hed]))).2, (startsAnew_of_letter (.inl hd)).2]
    rfl

end Projection

end FileIndex
