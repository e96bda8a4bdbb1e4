/-
Kana in fuzzy forms. The fuzzy form of a text in katakana is that of the text itself (`chars_map_toKatakana_iff`) unless
a voice mark stands behind `wa`, `wi`, `we` or `wo` in hiragana: these are voiced letters in katakana only.
-/
import FileIndex.Proofs.Projection.Kana

namespace FileIndex

namespace Projection

open Text

variable {c d p s : Char} {k : Cluster} {t x y l : List Char}

/-! ## Voice marks on the four letters -/

/-- Whether a character is a mark that a voice mark joins across. -/
def isLight (c : Char) : Bool := 0 < combiningClass c && combiningClass c < 8

/-- Whether the text behind a letter voices it: a voice mark stands there, with nothing but light marks in front of it. -/
def voices : List Char → Bool
  | [] => false
  | c :: l => c == '\u3099' || isLight c && voices l

/-- How many of the letters `wa`, `wi`, `we` and `wo` in hiragana a text voices. -/
def voicedWas : List Char → Nat
  | [] => 0
  | c :: l => (if isWa c && voices l then 1 else 0) + voicedWas l

theorem combiningClass_voiceMark : combiningClass '\u3099' = 8 := (Seek.combiningClass_eq _).symm.trans (kanaChecked).voiceMark

theorem voices_append (x y : List Char) : voices (x ++ y) = (voices x || x.all isLight && voices y) := by
  induction x with
  | nil => rfl
  | cons c x ih =>
    rw [List.cons_append, voices, voices, ih, List.all_cons]
    cases c == '\u3099' <;> cases isLight c <;> simp

theorem voicedWas_append (h : ∀ c ∈ x, isWa c = false) (y : List Char) : voicedWas (x ++ y) = voicedWas y := by
  induction x with
  | nil => rfl
  | cons c x ih =>
    rw [List.cons_append, voicedWas, h c (by simp), ih fun d hd => h d (by simp [hd])]
    exact Nat.zero_add _

theorem isWa_of_mark (h : combiningClass c ≠ 0) : isWa c = false := by
  rw [Bool.eq_false_iff]
  exact fun hw => h (combiningClass_of_letter (.inl (hiraganaLetter_of_isWa hw)))

theorem isWa_ofNat {n : Nat} (h : hiraganaWa n = false) : isWa (Char.ofNat n) = false := by
  by_cases hn : n.isValidChar
  · rwa [isWa, toNat_ofNat hn]
  · rw [ofNat_of_not_valid hn]
    decide

theorem isWa_of_join? (h : join? s c = some p) : isWa p = false := by
  rw [Bool.eq_false_iff]
  intro hw
  rw [join?] at h
  split at h
  · rename_i q hq
    have hn := toNat_toKatakana_of_isWa hw
    rw [← Option.some.inj h, toKatakana_hangul hq] at hn
    omega
  · obtain ⟨r, hr, -, rfl⟩ := composite?_eq_some_iff.1 h
    obtain ⟨-, -, -, hnot, -⟩ := (kanaChecked).plain r hr
    cases hw.symm.trans (isWa_ofNat hnot)

/-! ## Texts in katakana -/

/-- A cluster in katakana. -/
def inKatakana (k : Cluster) : Cluster := ⟨k.starter.map toKatakana, k.marks.map toKatakana⟩

theorem text_inKatakana (k : Cluster) : (inKatakana k).text = k.text.map toKatakana := by
  cases h : k.starter <;> simp [Cluster.text, inKatakana, h]

theorem blocks_inKatakana (k : Cluster) (n : Nat) : (inKatakana k).blocks n = k.blocks n := by
  cases h : k.marks <;> simp [Cluster.blocks, inKatakana, h, combiningClass_toKatakana]

theorem joined_inKatakana (h : ∀ s ∈ k.starter, isWa s = true → c = '\u3099' → k.blocks (combiningClass c) = true) :
    (inKatakana k).joined (toKatakana c) = (k.joined c).map toKatakana := by
  rw [Cluster.joined, Cluster.joined, blocks_inKatakana, combiningClass_toKatakana]
  cases hb : k.blocks (combiningClass c) with
  | true => rfl
  | false =>
    cases hs : k.starter with
    | none => simp [inKatakana, hs]
    | some s =>
      have hjoin := join?_toKatakana (s := s) (d := c) fun hboth => by simp [h s hs hboth.1 hboth.2] at hb
      simpa [inKatakana, hs] using hjoin

theorem voices_append_starter (hc : combiningClass c = 0) (y : List Char) : voices (x ++ c :: y) = voices x := by
  have hmark : (c == '\u3099') = false := by
    rw [beq_eq_false_iff_ne]
    rintro rfl
    rw [combiningClass_voiceMark] at hc
    cases hc
  rw [voices_append, voices, hmark, isLight, hc]
  simp

theorem blocks_of_isLight (h : k.marks.all isLight = true) : k.blocks 8 = false := by
  rw [Cluster.blocks]
  cases hm : k.marks with
  | nil => rfl
  | cons d marks =>
    rw [hm, List.all_cons, Bool.and_eq_true, isLight, Bool.and_eq_true, decide_eq_true_eq, decide_eq_true_eq] at h
    simp only [decide_eq_false_iff_not]
    omega

theorem voicedWas_text (hfit : k.Fits y) : voicedWas (k.text ++ y) =
    (if k.starter.any isWa && voices (k.marks.reverse ++ y) then 1 else 0) + voicedWas y := by
  have hmarks : ∀ d ∈ k.marks.reverse, isWa d = false := fun d hd =>
    isWa_of_mark (hfit.class_ne d (List.mem_reverse.1 hd))
  rw [Cluster.text, List.append_assoc]
  cases hs : k.starter with
  | none => simp [voicedWas_append hmarks]
  | some s => simp [voicedWas, voicedWas_append hmarks]

/-- Where a letter is voiced in katakana, a letter and a mark are left in hiragana. -/
theorem compose_voiced (hs : k.starter = some s) (hw : isWa s = true) (hb : k.blocks 8 = false) :
    (fuzzyOf (compose (inKatakana k) ('\u3099' :: y.map toKatakana))).length + 1 +
      (fuzzyOf (compose ⟨none, []⟩ y)).length =
    (fuzzyOf (compose k ('\u3099' :: y))).length + (fuzzyOf (compose ⟨none, []⟩ (y.map toKatakana))).length := by
  obtain ⟨v, hv, hinert, hfuzzy⟩ := exists_voiced hw
  have hletter : fuzzyOf [s] = [toKatakana s] := by
    have hn := isWa_iff.1 hw
    refine fuzzyOf_kana (by omega) (by omega) ?_
    rintro rfl
    exact absurd hn (by decide)
  have hmark : fuzzyOf ['\u3099'] = [toKatakana '\u3099'] := fuzzyOf_kana (by decide) (by decide) (by decide)
  have hkata : (inKatakana k).joined '\u3099' = some v := by
    rw [Cluster.joined, blocks_inKatakana, combiningClass_voiceMark, hb]
    simpa [inKatakana, hs] using hv
  have hhira : k.joined '\u3099' = none := by
    rw [Cluster.joined, combiningClass_voiceMark, hb, hs]
    exact inert_of_isWa hw _
  rw [compose_cons_joined hkata, compose_cons_mark hhira (by rw [combiningClass_voiceMark]; decide), hs,
    compose_inert hinert, compose_inert (inert_of_isWa hw), compose_none_marks, compose_none_marks ('\u3099' :: _),
    fuzzyOf_cons, fuzzyOf_cons s, fuzzyOf_append, fuzzyOf_append, List.reverse_cons, fuzzyOf_append, hfuzzy, hletter, hmark]
  simp only [inKatakana, ← List.map_reverse, fuzzyOf_map, List.length_append, List.length_singleton]
  omega

/-- The fuzzy form of a text in katakana is shorter by one character for each letter that is voiced in katakana only, and
the same if there is none. -/
theorem compose_inKatakana (hfit : k.Fits y) (hk : k.starter.any isWa = true → voices k.marks.reverse = false) :
    (fuzzyOf (compose (inKatakana k) (y.map toKatakana))).length + voicedWas (k.text ++ y) =
      (fuzzyOf (compose k y)).length ∧
    (voicedWas (k.text ++ y) = 0 → compose (inKatakana k) (y.map toKatakana) = (compose k y).map toKatakana) := by
  induction y generalizing k with
  | nil =>
    have hnone : voicedWas (k.text ++ []) = 0 := by
      rw [voicedWas_text hfit, List.append_nil, voicedWas]
      cases hw : k.starter.any isWa with
      | false => rfl
      | true => rw [hk hw]; rfl
    rw [hnone, List.map_nil, compose, compose, text_inKatakana, fuzzyOf_map]
    exact ⟨rfl, fun _ => rfl⟩
  | cons c y ih =>
    by_cases hvoice : k.starter.any isWa = true ∧ c = '\u3099' ∧ k.blocks 8 = false
    · obtain ⟨hw, rfl, hb⟩ := hvoice
      obtain ⟨s, hs, hws⟩ := (Option.any_eq_true ..).1 hw
      have hlight : k.marks.reverse.all isLight = true := List.all_eq_true.2 fun d hd => by
        have hd := List.mem_reverse.1 hd
        have h1 := hfit.class_ne d hd
        have h2 := hfit.lt_of_not_blocks hb d hd
        simp [isLight]
        omega
      have hcount : voicedWas (k.text ++ '\u3099' :: y) = 1 + voicedWas y := by
        rw [voicedWas_text hfit, hw, voices_append, hlight]
        simp [voices, voicedWas, isWa_of_mark (c := '\u3099') (by rw [combiningClass_voiceMark]; decide)]
      have hlen := compose_voiced (y := y) hs hws hb
      have hrest := (ih (k := ⟨none, []⟩) (.start hfit.inOrder.2 _) fun h => by cases h).1
      rw [show (Cluster.mk none []).text ++ y = y from rfl] at hrest
      refine ⟨?_, fun h0 => absurd h0 (by omega)⟩
      have hstay : toKatakana '\u3099' = '\u3099' := by decide
      rw [hcount, List.map_cons, hstay]
      rw [show inKatakana ⟨none, []⟩ = ⟨none, []⟩ from rfl] at hrest
      omega
    have hjoin : (inKatakana k).joined (toKatakana c) = (k.joined c).map toKatakana := by
      refine joined_inKatakana fun s hs hw hc => ?_
      subst hc
      rw [combiningClass_voiceMark, ← Bool.not_eq_false]
      exact fun hb => hvoice ⟨(Option.any_eq_true ..).2 ⟨s, hs, hw⟩, rfl, hb⟩
    rw [List.map_cons]
    cases hj : k.joined c with
    | some p =>
      rw [hj, Option.map_some] at hjoin
      have hwa : k.starter.any isWa = false := by
        rw [Bool.eq_false_iff, Ne, Option.any_eq_true]
        rintro ⟨s, hs, hw⟩
        have hnone := (inert_of_isWa hw).joined k.marks c
        rw [← hs, hj] at hnone
        cases hnone
      have hcwa : isWa c = false := by
        rw [Bool.eq_false_iff]
        intro hw
        rw [(startsAnew_toKatakana_of_isWa hw).1.joined] at hj
        cases hj
      obtain ⟨s, hsj⟩ : ∃ s, join? s c = some p := by
        rw [Cluster.joined] at hj
        split at hj
        · cases hj
        · obtain ⟨s, -, hs⟩ := Option.bind_eq_some_iff.1 hj
          exact ⟨s, hs⟩
      have hpwa : (Cluster.mk (some p) k.marks).starter.any isWa = false := isWa_of_join? hsj
      have hcount : voicedWas (k.text ++ c :: y) = voicedWas ((Cluster.mk (some p) k.marks).text ++ y) := by
        rw [voicedWas_text hfit, voicedWas_text (hfit.join hj), hwa, hpwa, voicedWas, hcwa]
        simp
      rw [compose_cons_joined hj, compose_cons_joined hjoin, hcount]
      exact ih (hfit.join hj) fun h => by cases h.symm.trans hpwa
    | none =>
      rw [hj, Option.map_none] at hjoin
      by_cases hc : combiningClass c = 0
      · have hcount : voicedWas (k.text ++ c :: y) = voicedWas ((Cluster.mk (some c) []).text ++ y) := by
          rw [voicedWas_text hfit, voices_append_starter hc]
          cases hw : k.starter.any isWa with
          | false => simp [Cluster.text]
          | true => simp [hk hw, Cluster.text]
        obtain ⟨hlen, heq⟩ := ih (hfit.starter) fun _ => rfl
        rw [compose_cons_starter hj hc, compose_cons_starter hjoin (by rwa [combiningClass_toKatakana]), hcount,
          text_inKatakana, fuzzyOf_append, fuzzyOf_append, fuzzyOf_map, List.map_append]
        refine ⟨?_, fun h0 => congrArg _ (heq h0)⟩
        rw [List.length_append, List.length_append, Nat.add_assoc]
        exact congrArg _ hlen
      · have hcount : voicedWas (k.text ++ c :: y) = voicedWas ((Cluster.mk k.starter (c :: k.marks)).text ++ y) := by
          simp [Cluster.text]
        rw [compose_cons_mark hj hc, compose_cons_mark hjoin (by rwa [combiningClass_toKatakana]), hcount]
        refine ih (hfit.mark hc) fun hw => ?_
        rw [List.reverse_cons, voices_append, hk hw, Bool.false_or, Bool.and_eq_false_iff]
        by_cases hmark : c = '\u3099'
        · refine .inl (Bool.eq_false_iff.2 fun hlight => hvoice ⟨hw, hmark, blocks_of_isLight ?_⟩)
          rwa [List.all_reverse] at hlight
        · exact .inr (by simp [voices, hmark])

/-! ## The law -/

/-- No other character decomposes to one of the four letters in hiragana. -/
theorem eq_of_mem_decompose (h : c ∈ decompose d) (hw : isWa c = true) : c = d := by
  have hn := isWa_iff.1 hw
  rw [decompose] at h
  split at h
  · exact List.mem_singleton.1 h
  · split at h
    · rename_i parts hparts
      rw [Hangul.parts?] at hparts
      split at hparts
      · rename_i hsyllable
        simp only [Hangul.syllableBase, Hangul.syllables, Hangul.vowels, Hangul.trails] at hsyllable
        obtain ⟨n, hsmall, rfl⟩ : ∃ n < 0x308F, c = Char.ofNat n := by
          rw [← Option.some.inj hparts, List.mem_cons, List.mem_cons] at h
          rcases h with h | h | h
          · refine ⟨_, ?_, h⟩
            simp only [Hangul.leadBase, Hangul.syllableBase, Hangul.vowels, Hangul.trails]
            omega
          · refine ⟨_, ?_, h⟩
            simp only [Hangul.vowelBase, Hangul.syllableBase, Hangul.vowels, Hangul.trails]
            omega
          · split at h
            · cases h
            · refine ⟨_, ?_, List.mem_singleton.1 h⟩
              simp only [Hangul.trailBase, Hangul.syllableBase, Hangul.trails]
              omega
        rw [toNat_ofNat (.inl (by omega))] at hn
        omega
      · cases hparts
    · cases hrow : findRow? Decomposition.rows d.toNat with
      | none => exact List.mem_singleton.1 (by simpa [hrow] using h)
      | some text =>
        obtain ⟨r, hr, -, rfl⟩ := (tablesOrdered).decompositions.findRow?_eq_some_iff.1 hrow
        obtain ⟨n, hmem, rfl⟩ := List.mem_map.1 (by simpa [hrow] using h : c ∈ rowText r)
        have hall := of_mem_rowDigits (List.all_eq_true.1 (kanaChecked).wa r (Decomposition.rows_toList ▸ hr)) (by simp) hmem
        cases hw.symm.trans (isWa_ofNat (by simpa using hall))

theorem isWa_of_mem_ordered (h : c ∈ ordered (t.map toKatakana)) : isWa c = false := by
  rw [Bool.eq_false_iff]
  intro hw
  obtain ⟨d, hd, hcd⟩ := List.mem_flatMap.1 (mem_ordered.1 h)
  rw [← eq_of_mem_decompose hcd hw] at hd
  have hmarks := combineMarks_map none t
  rw [Option.map_none] at hmarks
  rw [hmarks] at hd
  obtain ⟨e, -, rfl⟩ := List.mem_map.1 hd
  have hletter := hiraganaLetter_of_isWa hw
  rw [toNat_toKatakana, hiraganaLetter_katakanaOf] at hletter
  cases hletter

theorem voicedWas_of_not_wa (h : ∀ c ∈ l, isWa c = false) : voicedWas l = 0 := by
  simpa [voicedWas] using voicedWas_append h []

theorem compose_map_toKatakana (h : InOrder l) :
    (fuzzyOf (compose ⟨none, []⟩ (l.map toKatakana))).length + voicedWas l = (fuzzyOf (compose ⟨none, []⟩ l)).length ∧
    (voicedWas l = 0 → compose ⟨none, []⟩ (l.map toKatakana) = (compose ⟨none, []⟩ l).map toKatakana) :=
  compose_inKatakana (k := ⟨none, []⟩) (.start h none) nofun

theorem chars_map_toKatakana (t : List Char) : fuzzy.chars (t.map toKatakana) =
    fuzzyOf (compose ⟨none, []⟩ ((ordered t).map toKatakana)) := by
  have hnone := voicedWas_of_not_wa fun _ hc => isWa_of_mem_ordered (t := t) hc
  rw [← map_ordered, (compose_map_toKatakana (inOrder_ordered _)).2 hnone, fuzzyOf_map, chars_fuzzy]

/-- **The script of kana does not show in a fuzzy form** except for the letters that are voiced in katakana only, each of
which makes it shorter by one character. -/
theorem chars_map_toKatakana_iff (t : List Char) :
    (fuzzy.chars (t.map toKatakana)).length + voicedWas (ordered t) = (fuzzy.chars t).length ∧
    (fuzzy.chars (t.map toKatakana) = fuzzy.chars t ↔ voicedWas (ordered t) = 0) := by
  obtain ⟨hlen, heq⟩ := compose_map_toKatakana (inOrder_ordered t)
  rw [chars_map_toKatakana, chars_fuzzy]
  refine ⟨hlen, fun h => ?_, fun h => ?_⟩
  · rw [h] at hlen
    omega
  · rw [heq h, fuzzyOf_map]

end Projection

end FileIndex
