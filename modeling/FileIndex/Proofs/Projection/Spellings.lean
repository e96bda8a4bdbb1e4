/-
What a fuzzy key takes no notice of: the script of kana, white space and case, each as far as composition allows. All three
are folded after the text is composed, so that a text whose folded form could be composed further has spellings with other
forms (`chars_spelling_differs`). As to case, in normal form a folded text does not tell whether the text was in upper case
already (`normalForm_folded_uppercase`), unless an iota subscript stands in it; the fuzzy forms agree where upper case
leaves both texts composed (`chars_flatMap_uppercase`).
-/
import FileIndex.Filter.Matcher
import FileIndex.Proofs.Projection.Forms
import FileIndex.Proofs.Projection.Kana
import FileIndex.Proofs.Projection.Voicing
import FileIndex.Proofs.Text.Casing

namespace FileIndex

namespace Projection

open Text

variable {c d : Char} {p : Projection} {q : Option Char} {l t : List Char}

/-! ## Marks behind kana -/

/-- Whether a number stands for no kana. -/
def outsideKana (n : Nat) : Bool := !within 0x3041 0x30FF n && !within 0xFF66 0xFF9F n

/-- What is checked of upper case: half-width kana have none, and no upper case is kana. -/
@[mk_iff]
structure FoldingChecked : Prop where
  texts : ∀ r ∈ uppercaseTexts.toList, (r % rowBase < 0xFF66 ∨ 0xFF9F < r % rowBase) ∧ rowBase ≤ r ∧
    allDigits outsideKana 18 (r / rowBase) = true
  runs : ∀ r ∈ uppercaseRuns.toList, (r / rowBase % rowBase < 0xFF66 ∨ 0xFF9F < r % rowBase) ∧
    (r / rowBase % rowBase - r % rowBase + r / rowBase / rowBase / rowBase < 0x3041 ∨
      0x30FF < r / rowBase / rowBase / rowBase ∧
        (r / rowBase % rowBase - r % rowBase + r / rowBase / rowBase / rowBase < 0xFF66 ∨
          0xFF9F < r / rowBase / rowBase / rowBase))
  subscript : (Seek.decompose '\u3099').contains '\u0345' = false ∧ (Seek.decompose '\u309A').contains '\u0345' = false

theorem foldingChecked : FoldingChecked := by
  rw [foldingChecked_iff]
  decide +kernel

theorem isKana_iff : isKana c = true ↔ 0x3041 ≤ c.toNat ∧ c.toNat ≤ 0x309F ∨ 0x30A0 ≤ c.toNat ∧ c.toNat ≤ 0x30FF ∨
    0xFF66 ≤ c.toNat ∧ c.toNat ≤ 0xFF9F := by
  simp [isKana, isHiragana, isKatakana]

/-- Kana have no upper case. -/
theorem uppercase_of_isKana (h : isKana c = true) : uppercase c = [c] := by
  rw [isKana_iff] at h
  refine uppercase_of_no_row (by omega) (fun r hr => ?_) fun r hr => ?_
  · have h1 := (kanaChecked).uppercaseTexts r hr
    have h2 := ((foldingChecked).texts r hr).1
    omega
  · have h1 := (kanaChecked).uppercaseRuns r hr
    have h2 := ((foldingChecked).runs r hr).1
    omega

theorem isKana_ofNat {n : Nat} (h : outsideKana n = true) : isKana (Char.ofNat n) = false := by
  by_cases hn : n.isValidChar
  · rw [Bool.eq_false_iff, Ne, isKana_iff, toNat_ofNat hn]
    simp only [outsideKana, Bool.and_eq_true, Bool.not_eq_true', within_eq_false] at h
    omega
  · rw [ofNat_of_not_valid hn]
    decide

theorem rowDigits_ne_nil {n : Nat} {acc : List Nat} (h : n ≠ 0 ∨ acc ≠ []) : rowDigits n acc ≠ [] := by
  fun_induction rowDigits n acc with
  | case1 acc => exact h.resolve_left (by simp)
  | case2 n acc hn ih => exact ih (.inr (List.cons_ne_nil _ _))

/-- No upper case is kana. -/
theorem uppercase_of_not_isKana (h : isKana c = false) : uppercase c ≠ [] ∧ ∀ d ∈ uppercase c, isKana d = false := by
  rcases uppercase_cases c with hu | ⟨hc, hu⟩ | ⟨r, hr, -, hu⟩ | ⟨r, hr, -, hfirst, hlast, hu⟩ <;> rw [hu]
  · simpa using h
  · have hascii : ∀ n < 0x80, isKana (Char.ofNat n).toUpper = false := by decide
    have hnot := hascii c.toNat hc
    rw [Char.ofNat_toNat] at hnot
    simpa using hnot
  · obtain ⟨-, hbig, hdigits⟩ := (foldingChecked).texts r hr
    have hn : r / rowBase ≠ 0 := fun h0 => by
      have := (Nat.div_eq_zero_iff).1 h0
      simp only [rowBase] at this hbig
      omega
    refine ⟨fun hnil => rowDigits_ne_nil (.inl hn) (List.map_eq_nil_iff.1 hnil), fun d hd => ?_⟩
    obtain ⟨n, hn, rfl⟩ := List.mem_map.1 hd
    exact isKana_ofNat (of_mem_rowDigits hdigits (by simp) hn)
  · have hrange := ((foldingChecked).runs r hr).2
    refine ⟨List.cons_ne_nil _ _, fun d hd => ?_⟩
    rw [List.mem_singleton.1 hd]
    refine isKana_ofNat ?_
    simp only [outsideKana, Bool.and_eq_true, Bool.not_eq_true', within_eq_false]
    omega

theorem isKana_combineMark (q : Option Char) (c : Char) : isKana (combineMark q c) = isKana c := by
  rw [combineMark]
  split
  · split
    · rename_i h
      rw [h]
      decide
    · split
      · rename_i h
        rw [h]
        decide
      · rfl
  · rfl

theorem combineMark_of_not_isKana (h : isKana c = false) (q : Option Char) : combineMark q c = c := by
  have hne : ∀ d, isKana d = true → c ≠ d := by
    rintro d hd rfl
    rw [h] at hd
    cases hd
  rw [combineMark, if_neg (hne '\u309B' (by decide)), if_neg (hne '\u309C' (by decide))]
  split <;> rfl

theorem combineMarks_of_not_isKana (h : ∀ c ∈ l, isKana c = false) (q : Option Char) : combineMarks q l = l := by
  induction l generalizing q with
  | nil => rfl
  | cons c l ih =>
    rw [combineMarks, combineMark_of_not_isKana (h c (by simp)), ih fun d hd => h d (by simp [hd])]

/-- Marks behind kana are combined in upper case as they are in the text. -/
theorem combineMarks_flatMap_uppercase (q : Option Char) (t : List Char) :
    combineMarks q (t.flatMap uppercase) = (combineMarks q t).flatMap uppercase := by
  induction t generalizing q with
  | nil => rfl
  | cons c t ih =>
    rw [List.flatMap_cons, combineMarks_append, ih, combineMarks, List.flatMap_cons]
    cases h : isKana c with
    | true =>
      rw [uppercase_of_isKana h, uppercase_of_isKana ((isKana_combineMark q c).trans h)]
      rfl
    | false =>
      obtain ⟨hne, hnot⟩ := uppercase_of_not_isKana h
      rw [combineMark_of_not_isKana h, combineMarks_of_not_isKana hnot, combineMarks_some h,
        List.getLast?_eq_some_getLast hne]
      exact congrArg _ (congrArg _ (combineMarks_some (hnot _ (List.getLast_mem hne)) t))

/-! ## Folded texts -/

theorem mem_combineMarks (h : c ∈ combineMarks q t) : c ∈ t ∨ c = '\u3099' ∨ c = '\u309A' := by
  induction t generalizing q with
  | nil => cases h
  | cons b t ih =>
    rw [combineMarks, List.mem_cons] at h
    rcases h with h | h
    · rw [combineMark] at h
      split at h
      · split at h
        · exact .inr (.inl h)
        · split at h
          · exact .inr (.inr h)
          · exact .inl (by simp [h])
      · exact .inl (by simp [h])
    · exact (ih h).imp_left fun h => by simp [h]

/-- Without iota subscripts a folded text can be told from the text decomposed, but for the order of marks. -/
theorem reorder_flatMap_folded (h : '\u0345' ∉ (combineMarks none t).flatMap decompose) :
    reorder ((folded t).flatMap decompose) = reorder (((combineMarks none t).flatMap decompose).flatMap cased) := by
  have hne : ∀ d ∈ (combineMarks none t).flatMap decompose, d ≠ '\u0345' := by
    rintro d hd rfl
    exact h hd
  have hcased : (folded t).flatMap decompose = (compose ⟨none, []⟩ (ordered t)).flatMap cased := by
    rw [folded, List.flatMap_assoc]
    rfl
  rw [hcased, keepsMarks_cased.reorder_flatMap_compose (.start (inOrder_ordered t) none) nofun
    fun d hd => hne d (mem_ordered.1 hd)]
  exact keepsMarks_cased.reorder_flatMap_reorder hne

theorem normalForm_congr {x y : List Char} (h : reorder (x.flatMap decompose) = reorder (y.flatMap decompose)) :
    normalForm x = normalForm y := by rw [normalForm, normalForm, h]

/-- **In normal form a folded text has no case** if there is no iota subscript in it. -/
theorem normalForm_folded_uppercase (h : '\u0345' ∉ t.flatMap decompose) :
    normalForm (folded (t.flatMap uppercase)) = normalForm (folded t) := by
  have hmarks : '\u0345' ∉ (combineMarks none t).flatMap decompose := by
    intro hmem
    obtain ⟨c, hc, hmem⟩ := List.mem_flatMap.1 hmem
    have hmark := (foldingChecked).subscript
    rw [Seek.decompose_eq, Seek.decompose_eq, Bool.eq_false_iff, Bool.eq_false_iff, Ne, Ne, List.contains_iff_mem,
      List.contains_iff_mem] at hmark
    rcases mem_combineMarks hc with hc | rfl | rfl
    · exact h (List.mem_flatMap.2 ⟨c, hc, hmem⟩)
    · exact hmark.1 hmem
    · exact hmark.2 hmem
  have hupper : (combineMarks none (t.flatMap uppercase)).flatMap decompose = (combineMarks none t).flatMap cased := by
    rw [combineMarks_flatMap_uppercase, List.flatMap_assoc]
    rfl
  have hcased : '\u0345' ∉ (combineMarks none t).flatMap cased := by
    intro hmem
    obtain ⟨c, hc, hmem⟩ := List.mem_flatMap.1 hmem
    exact hmarks (List.mem_flatMap.2 ⟨c, hc, (cased_cased c).2 hmem⟩)
  refine normalForm_congr ?_
  rw [reorder_flatMap_folded (hupper ▸ hcased), reorder_flatMap_folded hmarks, hupper, List.flatMap_assoc, List.flatMap_assoc]
  simp only [(cased_cased _).1]

/-- **The case of a text does not show in its forms** where upper case leaves both texts composed. -/
theorem chars_flatMap_uppercase (h : '\u0345' ∉ t.flatMap decompose) (ht : normalForm (folded t) = folded t)
    (hu : normalForm (folded (t.flatMap uppercase)) = folded (t.flatMap uppercase)) (p : Projection) :
    p.chars (t.flatMap uppercase) = p.chars t := by
  have heq : folded (t.flatMap uppercase) = folded t := by rw [← hu, normalForm_folded_uppercase h, ht]
  cases p with
  | fuzzy => rw [chars, chars, heq]
  | word => rw [chars, chars, heq]

/-! ## Spellings -/

/-- A text whose case does not show: it has no iota subscript, and upper case leaves it composed as it leaves the text in
upper case composed. -/
structure EvenlyCased (t : List Char) : Prop where
  subscript : '\u0345' ∉ t.flatMap decompose
  composed : normalForm (folded t) = folded t
  composedUpper : normalForm (folded (t.flatMap uppercase)) = folded (t.flatMap uppercase)

theorem EvenlyCased.chars_eq (h : EvenlyCased t) (p : Projection) : p.chars (t.flatMap uppercase) = p.chars t :=
  chars_flatMap_uppercase h.subscript h.composed h.composedUpper p

theorem DetachedWords.of_forall (h : ∀ c ∈ t.tail, isBlank c = false → Detached c) : DetachedWords t := by
  rintro u a w c v rfl - - - hc
  refine h c ?_ hc
  cases u <;> simp

theorem apply_eq_iff {x y : List Char} (p : Projection) :
    p.apply (String.ofList x) = p.apply (String.ofList y) ↔ p.chars x = p.chars y := by
  rw [apply, apply, String.toList_ofList, String.toList_ofList]
  exact ⟨fun h => by simpa using congrArg String.toList h, congrArg _⟩

/-- **Script, white space and case in fuzzy forms**, for every text. In katakana its form is the same if and only if it
voices none of the letters that are voiced in katakana only; without its blanks it is put together from the same words,
and is the same if these are detached; in upper case it has the same folded text in normal form unless there is an iota
subscript, and the same form if it is evenly cased. A fuzzy key takes no notice of a word or a name beyond its form. -/
theorem fuzzy_apply_spelling (t : List Char) :
    (fuzzy.apply (String.ofList (t.map toKatakana)) = fuzzy.apply (String.ofList t) ↔ voicedWas (ordered t) = 0) ∧
    fuzzy.chars t = (t.splitOnP isBlank).flatMap fuzzy.chars ∧
    (DetachedWords t → fuzzy.apply (String.ofList (t.filter fun c => !isBlank c)) = fuzzy.apply (String.ofList t)) ∧
    ('\u0345' ∉ t.flatMap decompose → normalForm (folded (t.flatMap uppercase)) = normalForm (folded t)) ∧
    (EvenlyCased t → fuzzy.apply (String.ofList (t.flatMap uppercase)) = fuzzy.apply (String.ofList t)) ∧
    ∀ s, fuzzy.apply s = fuzzy.apply (String.ofList t) →
      (∀ now p, Matcher.compile now .fuzzy p s = Matcher.compile now .fuzzy p (String.ofList t)) ∧
      ∀ needle path isDirectory isPinned size modified,
        (Matcher.fuzzy needle).holds .text (.ofName s path isDirectory isPinned size modified) =
          (Matcher.fuzzy needle).holds .text (.ofName (String.ofList t) path isDirectory isPinned size modified) := by
  refine ⟨?_, chars_eq_flatMap_splitOnP t, fun h => ?_, normalForm_folded_uppercase, fun h => ?_, fun s hs => ⟨?_, ?_⟩⟩
  · rw [apply_eq_iff, (chars_map_toKatakana_iff t).2]
  · rw [apply_eq_iff, chars_filter_isBlank t h]
  · rw [apply_eq_iff, h.chars_eq]
  · intro now p
    rw [Matcher.compile, Matcher.compile, hs]
  · intro needle path isDirectory isPinned size modified
    simp only [Matcher.holds, Matcher.form, Item.ofName, hs]

theorem fuzzy_apply_spelling_accented : DetachedWords ['é', ' ', 'か'] ∧ EvenlyCased ['é', ' ', 'か'] ∧
    fuzzy.apply (String.ofList (['é', ' ', 'か'].map toKatakana)) = fuzzy.apply (String.ofList ['é', ' ', 'か']) ∧
    fuzzy.apply (String.ofList (['é', ' ', 'か'].filter fun c => !isBlank c)) = fuzzy.apply (String.ofList ['é', ' ', 'か']) ∧
    fuzzy.apply (String.ofList (['é', ' ', 'か'].flatMap uppercase)) = fuzzy.apply (String.ofList ['é', ' ', 'か']) := by
  obtain ⟨hdec, hsubscript, hcomposed, hupper, hvoiced⟩ : decompose 'か' = ['か'] ∧ '\u0345' ∉ ['é', ' ', 'か'].flatMap decompose ∧
      normalForm (folded ['é', ' ', 'か']) = folded ['é', ' ', 'か'] ∧
      normalForm (folded (['é', ' ', 'か'].flatMap uppercase)) = folded (['é', ' ', 'か'].flatMap uppercase) ∧
      voicedWas (ordered ['é', ' ', 'か']) = 0 := by
    simp only [folded, normalForm, ordered, ← funext Seek.decompose_eq, ← funext Seek.uppercase_eq]
    decide +kernel
  have hwords : DetachedWords ['é', ' ', 'か'] := DetachedWords.of_forall fun c hc hblank => by
    rcases List.mem_cons.1 hc with rfl | hc
    · exact absurd hblank (by decide)
    · obtain rfl := List.mem_singleton.1 hc
      exact ⟨by decide, by decide, _, _, hdec, startsAnew_of_letter (.inl rfl)⟩
  obtain ⟨hkana, -, hblanks, -, hcase, -⟩ := fuzzy_apply_spelling ['é', ' ', 'か']
  have heven : EvenlyCased ['é', ' ', 'か'] := ⟨hsubscript, hcomposed, hupper⟩
  exact ⟨hwords, heven, hkana.2 hvoiced, hblanks hwords, hcase heven⟩

/-- In katakana a voice mark joins `wa`, without a blank it joins the letter in front of the blank, and the upper case of an
accented iota is composed otherwise than the letter: each time the form is another. -/
theorem chars_spelling_differs :
    fuzzy.chars (['わ', '\u3099'].map toKatakana) ≠ fuzzy.chars ['わ', '\u3099'] ∧
    fuzzy.chars (['か', ' ', '\u3099'].filter fun c => !isBlank c) ≠ fuzzy.chars ['か', ' ', '\u3099'] ∧
    fuzzy.chars (['ΐ'].flatMap uppercase) ≠ fuzzy.chars ['ΐ'] := by
  simp only [chars, folded, normalForm, ← funext Seek.decompose_eq, ← funext Seek.uppercase_eq]
  decide +kernel

end Projection

end FileIndex
