/-
The steps of a form, and white space in fuzzy forms. The fuzzy form of a text is taken from the text that composition
starts from (`ordered`), composed and then folded character by character (`fuzzyOf`). A blank cuts a text in two
(`chars_append_blank`), so that a fuzzy form is put together from those of the words between the blanks
(`chars_eq_flatMap_splitOnP`). Without the blanks it is the same as long as no word but the first begins with a character
that leans on what stands in front of it (`chars_filter_isBlank`).
-/
import FileIndex.Proofs.Text.Composing
import FileIndex.Proofs.Text.Seek

namespace FileIndex

open Text

namespace Text

/-! ## Blanks -/

/-- All white space. -/
def blankChars : List Char :=
  ['\t', '\n', '\u000B', '\u000C', '\r', ' ', '\u0085', '\u00A0', '\u1680', '\u2000', '\u2001', '\u2002', '\u2003', '\u2004',
    '\u2005', '\u2006', '\u2007', '\u2008', '\u2009', '\u200A', '\u2028', '\u2029', '\u202F', '\u205F', '\u3000']

/-- The white space that decompositions of white space lead to. -/
def plainBlanks : List Char :=
  ['\t', '\n', '\u000B', '\u000C', '\r', ' ', '\u0085', '\u1680', '\u2028', '\u2029']

variable {b c d : Char}

/-- What is checked of white space: the runs hold nothing else, it decomposes to plain white space, and that has no upper
case, is no mark and joins nothing. -/
@[mk_iff]
structure BlanksChecked : Prop where
  runs : (List.range 10).all (fun i => (List.range (blanks.bounds.getD (2 * i + 1) 0 - blanks.bounds.getD (2 * i) 0)).all
    fun k => blankChars.contains (Char.ofNat (blanks.bounds.getD (2 * i) 0 + k))) = true
  decompositions : blankChars.all (fun b => (plainBlanks.map ([·])).contains (Seek.decompose b)) = true
  plain : plainBlanks.all (fun d => isBlank d && Seek.uppercase d == [d] && Seek.combiningClass d == 0 &&
    !Hangul.leads d.toNat && !Hangul.follows d.toNat) = true
  composites : plainBlanks.all (fun d => composites.toList.all fun r => rowFirst r != d.toNat && r % rowBase != d.toNat) = true

theorem blanksChecked : BlanksChecked := by
  rw [blanksChecked_iff]
  decide +kernel

theorem mem_blankChars (h : isBlank b = true) : b ∈ blankChars := by
  have hchar : ∀ n, b.toNat = n → b = Char.ofNat n := fun n hn => by rw [← hn, Char.ofNat_toNat]
  rw [isBlank] at h
  split at h
  · simp only [Bool.or_eq_true, beq_iff_eq, Bool.and_eq_true, decide_eq_true_eq] at h
    rcases h with rfl | ⟨h1, h2⟩
    · decide
    · have : b.toNat = 9 ∨ b.toNat = 10 ∨ b.toNat = 11 ∨ b.toNat = 12 ∨ b.toNat = 13 := by omega
      rcases this with h | h | h | h | h <;> rw [hchar _ h] <;> decide
  · obtain ⟨i, hi, h1, h2⟩ := CodeSet.exists_of_contains (by decide) (by decide) h
    have hi10 : i < 10 := by
      have hsize : blanks.bounds.size = 20 := rfl
      omega
    have hrun := List.all_eq_true.1 (blanksChecked).runs i (List.mem_range.2 hi10)
    rw [Array.getD_eq_getD_getElem?, Array.getD_eq_getD_getElem?, Array.getElem?_eq_getElem hi,
      Array.getElem?_eq_getElem (by omega), Option.getD_some, Option.getD_some] at hrun
    have hmem := List.all_eq_true.1 hrun (b.toNat - blanks.bounds[2 * i]) (List.mem_range.2 (by omega))
    rwa [Nat.add_sub_cancel' h1, Char.ofNat_toNat, List.contains_iff_mem] at hmem

/-- White space decomposes to white space that has no upper case and joins nothing. -/
theorem exists_plainBlank (h : isBlank b = true) : ∃ d, decompose b = [d] ∧ isBlank d = true ∧ uppercase d = [d] ∧
    StartsAnew d ∧ Inert d := by
  have hdec := List.all_eq_true.1 (blanksChecked).decompositions b (mem_blankChars h)
  rw [Seek.decompose_eq, List.contains_iff_mem, List.mem_map] at hdec
  obtain ⟨d, hd, hdec⟩ := hdec
  have hplain := List.all_eq_true.1 (blanksChecked).plain d hd
  simp only [Bool.and_eq_true, beq_iff_eq, Bool.not_eq_true', Seek.uppercase_eq, Seek.combiningClass_eq] at hplain
  obtain ⟨⟨⟨⟨hblank, hupper⟩, hclass⟩, hleads⟩, hfollows⟩ := hplain
  have hrow : ∀ r ∈ composites.toList, rowFirst r ≠ d.toNat ∧ r % rowBase ≠ d.toNat := fun r hr => by
    simpa using List.all_eq_true.1 (List.all_eq_true.1 (blanksChecked).composites d hd) r hr
  exact ⟨d, hdec.symm, hblank, hupper, startsAnew_of_no_row hclass hfollows fun r hr => (hrow r hr).2,
    inert_of_no_row hleads fun r hr => (hrow r hr).1⟩

end Text

namespace Projection

variable {b c : Char} {p : Option Char} {t u v w x y : List Char}

/-! ## Marks behind kana -/

theorem combineMarks_append (p : Option Char) (x y : List Char) :
    combineMarks p (x ++ y) = combineMarks p x ++ combineMarks (x.getLast?.or p) y := by
  induction x generalizing p with
  | nil => rfl
  | cons c x ih =>
    rw [List.cons_append, combineMarks, combineMarks, ih, List.cons_append, List.getLast?_cons]
    cases x.getLast? <;> rfl

/-- Behind a character that is no kana marks are read as at the start of a text. -/
theorem combineMarks_some (h : isKana b = false) (y : List Char) : combineMarks (some b) y = combineMarks none y := by
  cases y with
  | nil => rfl
  | cons c y => simp [combineMarks, combineMark, h]

/-! ## Texts in order -/

/-- The fuzzy form of a text that is already composed. -/
def fuzzyOf (t : List Char) : List Char := (t.flatMap uppercase).filterMap fuzzyChar?

theorem fuzzyOf_append (x y : List Char) : fuzzyOf (x ++ y) = fuzzyOf x ++ fuzzyOf y := by
  rw [fuzzyOf, List.flatMap_append, List.filterMap_append]
  rfl

/-- The text that composition starts from: decomposed and in canonical order. -/
def ordered (t : List Char) : List Char := reorder ((combineMarks none t).flatMap decompose)

theorem inOrder_ordered (t : List Char) : InOrder (ordered t) := inOrder_reorder _

theorem mem_ordered : c ∈ ordered t ↔ c ∈ (combineMarks none t).flatMap decompose := (perm_reorder _).mem_iff

theorem chars_fuzzy (t : List Char) : fuzzy.chars t = fuzzyOf (compose ⟨none, []⟩ (ordered t)) := rfl

theorem chars_nil : fuzzy.chars [] = [] := rfl

/-! ## Marks behind blanks -/

theorem isKana_of_isBlank (h : isBlank b = true) : isKana b = false := by
  have hall : ∀ b ∈ blankChars, isKana b = false := forall_mem_of_all (by decide)
  exact hall b (mem_blankChars h)

theorem combineMark_of_isBlank (h : isBlank b = true) (p : Option Char) : combineMark p b = b := by
  have hall : ∀ b ∈ blankChars, b ≠ '\u309B' ∧ b ≠ '\u309C' := forall_mem_of_all (by decide)
  obtain ⟨h1, h2⟩ := hall b (mem_blankChars h)
  rw [combineMark, if_neg h1, if_neg h2]
  split <;> rfl

/-! ## Blanks in a text -/

theorem ordered_append_blank (hb : isBlank b = true) (u v : List Char) :
    ∃ d, isBlank d = true ∧ uppercase d = [d] ∧ StartsAnew d ∧ Inert d ∧ ordered (u ++ b :: v) = ordered u ++ d :: ordered v := by
  obtain ⟨d, hdec, hblank, hupper, hanew, hinert⟩ := exists_plainBlank hb
  refine ⟨d, hblank, hupper, hanew, hinert, ?_⟩
  rw [ordered, combineMarks_append, combineMarks, combineMark_of_isBlank hb, combineMarks_some (isKana_of_isBlank hb),
    List.flatMap_append, List.flatMap_cons, hdec, List.singleton_append, reorder_append_starter hanew.1]
  rfl

/-- **A blank cuts a text in two.** -/
theorem chars_append_blank (hb : isBlank b = true) (u v : List Char) :
    fuzzy.chars (u ++ b :: v) = fuzzy.chars u ++ fuzzy.chars v := by
  obtain ⟨d, hblank, hupper, hanew, hinert, ho⟩ := ordered_append_blank hb u v
  have hd : fuzzyOf (d :: compose ⟨none, []⟩ (ordered v)) = fuzzyOf (compose ⟨none, []⟩ (ordered v)) := by
    rw [fuzzyOf, List.flatMap_cons, hupper, List.singleton_append, List.filterMap_cons]
    simp only [fuzzyChar?, hblank, if_true]
    rfl
  rw [chars_fuzzy, ho, compose_append_solitary hanew hinert, fuzzyOf_append, hd, chars_fuzzy, chars_fuzzy]

/-- A text is one word, or a first word and a blank in front of a shorter text. -/
theorem words_induct {motive : List Char → Prop} (word : ∀ x, (∀ c ∈ x, isBlank c = false) → motive x)
    (blank : ∀ x b y, (∀ c ∈ x, isBlank c = false) → isBlank b = true → motive y → motive (x ++ b :: y))
    (t : List Char) : motive t := by
  have hstep : ∀ x, (∀ c ∈ x, isBlank c = false) → motive (x ++ t) := by
    induction t with
    | nil => exact fun x hx => by simpa using word x hx
    | cons c t ih =>
      intro x hx
      cases hc : isBlank c with
      | true => exact blank x c t hx hc (ih [] nofun)
      | false =>
        have := ih (x ++ [c]) fun d hd => by
          rcases List.mem_append.1 hd with hd | hd
          · exact hx d hd
          · rwa [List.mem_singleton.1 hd]
        simpa using this
  exact hstep [] nofun

/-- **The fuzzy form of a text is put together from those of its words.** -/
theorem chars_eq_flatMap_splitOnP (t : List Char) : fuzzy.chars t = (t.splitOnP isBlank).flatMap fuzzy.chars := by
  induction t using words_induct with
  | word x hx => rw [List.splitOnP_eq_singleton hx, List.flatMap_singleton]
  | blank x b y hx hb ih =>
    rw [chars_append_blank hb, List.splitOnP_append_cons_of_forall_mem hx b hb, List.flatMap_cons, ih]

/-! ## A text without its blanks -/

/-- Whether a character leans on nothing in front of it: it is no spacing voice mark, and its decomposition begins with
a character that starts anew. -/
def Detached (c : Char) : Prop :=
  c ≠ '\u309B' ∧ c ≠ '\u309C' ∧ ∃ d rest, decompose c = d :: rest ∧ StartsAnew d

theorem chars_append_detached (h : Detached c) (u v : List Char) :
    fuzzy.chars (u ++ c :: v) = fuzzy.chars u ++ fuzzy.chars (c :: v) := by
  obtain ⟨h1, h2, d, rest, hdec, hanew⟩ := h
  have hmark : ∀ p, combineMark p c = c := fun p => by
    rw [combineMark, if_neg h1, if_neg h2]
    split <;> rfl
  have ho : ordered (c :: v) = d :: reorder (rest ++ (combineMarks (some c) v).flatMap decompose) := by
    rw [ordered, combineMarks, hmark, List.flatMap_cons, hdec]
    exact placeMark_of_starter hanew.1 _
  have hs : ordered (u ++ c :: v) = ordered u ++ ordered (c :: v) := by
    rw [ho, ordered, combineMarks_append, combineMarks, hmark, List.flatMap_append, List.flatMap_cons, hdec,
      List.cons_append, reorder_append_starter hanew.1]
    rfl
  rw [chars_fuzzy, hs, ho, compose_append_startsAnew hanew, fuzzyOf_append, chars_fuzzy, chars_fuzzy, ho,
    compose_none_starter hanew.1]

/-- Whether every word of a text but the first begins with a character that leans on nothing in front of it. -/
def DetachedWords (t : List Char) : Prop := ∀ u a w c v, t = u ++ a :: (w ++ c :: v) → isBlank a = false → w ≠ [] →
  (∀ b ∈ w, isBlank b = true) → isBlank c = false → Detached c

theorem DetachedWords.of_append (h : DetachedWords (x ++ y)) : DetachedWords y := by
  rintro u a w c v rfl
  exact h (x ++ u) a w c v (by simp)

/-- **Without its blanks a text has the same fuzzy form** if its words are detached. -/
theorem chars_filter_isBlank (t : List Char) (h : DetachedWords t) :
    fuzzy.chars (t.filter fun c => !isBlank c) = fuzzy.chars t := by
  induction t using words_induct with
  | word x hx => rw [List.filter_eq_self.2 fun c hc => by simp [hx c hc]]
  | blank x b y hx hb ih =>
    have hfilter : (x ++ b :: y).filter (fun c => !isBlank c) = x ++ y.filter fun c => !isBlank c := by
      rw [List.filter_append, List.filter_eq_self.2 fun c hc => by simp [hx c hc], List.filter_cons_of_neg (by simp [hb])]
    rw [hfilter, chars_append_blank hb, ← ih (DetachedWords.of_append (x := x ++ [b]) (by simpa using h))]
    -- The next word begins behind the blanks that are left.
    rcases List.eq_nil_or_concat x with rfl | ⟨u, a, rfl⟩
    · rw [List.nil_append, chars_nil, List.nil_append]
    cases hy : y.filter fun c => !isBlank c with
    | nil => rw [chars_nil, List.append_nil, List.append_nil]
    | cons c v =>
      obtain ⟨w, v', rfl, hw, hc, -⟩ := List.filter_eq_cons_iff.1 hy
      refine chars_append_detached (h u a (b :: w) c v' (by simp) (hx a (by simp)) (by simp) ?_ (by simpa using hc)) _ _
      exact List.forall_mem_cons.2 ⟨hb, fun d hd => by simpa using hw d hd⟩

end Projection

end FileIndex
