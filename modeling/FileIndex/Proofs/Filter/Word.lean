/-
Which occurrences of a word count. A word is looked for from the left, each time behind the end of the occurrence in
front (`Word.Taken`), and an item is found if one of those lies between two word boundaries. An occurrence between
boundaries may be passed over that way, if one that is taken reaches into it, which is possible for the words that
overlap themselves at a boundary and for no others (`Word.Breaks`).
-/
import FileIndex.Filter.Matcher
import FileIndex.Proofs.Text.Occurrence

namespace FileIndex

namespace Word

/-! ## Occurrences of a word -/

/-- Whether an occurrence is taken: those that are taken in front of it end in front of it. -/
def Taken (needle hay : String) (s : Nat) : Prop :=
  OccursAt needle hay s ∧ ∀ r, r < s → Taken needle hay r → r + needle.utf8ByteSize ≤ s
termination_by s

/-- Whether what stands behind so many bytes starts and ends at a boundary. -/
def Bounded (needle hay : String) (s : Nat) : Prop :=
  Boundary.at? hay s = some true ∧ Boundary.at? hay (s + needle.utf8ByteSize) = some true

/-- Whether a word may overlap itself so that a boundary lies where the second one starts. -/
def Breaks (needle : String) : Prop :=
  ∃ front border back, front ≠ [] ∧ border ≠ [] ∧ needle.toList = front ++ border ∧
    needle.toList = border ++ back ∧ Boundary.between front.getLast? border.head? = true

variable {needle hay : String} {a b done rest : List Char} {s : Nat} {c : Char}

theorem Taken.occursAt (h : Taken needle hay s) : OccursAt needle hay s := by
  rw [Taken] at h
  exact h.1

/-- Where a word occurs, its boundaries are as the characters around its ends are. -/
theorem bounded_iff (hn : needle ≠ "") (h : hay.toList = a ++ needle.toList ++ b) :
    Bounded needle hay (byteSize a) ↔
      Boundary.between a.getLast? needle.toList.head? = true ∧
        Boundary.between needle.toList.getLast? b.head? = true := by
  obtain ⟨hstart, hend⟩ := Boundary.at?_ends hn h
  rw [Bounded, hstart, hend, Option.some_inj, Option.some_inj]

/-! ## The search -/

/-- Whether no occurrence that is taken in front of some byte reaches beyond it. -/
def Clear (needle hay : String) (n : Nat) : Prop := ∀ r, r < n → Taken needle hay r → r + needle.utf8ByteSize ≤ n

theorem taken_iff : Taken needle hay s ↔ OccursAt needle hay s ∧ Clear needle hay s := by
  rw [Taken, Clear]

/-- Nothing that is taken reaches beyond the end of an occurrence that is taken. -/
theorem Taken.clear (h : Taken needle hay s) : Clear needle hay (s + needle.utf8ByteSize) := by
  intro r hr hs
  rcases Nat.lt_trichotomy r s with hlt | rfl | hgt
  · have := (taken_iff.1 h).2 r hlt hs
    omega
  · exact Nat.le_refl _
  · have := (taken_iff.1 hs).2 s hgt h
    omega

/-- A word that does not occur at some character occurs nowhere between its bytes either. -/
theorem byteSize_lt_of_not_isPrefix (hhay : hay.toList = done ++ c :: rest) (hskip : ¬needle.toList <+: c :: rest)
    (ha : hay.toList = a ++ needle.toList ++ b) (hlt : byteSize a < byteSize (done ++ [c])) :
    byteSize a < byteSize done := by
  have haprefix : a <+: hay.toList := ⟨_, by rw [ha, List.append_assoc]⟩
  have hprefix : done ++ [c] <+: hay.toList := ⟨rest, by rw [hhay, List.append_assoc]; rfl⟩
  rcases List.prefix_concat_iff.1 (isPrefix_of_byteSize_le haprefix hprefix (Nat.le_of_lt hlt)) with rfl | ⟨x, rfl⟩
  · exact absurd hlt (Nat.lt_irrefl _)
  · rw [byteSize_append]
    refine Nat.lt_add_of_pos_right (byteSize_pos.2 fun hx => hskip ?_)
    subst hx
    rw [List.append_nil, ha, List.append_assoc] at hhay
    exact ⟨b, List.append_cancel_left hhay⟩

theorem Clear.skip (h : Clear needle hay (byteSize done)) (hn : needle ≠ "") (hhay : hay.toList = done ++ c :: rest)
    (hskip : ¬needle.toList <+: c :: rest) : Clear needle hay (byteSize (done ++ [c])) := by
  intro r hr hs
  obtain ⟨a, b, ha, rfl⟩ := (occursAt_iff hn).1 hs.occursAt
  have := h _ (byteSize_lt_of_not_isPrefix hhay hskip ha hr) hs
  rw [byteSize_append]
  omega

/-- The search behind some part of a text, out of which nothing reaches that is taken, finds what is taken in the
rest. -/
theorem mem_occurrences (hn : needle ≠ "") (hhay : hay.toList = done ++ rest)
    (hdone : Clear needle hay (byteSize done)) (x : Option Char) (y : List Char) :
    (x, y) ∈ occurrences needle.toList done.getLast? rest ↔
      ∃ a, hay.toList = a ++ needle.toList ++ y ∧ x = a.getLast? ∧ byteSize done ≤ byteSize a ∧
        Taken needle hay (byteSize a) := by
  have hne : needle.toList ≠ [] := mt String.toList_eq_nil_iff.1 hn
  have hpos : 0 < needle.utf8ByteSize := by rwa [← byteSize_toList, byteSize_pos]
  generalize hbefore : done.getLast? = before
  -- Along the search: what has been passed over grows and stays clear.
  fun_induction occurrences needle.toList before rest generalizing done with
  | case1 before =>
    refine iff_of_false List.not_mem_nil ?_
    rintro ⟨a, ha, -, hle, -⟩
    have hsize := congrArg byteSize (hhay.symm.trans ha)
    simp only [byteSize_append, byteSize_nil, byteSize_toList] at hsize
    omega
  | case2 before c rest h ih =>
    subst hbefore
    obtain ⟨after, hafter⟩ := List.isPrefixOf_iff_prefix.1 h.1
    rw [← hafter, List.drop_left] at ih ⊢
    rw [← hafter, ← List.append_assoc] at hhay
    have htaken : Taken needle hay (byteSize done) := taken_iff.2 ⟨occursAt_of_append hhay, hdone⟩
    have hclear : Clear needle hay (byteSize (done ++ needle.toList)) := by
      rw [byteSize_append, byteSize_toList]
      exact htaken.clear
    refine List.mem_cons.trans ((or_congr_right (ih hhay hclear (List.getLast?_append_of_ne_nil _ hne))).trans ?_)
    rw [byteSize_append, byteSize_toList]
    constructor
    · rintro (hxy | ⟨a, ha, hx, hle, hs⟩)
      · obtain ⟨rfl, rfl⟩ := Prod.mk.inj hxy
        exact ⟨done, hhay, rfl, Nat.le_refl _, htaken⟩
      · exact ⟨a, ha, hx, by omega, hs⟩
    · rintro ⟨a, ha, rfl, hle, hs⟩
      rcases Nat.eq_or_lt_of_le hle with heq | hlt
      · obtain rfl : done = a := eq_of_byteSize_eq (t := hay.toList)
          ⟨_, by rw [hhay, List.append_assoc]⟩ ⟨_, by rw [ha, List.append_assoc]⟩ heq
        obtain rfl : after = y := List.append_cancel_left (hhay.symm.trans ha)
        exact .inl rfl
      · exact .inr ⟨a, ha, rfl, (taken_iff.1 hs).2 _ hlt htaken, hs⟩
  | case3 before c rest h ih =>
    subst hbefore
    have hskip : ¬needle.toList <+: c :: rest := fun hprefix => h ⟨List.isPrefixOf_iff_prefix.2 hprefix, hne⟩
    have hhay' : hay.toList = done ++ [c] ++ rest := by rw [hhay, List.append_assoc]; rfl
    refine (ih hhay' (hdone.skip hn hhay hskip) List.getLast?_concat).trans ?_
    refine exists_congr fun a => and_congr_right fun ha => and_congr_right fun _ => and_congr_left fun _ => ?_
    have hbehind := byteSize_lt_of_not_isPrefix hhay hskip ha
    rw [byteSize_append] at hbehind ⊢
    omega

/-- A text contains a word where an occurrence that is taken lies between boundaries. -/
theorem containsWord_iff (needle hay : String) :
    containsWord needle.toList hay.toList = true ↔ ∃ s, Taken needle hay s ∧ Bounded needle hay s := by
  by_cases hn : needle = ""
  · subst hn
    refine iff_of_true rfl ⟨0, taken_iff.2 ⟨occursAt_of_append (a := []) rfl, nofun⟩, ?_⟩
    exact ⟨if_pos (.inl rfl), if_pos (.inl rfl)⟩
  · have hne : needle.toList.isEmpty = false := List.isEmpty_eq_false_iff.2 (mt String.toList_eq_nil_iff.1 hn)
    have hstart : hay.toList = [] ++ hay.toList := rfl
    have hmem := mem_occurrences hn hstart nofun
    rw [containsWord, hne, Bool.false_or, List.any_eq_true]
    constructor
    · rintro ⟨⟨x, y⟩, hxy, hends⟩
      obtain ⟨a, ha, rfl, -, hs⟩ := (hmem x y).1 hxy
      exact ⟨_, hs, (bounded_iff hn ha).2 ((Bool.and_eq_true_iff).1 hends)⟩
    · rintro ⟨s, hs, hends⟩
      obtain ⟨a, b, ha, rfl⟩ := (occursAt_iff hn).1 hs.occursAt
      exact ⟨(a.getLast?, b), (hmem _ _).2 ⟨a, ha, rfl, Nat.zero_le _, hs⟩,
        Bool.and_eq_true_iff.2 ((bounded_iff hn ha).1 hends)⟩

/-! ## Occurrences that are passed over -/

/-- An occurrence between boundaries is taken, unless the word breaks. -/
theorem Bounded.taken (hend : Bounded needle hay s) (hs : OccursAt needle hay s) (hbreaks : ¬Breaks needle) :
    Taken needle hay s := by
  by_cases hn : needle = ""
  · subst hn
    exact taken_iff.2 ⟨hs, fun r hr _ => Nat.le_of_lt hr⟩
  refine taken_iff.2 ⟨hs, fun r hr htaken => ?_⟩
  by_contra hlt
  obtain ⟨a, b, ha, rfl⟩ := (occursAt_iff hn).1 hs
  obtain ⟨d, e, hd, rfl⟩ := (occursAt_iff hn).1 htaken.occursAt
  obtain ⟨front, border, back, rfl, hfront, hborder, hn', hback⟩ := exists_overlap hd ha hr (Nat.not_le.1 hlt)
  refine hbreaks ⟨front, border, back, hfront, hborder, hn', hback, ?_⟩
  have hstart := ((bounded_iff hn ha).1 hend).1
  rwa [List.getLast?_append_of_ne_nil _ hfront, hback, List.head?_append_of_ne_nil _ hborder] at hstart

/-- A text that a word starts with, and that starts with the word without its first character, has no other
characters. -/
theorem eq_of_isPrefix_cons {t : List Char} (h : t <+: c :: t) : ∀ x ∈ t, x = c := by
  induction t generalizing c with
  | nil => nofun
  | cons d t ih =>
    obtain ⟨rfl, ht⟩ := List.cons_prefix_cons.1 h
    rintro x (_ | ⟨_, hx⟩)
    · rfl
    · exact ih ht x hx

/-- A word that breaks is not one character again and again, and so it does not start a text that goes on with it
behind its first character. -/
theorem Breaks.not_isPrefix_cons (h : Breaks needle) (c : Char) :
    ¬needle.toList <+: c :: needle.toList := by
  obtain ⟨front, border, back, hfront, hborder, hn, -, hbetween⟩ := h
  intro hprefix
  have hall := eq_of_isPrefix_cons hprefix
  have hlast : front.getLast hfront = c := hall _ (hn ▸ List.mem_append_left _ (List.getLast_mem hfront))
  have hfirst : border.head hborder = c := hall _ (hn ▸ List.mem_append_right _ (List.head_mem hborder))
  rw [List.getLast?_eq_some_getLast hfront, List.head?_eq_some_head hborder, hlast, hfirst,
    Boundary.between_self] at hbetween
  nomatch hbetween

/-- What occurs behind the first character of a text is taken, unless it occurs at the start of the text as well. -/
theorem taken_of_not_isPrefix (hn : needle ≠ "") (hhay : hay.toList = c :: rest) (hskip : ¬needle.toList <+: c :: rest)
    (hs : OccursAt needle hay (byteSize [c])) : Taken needle hay (byteSize [c]) := by
  refine taken_iff.2 ⟨hs, fun r hr htaken => ?_⟩
  obtain ⟨a, b, ha, rfl⟩ := (occursAt_iff hn).1 htaken.occursAt
  have hstart : hay.toList = [] ++ c :: rest := hhay
  nomatch byteSize_lt_of_not_isPrefix hstart hskip ha hr

/-- There is a text in which a word that breaks occurs between boundaries and is passed over: the two overlapping
words, with the first character once more in front, so that the first of them does not start at a boundary. -/
theorem Breaks.exists_passed (h : Breaks needle) : ∃ hay,
    (∃ s, OccursAt needle hay s ∧ Bounded needle hay s) ∧ ¬∃ s, Taken needle hay s ∧ Bounded needle hay s := by
  have hcons := h.not_isPrefix_cons
  obtain ⟨front, border, back, hfront, hborder, hn, hn', hbetween⟩ := h
  obtain ⟨c, hhead⟩ : ∃ c, needle.toList.head? = some c :=
    ⟨_, by rw [hn, List.head?_append_of_ne_nil _ hfront, List.head?_eq_some_head hfront]⟩
  have hne : needle ≠ "" := by
    rintro rfl
    nomatch hhead
  let hay := String.ofList (c :: (front ++ needle.toList))
  have hhay : hay.toList = c :: (front ++ needle.toList) := String.toList_ofList
  have hsecond : hay.toList = ([c] ++ front) ++ needle.toList ++ [] := by
    rw [hhay, List.append_nil, List.append_assoc]
    rfl
  have hfirst : hay.toList = [c] ++ needle.toList ++ back :=
    calc hay.toList = [c] ++ (front ++ (border ++ back)) := by rw [hhay, ← hn']; rfl
      _ = [c] ++ needle.toList ++ back := by rw [hn, List.append_assoc, List.append_assoc]
  have hskip : ¬needle.toList <+: c :: (front ++ needle.toList) := fun hprefix =>
    hcons c (isPrefix_of_byteSize_le (hhay ▸ hprefix) ⟨back, hfirst.symm⟩ (Nat.le_add_left ..))
  have htaken : Taken needle hay (byteSize [c]) :=
    taken_of_not_isPrefix hne hhay hskip (occursAt_of_append hfirst)
  refine ⟨hay, ⟨_, occursAt_of_append hsecond, (bounded_iff hne hsecond).2 ⟨?_, Boundary.between_none _⟩⟩, ?_⟩
  · rwa [List.getLast?_append_of_ne_nil _ hfront, hn', List.head?_append_of_ne_nil _ hborder]
  · rintro ⟨s, hs, hbounded⟩
    obtain ⟨a, b, ha, rfl⟩ := (occursAt_iff hne).1 hs.occursAt
    have hbetween := ((bounded_iff hne ha).1 hbounded).1
    cases a with
    | nil => exact hskip ⟨b, ha.symm.trans hhay⟩
    | cons d a =>
      obtain rfl : c = d := (List.cons.inj (hhay.symm.trans ha)).1
      by_cases hnil : a = []
      · -- The first of the two words stands behind its own first character.
        rw [hnil, hhead, List.getLast?_singleton, Boundary.between_self] at hbetween
        nomatch hbetween
      · -- Behind that one, there is no room left.
        have hbehind := (taken_iff.1 hs).2 _ (Nat.lt_add_of_pos_right (byteSize_pos.2 hnil)) htaken
        have hsize := congrArg byteSize (hhay.symm.trans ha)
        have hsize' := congrArg byteSize hn
        have hpos := byteSize_pos.2 hborder
        simp only [byteSize_append, byteSize_cons, byteSize_toList] at hbehind hsize hsize'
        omega

/-- What a search for a word comes to: an item is found where an occurrence that is taken lies between boundaries,
which is wherever any occurrence does just for the words that do not break. -/
theorem containsWord_iff_taken (word : String) :
    (∀ hay, containsWord word.toList hay.toList = true ↔ ∃ s, Taken word hay s ∧ Bounded word hay s) ∧
      ((∀ hay, containsWord word.toList hay.toList = true ↔ ∃ s, OccursAt word hay s ∧ Bounded word hay s) ↔
        ¬Breaks word) ∧
      ∀ now p, ∃ m, Matcher.compile now .word p word = .ok m ∧ ∀ item,
        (m.holds p item = .ok true ↔ ∃ s, Taken (Projection.word.apply word) (Matcher.form .word p item) s ∧
          Bounded (Projection.word.apply word) (Matcher.form .word p item) s) ∧
        (Breaks (Projection.word.apply word) ∨
          (m.holds p item = .ok true ↔ ∃ s, OccursAt (Projection.word.apply word) (Matcher.form .word p item) s ∧
            Bounded (Projection.word.apply word) (Matcher.form .word p item) s)) := by
  have hoccurs : ∀ needle hay, ¬Breaks needle → (containsWord needle.toList hay.toList = true ↔
      ∃ s, OccursAt needle hay s ∧ Bounded needle hay s) := fun needle hay hbreaks =>
    (containsWord_iff needle hay).trans
      (exists_congr fun s => and_congr_left fun hends => ⟨Taken.occursAt, fun hs => hends.taken hs hbreaks⟩)
  refine ⟨containsWord_iff word, ⟨fun h hbreaks => ?_, fun hbreaks hay => hoccurs word hay hbreaks⟩,
    fun now p => ⟨_, rfl, fun item => ?_⟩⟩
  · obtain ⟨hay, hfound, hpassed⟩ := hbreaks.exists_passed
    exact hpassed ((containsWord_iff word hay).1 ((h hay).2 hfound))
  · rw [Matcher.holds, Except.ok.injEq]
    exact ⟨containsWord_iff _ _, or_iff_not_imp_left.2 (hoccurs _ _)⟩

/-- A word between boundaries is not found where it starts inside another occurrence of it. -/
theorem not_containsWord_overlapping :
    ¬(containsWord "A-A".toList "BA-A-A".toList = true ↔
      ∃ s, OccursAt "A-A" "BA-A-A" s ∧ Bounded "A-A" "BA-A-A" s) := by
  intro h
  have hfound : ∃ s, OccursAt "A-A" "BA-A-A" s ∧ Bounded "A-A" "BA-A-A" s := by
    have hhay : "BA-A-A".toList = ['B', 'A', '-'] ++ "A-A".toList ++ [] := by decide
    exact ⟨_, occursAt_of_append hhay, (bounded_iff (by decide) hhay).2 (by decide)⟩
  have hnot : containsWord "A-A".toList "BA-A-A".toList = false := by decide +kernel
  exact Bool.false_ne_true (hnot.symm.trans (h.2 hfound))

end Word

end FileIndex
