/-
How a normal form is put together. A character of class 0 that joins nothing in front of it cuts both canonical order
(`reorder_append_starter`) and composition (`compose_append_startsAnew`) in two; behind one that joins nothing itself
composition goes on as at the start of a text (`compose_inert`). Canonical order makes texts equal that differ in the order
of their marks only (`reorder_swap`), in whatever text they stand (`reorder_append_congr`). A map that keeps the classes of
marks and takes a composite to what it takes the pair to is blind to canonical order (`reorder_flatMap_reorder`) and to
composition (`reorder_flatMap_compose`).
-/
import FileIndex.Proofs.Text.Tables

namespace FileIndex.Text

variable {c d : Char} {l x y z x' y' marks : List Char} {k : Cluster} {f : Char → Char} {n m : Nat}

/-! ## Canonical order -/

theorem placeMark_of_starter (h : combiningClass c = 0) (l : List Char) : placeMark c l = c :: l := by
  cases l with
  | nil => rfl
  | cons d l => rw [placeMark, if_neg (by omega)]

theorem placeMark_append_starter (h : combiningClass d = 0) (c : Char) (l m : List Char) :
    placeMark c (l ++ d :: m) = placeMark c l ++ d :: m := by
  induction l with
  | nil => exact if_neg (by omega)
  | cons e l ih =>
    rw [List.cons_append, placeMark, placeMark]
    split
    · rw [ih, List.cons_append]
    · rfl

/-- What stands in front of a starter stays there. -/
theorem reorder_append_starter (h : combiningClass d = 0) (x y : List Char) :
    reorder (x ++ d :: y) = reorder x ++ d :: reorder y := by
  induction x with
  | nil => exact placeMark_of_starter h _
  | cons c x ih => rw [List.cons_append, reorder, ih, placeMark_append_starter h, reorder]

theorem perm_placeMark (c : Char) (l : List Char) : (placeMark c l).Perm (c :: l) := by
  induction l with
  | nil => exact .refl _
  | cons d l ih =>
    rw [placeMark]
    split
    · exact (ih.cons d).trans (.swap c d l)
    · exact .refl _

theorem perm_reorder (l : List Char) : (reorder l).Perm l := by
  induction l with
  | nil => exact .refl _
  | cons c l ih => exact (perm_placeMark c _).trans (ih.cons c)

theorem placeMark_map (h : ∀ c, combiningClass (f c) = combiningClass c) (c : Char) (l : List Char) :
    placeMark (f c) (l.map f) = (placeMark c l).map f := by
  induction l with
  | nil => rfl
  | cons d l ih =>
    rw [List.map_cons, placeMark, placeMark, h, h, ih]
    split <;> rfl

/-- Characters of the same class can take each other's place. -/
theorem reorder_map (h : ∀ c, combiningClass (f c) = combiningClass c) (l : List Char) :
    reorder (l.map f) = (reorder l).map f := by
  induction l with
  | nil => rfl
  | cons c l ih => rw [List.map_cons, reorder, ih, placeMark_map h, reorder]

/-- The marks at the start of a text. -/
def frontMarks (l : List Char) : List Char := l.takeWhile fun c => combiningClass c != 0

theorem frontMarks_cons (c : Char) (l : List Char) :
    frontMarks (c :: l) = if combiningClass c = 0 then [] else c :: frontMarks l := by
  rw [frontMarks, List.takeWhile_cons]
  by_cases h : combiningClass c = 0 <;> simp [h, frontMarks]

/-- Whether in every run of marks the classes ascend. -/
def InOrder : List Char → Prop
  | [] => True
  | c :: l => (combiningClass c ≠ 0 → ∀ e ∈ frontMarks l, combiningClass c ≤ combiningClass e) ∧ InOrder l

theorem mem_frontMarks_placeMark {e : Char} (hc : combiningClass c ≠ 0) (h : e ∈ frontMarks (placeMark c l)) :
    e = c ∨ e ∈ frontMarks l := by
  induction l with
  | nil =>
    rw [placeMark, frontMarks_cons, if_neg hc] at h
    simpa [frontMarks] using h
  | cons d l ih =>
    rw [placeMark] at h
    split at h
    · rename_i hd
      rw [frontMarks_cons, if_neg (by omega)] at h ⊢
      rcases List.mem_cons.1 h with rfl | h
      · exact .inr (by simp)
      · exact (ih h).imp_right (List.mem_cons_of_mem _)
    · rw [frontMarks_cons, if_neg hc] at h
      exact List.mem_cons.1 h

theorem InOrder.placeMark (h : InOrder l) (c : Char) : InOrder (placeMark c l) := by
  induction l with
  | nil => exact ⟨fun _ _ h => (nomatch h), trivial⟩
  | cons d l ih =>
    rw [Text.placeMark]
    split
    · rename_i hd
      refine ⟨fun _ e he => ?_, ih h.2⟩
      rcases mem_frontMarks_placeMark (by omega) he with rfl | he
      · omega
      · exact h.1 (by omega) e he
    · rename_i hd
      refine ⟨fun hc e he => ?_, h⟩
      rw [frontMarks_cons] at he
      split at he
      · cases he
      · rename_i hne
        rcases List.mem_cons.1 he with rfl | he
        · omega
        · have := h.1 hne e he
          omega

/-- Canonical order is one. -/
theorem inOrder_reorder (l : List Char) : InOrder (reorder l) := by
  induction l with
  | nil => trivial
  | cons c l ih => exact ih.placeMark c

/-! ## Composition -/

/-- Whether a character starts a new cluster wherever it stands. -/
def StartsAnew (c : Char) : Prop := combiningClass c = 0 ∧ ∀ s, join? s c = none

/-- Whether a character joins nothing behind it. -/
def Inert (c : Char) : Prop := ∀ d, join? c d = none

/-- What composition makes of the next character, if it joins the starter. -/
def Cluster.joined (k : Cluster) (c : Char) : Option Char :=
  if k.blocks (combiningClass c) then none else k.starter.bind (join? · c)

theorem compose_cons_joined {p : Char} (h : k.joined c = some p) (y : List Char) :
    compose k (c :: y) = compose { k with starter := some p } y := by
  rw [Cluster.joined] at h
  rw [compose]
  simp only [h]

theorem compose_cons_starter (h : k.joined c = none) (hc : combiningClass c = 0) (y : List Char) :
    compose k (c :: y) = k.text ++ compose ⟨some c, []⟩ y := by
  rw [Cluster.joined] at h
  rw [compose]
  simp only [h]
  rw [if_pos hc]

theorem compose_cons_mark (h : k.joined c = none) (hc : combiningClass c ≠ 0) (y : List Char) :
    compose k (c :: y) = compose { k with marks := c :: k.marks } y := by
  rw [Cluster.joined] at h
  rw [compose]
  simp only [h]
  rw [if_neg hc]

theorem StartsAnew.joined (h : StartsAnew d) (k : Cluster) : k.joined d = none := by
  rw [Cluster.joined]
  split
  · rfl
  · cases k.starter with
    | none => rfl
    | some s => exact h.2 s

theorem Inert.joined (h : Inert d) (marks : List Char) (c : Char) : (Cluster.mk (some d) marks).joined c = none := by
  rw [Cluster.joined]
  split
  · rfl
  · exact h c

theorem joined_none (marks : List Char) (c : Char) : (Cluster.mk none marks).joined c = none := by
  rw [Cluster.joined]
  split <;> rfl

/-- Composition is cut in front of a character that starts anew. -/
theorem compose_append_startsAnew (h : StartsAnew d) (k : Cluster) (x y : List Char) :
    compose k (x ++ d :: y) = compose k x ++ compose ⟨some d, []⟩ y := by
  induction x generalizing k with
  | nil => exact compose_cons_starter (h.joined k) h.1 y
  | cons c x ih =>
    rw [List.cons_append]
    cases hj : k.joined c with
    | some p => rw [compose_cons_joined hj, compose_cons_joined hj, ih]
    | none =>
      by_cases hc : combiningClass c = 0
      · rw [compose_cons_starter hj hc, compose_cons_starter hj hc, ih, List.append_assoc]
      · rw [compose_cons_mark hj hc, compose_cons_mark hj hc, ih]

/-- Behind a character that joins nothing the marks stand as at the start of a text. -/
theorem compose_inert (h : Inert d) (marks y : List Char) :
    compose ⟨some d, marks⟩ y = d :: compose ⟨none, marks⟩ y := by
  induction y generalizing marks with
  | nil => rfl
  | cons c y ih =>
    by_cases hc : combiningClass c = 0
    · rw [compose_cons_starter (h.joined marks c) hc, compose_cons_starter (joined_none marks c) hc]
      rfl
    · rw [compose_cons_mark (h.joined marks c) hc, compose_cons_mark (joined_none marks c) hc]
      exact ih (c :: marks)

/-- A new cluster begins with its starter. -/
theorem compose_none_starter (hc : combiningClass c = 0) (y : List Char) :
    compose ⟨none, []⟩ (c :: y) = compose ⟨some c, []⟩ y :=
  compose_cons_starter (joined_none [] c) hc y

/-- A character that joins nothing on either side stands for itself. -/
theorem compose_append_solitary (h : StartsAnew d) (hi : Inert d) (k : Cluster) (x y : List Char) :
    compose k (x ++ d :: y) = compose k x ++ d :: compose ⟨none, []⟩ y := by
  rw [compose_append_startsAnew h, compose_inert hi]

/-- Marks at the start of a text stay there. -/
theorem compose_none_marks (marks y : List Char) :
    compose ⟨none, marks⟩ y = marks.reverse ++ compose ⟨none, []⟩ y := by
  induction y generalizing marks with
  | nil => simp [compose, Cluster.text]
  | cons c y ih =>
    by_cases hc : combiningClass c = 0
    · rw [compose_cons_starter (joined_none marks c) hc, compose_none_starter hc]
      rfl
    · rw [compose_cons_mark (joined_none marks c) hc, compose_cons_mark (joined_none [] c) hc, ih, ih [c]]
      simp

/-- What composition has in hand and the text in front of it, in canonical order. -/
structure Cluster.Fits (k : Cluster) (y : List Char) : Prop where
  class_ne : ∀ d ∈ k.marks, combiningClass d ≠ 0
  descend : k.marks.Pairwise fun c d => combiningClass d ≤ combiningClass c
  below : ∀ d ∈ k.marks, ∀ e ∈ frontMarks y, combiningClass d ≤ combiningClass e
  inOrder : InOrder y

namespace Cluster.Fits

theorem start (h : InOrder y) (s : Option Char) : (Cluster.mk s []).Fits y := ⟨nofun, .nil, nofun, h⟩

/-- What is not blocked has a larger class than all marks that stand between. -/
theorem lt_of_not_blocks (h : k.Fits y) {n : Nat} (hb : k.blocks n = false) : ∀ d ∈ k.marks, combiningClass d < n := by
  rw [blocks] at hb
  intro d hd
  cases hm : k.marks with
  | nil =>
    rw [hm] at hd
    cases hd
  | cons e marks =>
    rw [hm] at hb hd
    have he : combiningClass e < n := by simpa using hb
    rcases List.mem_cons.1 hd with rfl | hd
    · exact he
    · exact Nat.lt_of_le_of_lt ((List.pairwise_cons.1 (hm ▸ h.descend)).1 d hd) he

theorem class_lt (h : k.Fits (c :: y)) {p : Char} (hj : k.joined c = some p) :
    ∀ d ∈ k.marks, combiningClass d < combiningClass c := by
  rw [Cluster.joined] at hj
  split at hj
  · cases hj
  · rename_i hb
    exact h.lt_of_not_blocks (by simpa using hb)

theorem join (h : k.Fits (c :: y)) {p : Char} (hj : k.joined c = some p) : (Cluster.mk (some p) k.marks).Fits y := by
  refine ⟨h.class_ne, h.descend, fun d hd e he => ?_, h.inOrder.2⟩
  have := h.class_lt hj d hd
  refine h.below d hd e ?_
  rw [frontMarks_cons, if_neg (by omega)]
  exact List.mem_cons_of_mem _ he

theorem mark (h : k.Fits (c :: y)) (hc : combiningClass c ≠ 0) : (Cluster.mk k.starter (c :: k.marks)).Fits y := by
  have hbelow : ∀ d ∈ k.marks, ∀ e, e = c ∨ e ∈ frontMarks y → combiningClass d ≤ combiningClass e := by
    intro d hd e he
    refine h.below d hd e ?_
    rw [frontMarks_cons, if_neg hc]
    exact List.mem_cons.2 he
  refine ⟨List.forall_mem_cons.2 ⟨hc, h.class_ne⟩, List.pairwise_cons.2 ⟨fun d hd => hbelow d hd c (.inl rfl), h.descend⟩,
    List.forall_mem_cons.2 ⟨h.inOrder.1 hc, fun d hd e he => hbelow d hd e (.inr he)⟩, h.inOrder.2⟩

theorem starter (h : k.Fits (c :: y)) : (Cluster.mk (some c) []).Fits y := start h.inOrder.2 _

end Cluster.Fits

/-! ## Which characters join -/

/-- Whether a number stands for a leading consonant or a syllable. -/
def Hangul.leads (a : Nat) : Bool := 0x1100 ≤ a && a < 0x1113 || 0xAC00 ≤ a && a < 0xD7A4

/-- Whether a number stands for a vowel or a trailing consonant. -/
def Hangul.follows (b : Nat) : Bool := 0x1161 ≤ b && b < 0x11C3

theorem Hangul.join?_eq_none {a b : Nat} (h : Hangul.leads a = false ∨ Hangul.follows b = false) :
    Hangul.join? a b = none := by
  simp only [leads, follows, Bool.or_eq_false_iff, Bool.and_eq_false_iff, decide_eq_false_iff_not] at h
  have hopen : ¬(leadBase ≤ a ∧ a < leadBase + 19 ∧ vowelBase ≤ b ∧ b < vowelBase + vowels) := by
    simp only [leadBase, vowelBase, vowels]
    omega
  have hclosed : ¬(syllableBase ≤ a ∧ a < syllableBase + syllables ∧ (a - syllableBase) % trails = 0 ∧
      trailBase < b ∧ b < trailBase + trails) := by
    simp only [syllableBase, syllables, vowels, trails, trailBase]
    omega
  rw [join?, if_neg hopen, if_neg hclosed]

/-- The first character of the pair in a row of composites. -/
def rowFirst (r : Nat) : Nat := r % pairBase / rowBase

theorem toNat_lt_rowBase (c : Char) : c.toNat < rowBase := by
  have := c.valid
  simp only [Char.toNat, rowBase]
  rcases this with h | h <;> omega

theorem row_pair {a b : Char} {r : Nat} (h : r % pairBase = a.toNat * rowBase + b.toNat) :
    rowFirst r = a.toNat ∧ r % rowBase = b.toNat := by
  have hb := toNat_lt_rowBase b
  constructor
  · rw [rowFirst, h, Nat.add_comm, Nat.add_mul_div_right _ _ (by decide), Nat.div_eq_of_lt hb, Nat.zero_add]
  · have hmod : r % pairBase % rowBase = r % rowBase := Nat.mod_mod_of_dvd r ⟨rowBase, rfl⟩
    rw [← hmod, h, Nat.add_comm, Nat.add_mul_mod_self_right, Nat.mod_eq_of_lt hb]

/-- What two characters join to outside the Hangul syllables stands in a row. -/
theorem join?_eq_some_iff {a b p : Char} (h : Hangul.leads a.toNat = false ∨ Hangul.follows b.toNat = false) :
    join? a b = some p ↔ ∃ r ∈ composites.toList, rowFirst r = a.toNat ∧ r % rowBase = b.toNat ∧
      Char.ofNat (r / pairBase) = p := by
  rw [join?, Hangul.join?_eq_none h]
  refine composite?_eq_some_iff.trans ⟨?_, ?_⟩
  · rintro ⟨r, hr, hpair, rfl⟩
    exact ⟨r, hr, (row_pair hpair).1, (row_pair hpair).2, rfl⟩
  · rintro ⟨r, hr, ha, hb, rfl⟩
    refine ⟨r, hr, ?_, rfl⟩
    have hmod : r % pairBase % rowBase = r % rowBase := Nat.mod_mod_of_dvd r ⟨rowBase, rfl⟩
    rw [← ha, ← hb, ← hmod, rowFirst, Nat.mul_comm]
    exact (Nat.div_add_mod _ _).symm

theorem inert_of_no_row (h : Hangul.leads c.toNat = false) (hrow : ∀ r ∈ composites.toList, rowFirst r ≠ c.toNat) :
    Inert c := fun _ => Option.eq_none_iff_forall_ne_some.2 fun _ hp =>
  have ⟨r, hr, hc, _⟩ := (join?_eq_some_iff (.inl h)).1 hp
  hrow r hr hc

theorem startsAnew_of_no_row (hc : combiningClass c = 0) (h : Hangul.follows c.toNat = false)
    (hrow : ∀ r ∈ composites.toList, r % rowBase ≠ c.toNat) : StartsAnew c := by
  refine ⟨hc, fun s => Option.eq_none_iff_forall_ne_some.2 fun _ hp => ?_⟩
  obtain ⟨r, hr, -, hb, -⟩ := (join?_eq_some_iff (.inr h)).1 hp
  exact hrow r hr hb

/-! ## Order up to marks -/

theorem placeMark_comm_of_lt (hc : combiningClass c ≠ 0) (h : combiningClass c < combiningClass d) (l : List Char) :
    placeMark c (placeMark d l) = placeMark d (placeMark c l) := by
  have hcd : 0 < combiningClass c ∧ combiningClass c < combiningClass d := by omega
  have hdc : ¬(0 < combiningClass d ∧ combiningClass d < combiningClass c) := by omega
  induction l with
  | nil => rw [placeMark, placeMark, placeMark, if_neg hdc, placeMark, if_pos hcd, placeMark]
  | cons e l ih =>
    by_cases hec : 0 < combiningClass e ∧ combiningClass e < combiningClass c
    · have hed : 0 < combiningClass e ∧ combiningClass e < combiningClass d := by omega
      rw [placeMark, placeMark, if_pos hed, if_pos hec, placeMark, placeMark, if_pos hec, if_pos hed, ih]
    · by_cases hed : 0 < combiningClass e ∧ combiningClass e < combiningClass d
      · rw [placeMark, placeMark, if_pos hed, if_neg hec, placeMark, placeMark, if_neg hec, if_pos hcd, placeMark, if_pos hed]
      · rw [placeMark, placeMark, if_neg hed, if_neg hec, placeMark, if_neg hdc, placeMark, if_pos hcd, placeMark, if_neg hed]

/-- Marks of two classes find their places independently. -/
theorem placeMark_comm (hc : combiningClass c ≠ 0) (hd : combiningClass d ≠ 0) (h : combiningClass c ≠ combiningClass d)
    (l : List Char) : placeMark c (placeMark d l) = placeMark d (placeMark c l) := by
  rcases Nat.lt_or_gt_of_ne h with h | h
  · exact placeMark_comm_of_lt hc h l
  · exact (placeMark_comm_of_lt hd h l).symm

theorem reorder_placeMark_append (c : Char) (x y : List Char) : reorder (placeMark c x ++ y) = reorder (c :: x ++ y) := by
  induction x with
  | nil => rfl
  | cons d x ih =>
    rw [placeMark]
    split
    · rename_i h
      rw [List.cons_append, reorder, ih]
      exact placeMark_comm (by omega) (by omega) (by omega) _
    · rfl

theorem reorder_reorder_append (x y : List Char) : reorder (reorder x ++ y) = reorder (x ++ y) := by
  induction x with
  | nil => rfl
  | cons c x ih =>
    rw [reorder, reorder_placeMark_append, List.cons_append, reorder, ih]
    rfl

theorem reorder_append_reorder (x y : List Char) : reorder (x ++ reorder y) = reorder (x ++ y) := by
  induction x with
  | nil => simpa using reorder_reorder_append y []
  | cons c x ih => exact congrArg (placeMark c) ih

/-- Parts of a text can be put in order first. -/
theorem reorder_append_congr (hx : reorder x = reorder x') (hy : reorder y = reorder y') :
    reorder (x ++ y) = reorder (x' ++ y') := by
  rw [← reorder_reorder_append x, ← reorder_append_reorder (reorder x), hx, hy, reorder_append_reorder,
    reorder_reorder_append]

theorem reorder_flatMap_congr {f g : Char → List Char} (h : ∀ c ∈ l, reorder (f c) = reorder (g c)) :
    reorder (l.flatMap f) = reorder (l.flatMap g) := by
  induction l with
  | nil => rfl
  | cons c l ih =>
    exact reorder_append_congr (h c (by simp)) (ih fun d hd => h d (by simp [hd]))

theorem reorder_cons_swap (hd : combiningClass d ≠ 0) (hd' : combiningClass d ≠ m) (hm : m ≠ 0)
    (hy : ∀ e ∈ y, combiningClass e = m) (z : List Char) : reorder (d :: (y ++ z)) = reorder (y ++ d :: z) := by
  induction y with
  | nil => rfl
  | cons e y ih =>
    have he := hy e (by simp)
    have hrest : placeMark d (reorder (y ++ z)) = reorder (y ++ d :: z) := ih fun e h => hy e (by simp [h])
    rw [List.cons_append, List.cons_append, reorder, reorder, reorder, ← hrest]
    exact placeMark_comm hd (by omega) (by omega) _

/-- Marks of two classes can be swapped. -/
theorem reorder_swap (hn : n ≠ 0) (hm : m ≠ 0) (h : n ≠ m) (hx : ∀ d ∈ x, combiningClass d = n)
    (hy : ∀ d ∈ y, combiningClass d = m) (z : List Char) : reorder (x ++ (y ++ z)) = reorder (y ++ (x ++ z)) := by
  induction x with
  | nil => rfl
  | cons d x ih =>
    have hd := hx d (by simp)
    have hrest := ih fun e h => hx e (by simp [h])
    rw [List.cons_append, reorder, hrest]
    exact reorder_cons_swap (by omega) (by omega) hm hy (x ++ z)

/-! ## Maps that keep the order of marks -/

/-- Whether a map takes every mark but one to characters of its class, and a composite to what it takes the pair to,
as far as that mark is not in it. -/
structure KeepsMarks (g : Char → List Char) (except : Char) : Prop where
  mark : ∀ c, combiningClass c ≠ 0 → c ≠ except → ∀ d ∈ g c, combiningClass d = combiningClass c
  join : ∀ a b p, join? a b = some p → b ≠ except → g p = g a ++ g b

namespace KeepsMarks

variable {g : Char → List Char} {except : Char}

theorem swap (hg : KeepsMarks g except) (hc : combiningClass c ≠ 0) (hd : combiningClass d ≠ 0)
    (h : combiningClass c ≠ combiningClass d) (hce : c ≠ except) (hde : d ≠ except) (z : List Char) :
    reorder (g c ++ (g d ++ z)) = reorder (g d ++ (g c ++ z)) :=
  reorder_swap hc hd h (hg.mark c hc hce) (hg.mark d hd hde) z

theorem reorder_flatMap_placeMark (hg : KeepsMarks g except) (c : Char) (hl : ∀ d ∈ c :: l, d ≠ except) :
    reorder ((placeMark c l).flatMap g) = reorder ((c :: l).flatMap g) := by
  induction l with
  | nil => rfl
  | cons d l ih =>
    rw [placeMark]
    split
    · rename_i h
      have hrest := ih fun e he => hl e (by simp at he ⊢; rcases he with he | he <;> simp [he])
      rw [List.flatMap_cons, reorder_append_congr rfl hrest, List.flatMap_cons, List.flatMap_cons, List.flatMap_cons]
      exact hg.swap (by omega) (by omega) (by omega) (hl d (by simp)) (hl c (by simp)) _
    · rfl

/-- What the map makes of a text does not depend on the order of its marks. -/
theorem reorder_flatMap_reorder (hg : KeepsMarks g except) (hl : ∀ d ∈ l, d ≠ except) :
    reorder ((reorder l).flatMap g) = reorder (l.flatMap g) := by
  induction l with
  | nil => rfl
  | cons c l ih =>
    have hmem : ∀ d ∈ c :: reorder l, d ≠ except := fun d hd => hl d (by
      rwa [List.mem_cons, (perm_reorder l).mem_iff, ← List.mem_cons] at hd)
    rw [reorder, hg.reorder_flatMap_placeMark c hmem, List.flatMap_cons, List.flatMap_cons]
    exact reorder_append_congr rfl (ih fun d hd => hl d (by simp [hd]))

theorem reorder_swap_marks (hg : KeepsMarks g except) (hc : combiningClass c ≠ 0) (hce : c ≠ except)
    (hmarks : ∀ d ∈ l, combiningClass d ≠ 0 ∧ combiningClass d < combiningClass c ∧ d ≠ except) (z : List Char) :
    reorder (g c ++ (l.flatMap g ++ z)) = reorder (l.flatMap g ++ (g c ++ z)) := by
  induction l with
  | nil => rfl
  | cons d l ih =>
    obtain ⟨hd, hlt, hde⟩ := hmarks d (by simp)
    have hrest := ih fun e he => hmarks e (by simp [he])
    rw [List.flatMap_cons, List.append_assoc, List.append_assoc, hg.swap hc hd (by omega) hce hde]
    exact reorder_append_congr rfl hrest

/-- What the map makes of a text does not depend on whether it is composed. -/
theorem reorder_flatMap_compose (hg : KeepsMarks g except) (hfit : k.Fits y) (hmarks : ∀ d ∈ k.marks, d ≠ except)
    (hy : ∀ d ∈ y, d ≠ except) : reorder ((compose k y).flatMap g) = reorder ((k.text ++ y).flatMap g) := by
  induction y generalizing k with
  | nil => rw [compose, List.append_nil]
  | cons c y ih =>
    have hc := hy c (by simp)
    have hrest : ∀ d ∈ y, d ≠ except := fun d hd => hy d (by simp [hd])
    cases hj : k.joined c with
    | some p =>
      obtain ⟨s, hs, hsp⟩ : ∃ s, k.starter = some s ∧ join? s c = some p := by
        rw [Cluster.joined] at hj
        split at hj
        · cases hj
        · exact Option.bind_eq_some_iff.1 hj
      rw [compose_cons_joined hj, ih (hfit.join hj) hmarks hrest]
      simp only [Cluster.text, hs, Option.toList_some, List.cons_append, List.nil_append, List.flatMap_cons,
        List.flatMap_append, hg.join s c p hsp hc, List.append_assoc]
      refine reorder_append_congr rfl ?_
      by_cases hc0 : combiningClass c = 0
      · have hnone : k.marks = [] := List.eq_nil_iff_forall_not_mem.2 fun d hd => by
          have := hfit.class_lt hj d hd
          omega
        rw [hnone]
        rfl
      · refine hg.reorder_swap_marks hc0 hc (fun d hd => ?_) _
        have hd := List.mem_reverse.1 hd
        exact ⟨hfit.class_ne d hd, hfit.class_lt hj d hd, hmarks d hd⟩
    | none =>
      by_cases hc0 : combiningClass c = 0
      · rw [compose_cons_starter hj hc0, List.flatMap_append, List.flatMap_append]
        exact reorder_append_congr rfl (ih hfit.starter nofun hrest)
      · rw [compose_cons_mark hj hc0, ih (hfit.mark hc0) (List.forall_mem_cons.2 ⟨hc, hmarks⟩) hrest]
        simp [Cluster.text]

end KeepsMarks

end FileIndex.Text
