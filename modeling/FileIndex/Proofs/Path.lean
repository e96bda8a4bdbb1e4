/-
Paths by their components. The directory of a path has its components without the last one, and the path of
an entry has one more. A text is cut at its slashes, and what was cut is put together again by the library's
`List.splitOn` and `List.intercalate`.
-/
import FileIndex.Path
import Mathlib.Data.List.TakeWhile

namespace FileIndex.Path

variable {p q old new : Path} {c : Component} {name : String} {piece : List Char}
  {ps front : List (List Char)} {l m : List Char}

/-! ## Pieces -/

theorem pieces_eq_splitOn (l : List Char) : pieces l = l.splitOn '/' := by
  induction l with
  | nil => rfl
  | cons c l ih =>
    rw [pieces, ih, List.splitOn_cons_eq_if_modifyHead]
    by_cases hc : c = '/'
    · simp [hc]
    · simp only [hc, if_false, beq_iff_eq]
      cases h : l.splitOn '/' with
      | nil => exact absurd h (List.splitOn_ne_nil '/' l)
      | cons piece others => rfl

theorem pieces_ne_nil (l : List Char) : pieces l ≠ [] := by
  rw [pieces_eq_splitOn]
  exact List.splitOn_ne_nil '/' l

theorem pieces_slash (l m : List Char) : pieces (l ++ '/' :: m) = pieces l ++ pieces m := by
  simp only [pieces_eq_splitOn, List.splitOn_append_cons_self]

theorem pieces_of_not_mem (h : '/' ∉ l) : pieces l = [l] := by
  rw [pieces_eq_splitOn, List.splitOn_eq_singleton h]

theorem pieces_glued (h : ∀ piece ∈ ps, '/' ∉ piece) (hne : ps ≠ []) : pieces (glued ps) = ps := by
  rw [pieces_eq_splitOn]
  exact List.splitOn_intercalate '/' h hne

theorem not_mem_of_mem_pieces (h : piece ∈ pieces l) : '/' ∉ piece := by
  induction l generalizing piece with
  | nil => simp_all [pieces]
  | cons c l ih =>
    rw [pieces] at h
    split at h
    · rcases List.mem_cons.1 h with rfl | h
      · simp
      · exact ih h
    · rename_i hc
      cases hl : pieces l with
      | nil => exact absurd hl (pieces_ne_nil l)
      | cons first others =>
        rw [hl] at h
        rcases List.mem_cons.1 h with rfl | h
        · have := ih (show first ∈ pieces l by simp [hl])
          simp [Ne.symm hc, this]
        · exact ih (by simp [hl, h])

theorem ofPiece?_isSome_iff : (ofPiece? piece).isSome ↔ isIdle piece = false := by
  unfold ofPiece?
  split
  · simp_all
  · split <;> simp_all

/-! ## Components -/

/-- The components of a path by its pieces. -/
def ofPieces : List (List Char) → List Component
  | [] :: body => if body = [] then [] else .root :: body.filterMap ofPiece?
  | ['.'] :: body => .here :: body.filterMap ofPiece?
  | body => body.filterMap ofPiece?

theorem components_eq (p : Path) : p.components = ofPieces (pieces p.spelling.toList) := rfl

theorem ofPieces_of_not_idle (h : isIdle piece = false) :
    ofPieces (piece :: ps) = (piece :: ps).filterMap ofPiece? := by
  unfold ofPieces
  split <;> simp_all [isIdle]

/-- What the last piece that counts adds to the pieces in front of it. -/
theorem filterMap_of_beforeLast (h : beforeLast ps = some front) :
    ∃ c, ps.filterMap ofPiece? = c :: front.filterMap ofPiece? ∧ front <:+ ps := by
  have hidle : ∀ l : List (List Char),
      (l.dropWhile isIdle).filterMap ofPiece? = l.filterMap ofPiece? := by
    intro l
    induction l with
    | nil => rfl
    | cons piece l ih =>
      rw [List.dropWhile_cons]
      split
      · rename_i hp
        have : ofPiece? piece = none := by simp [ofPiece?, hp]
        rw [ih, List.filterMap_cons_none this]
      · rfl
  unfold beforeLast at h
  split at h
  · cases h
  · rename_i last rest hdrop
    rw [Option.some.injEq] at h
    have hlast : isIdle last = false := by
      have := List.head_dropWhile_not isIdle (l := ps) (by simp [hdrop])
      simpa [hdrop] using this
    obtain ⟨c, hc⟩ := Option.isSome_iff_exists.1 (ofPiece?_isSome_iff.2 hlast)
    refine ⟨c, ?_, ?_⟩
    · rw [← hidle ps, hdrop, List.filterMap_cons_some hc, ← h, hidle rest]
    · rw [← h]
      exact (List.dropWhile_suffix _).trans ((List.suffix_cons last rest).trans
        (hdrop ▸ List.dropWhile_suffix isIdle))

theorem beforeLast_isSome (h : ps.filterMap ofPiece? ≠ []) : (beforeLast ps).isSome := by
  unfold beforeLast
  split
  · rename_i hdrop
    rw [List.dropWhile_eq_nil_iff] at hdrop
    refine absurd (List.filterMap_eq_nil_iff.2 fun piece hp => ?_) h
    simp [ofPiece?, hdrop piece hp]
  · rfl

theorem filterMap_reverse_of_beforeLast (h : beforeLast ps.reverse = some front) :
    ∃ c, ps.filterMap ofPiece? = front.reverse.filterMap ofPiece? ++ [c] ∧ front.reverse <+: ps := by
  obtain ⟨c, hc, hs⟩ := filterMap_of_beforeLast h
  refine ⟨c, ?_, by simpa using List.reverse_prefix.2 hs⟩
  have := congrArg List.reverse hc
  simpa [← List.filterMap_reverse] using this

/-! ## The directory of a path -/

theorem components_slash_glued (h : ∀ piece ∈ ps, '/' ∉ piece) :
    components ⟨String.ofList ('/' :: glued ps)⟩ = .root :: ps.filterMap ofPiece? := by
  have hp : pieces ('/' :: glued ps) = [] :: pieces (glued ps) := by simp [pieces]
  rw [components_eq, String.toList_ofList, hp]
  by_cases hne : ps = []
  · subst hne
    rfl
  · rw [pieces_glued h hne, ofPieces, if_neg hne]

/-- **The directory of a path has the path's components without the last one.** -/
theorem components_of_parent? (h : p.parent? = some q) : ∃ c, p.components = q.components ++ [c] := by
  have hfree : ∀ {body : List (List Char)}, body <+: pieces p.spelling.toList ∨
      (∃ first, pieces p.spelling.toList = first :: body) → ∀ piece ∈ body, '/' ∉ piece := by
    rintro body (hb | ⟨first, hb⟩) piece hp
    · exact not_mem_of_mem_pieces (hb.subset hp)
    · exact not_mem_of_mem_pieces (by rw [hb]; exact List.mem_cons_of_mem _ hp)
  unfold parent? at h
  rw [components_eq]
  split at h
  · rename_i body hpieces
    obtain ⟨front, hfront, rfl⟩ := Option.map_eq_some_iff.1 h
    obtain ⟨c, hc, hpre⟩ := filterMap_reverse_of_beforeLast hfront
    have hslash : ∀ piece ∈ front.reverse, '/' ∉ piece := fun piece hp =>
      hfree (.inr ⟨_, hpieces⟩) piece (hpre.subset hp)
    have hbody : body ≠ [] := by
      rintro rfl
      simp at hc
    rw [components_slash_glued hslash, hpieces, ofPieces, if_neg hbody, hc]
    exact ⟨c, rfl⟩
  · rename_i body hpieces
    rw [hpieces, ofPieces]
    split at h
    · rename_i hnone
      rw [Option.some.injEq] at h
      subst h
      have hbody : body.filterMap ofPiece? = [] := by
        by_contra hne
        have hsome : (beforeLast body.reverse).isSome :=
          beforeLast_isSome (by simpa [List.filterMap_reverse] using hne)
        simp [hnone] at hsome
      exact ⟨.here, by rw [hbody]; rfl⟩
    · rename_i front hfront
      rw [Option.some.injEq] at h
      subst h
      obtain ⟨c, hc, hpre⟩ := filterMap_reverse_of_beforeLast hfront
      have hslash : ∀ piece ∈ ['.'] :: front.reverse, '/' ∉ piece := by
        intro piece hp
        rcases List.mem_cons.1 hp with rfl | hp
        · decide
        · exact hfree (.inr ⟨_, hpieces⟩) piece (hpre.subset hp)
      rw [components_eq, String.toList_ofList, pieces_glued hslash (by simp), ofPieces, hc]
      exact ⟨c, rfl⟩
  · rename_i hnil hdot
    obtain ⟨front, hfront, rfl⟩ := Option.map_eq_some_iff.1 h
    obtain ⟨c, hc, hpre⟩ := filterMap_reverse_of_beforeLast hfront
    have hslash : ∀ piece ∈ front.reverse, '/' ∉ piece := fun piece hp =>
      hfree (.inl hpre) piece hp
    obtain ⟨first, body, hpieces⟩ := List.exists_cons_of_ne_nil (pieces_ne_nil p.spelling.toList)
    have hidle : isIdle first = false := by
      rw [hpieces] at hnil hdot
      simp only [isIdle, decide_eq_false_iff_not, not_or]
      exact ⟨fun e => hnil body (by rw [e]), fun e => hdot body (by rw [e])⟩
    rw [hpieces, ofPieces_of_not_idle hidle, ← hpieces, hc]
    refine ⟨c, ?_⟩
    congr 1
    rw [components_eq, String.toList_ofList]
    cases hr : front.reverse with
    | nil => rfl
    | cons start rest =>
      rw [hr] at hpre hslash
      have hstart : start = first := by
        rw [hpieces] at hpre
        exact (List.cons_prefix_cons.1 hpre).1
      rw [pieces_glued hslash (by simp), hstart, ofPieces_of_not_idle hidle]

theorem getLast?_of_name? (h : p.name? = some name) : p.components.getLast? = some (.name name) := by
  unfold name? at h
  split at h
  · rename_i n hn
    rw [Option.some.injEq] at h
    rw [hn, h]
  · cases h

/-- Only the top and the empty path lie in no directory. -/
theorem parent?_isSome (hl : p.components.getLast? = some c) (hc : c ≠ .root) : p.parent?.isSome := by
  have hlast : p.components.getLast? ≠ some .root := fun h => hc (Option.some.inj (hl.symm.trans h))
  rw [components_eq] at hl hlast
  have key : ∀ body : List (List Char), body.filterMap ofPiece? ≠ [] →
      (beforeLast body.reverse).isSome := fun body hb =>
    beforeLast_isSome (by simpa [List.filterMap_reverse] using hb)
  unfold parent?
  split
  · rename_i body hpieces
    rw [Option.isSome_map]
    refine key body fun hnil => ?_
    rw [hpieces, ofPieces] at hlast hl
    split at hlast
    · rw [if_pos ‹_›] at hl
      cases hl
    · exact hlast (by simp [hnil])
  · rename_i body hpieces
    split <;> rfl
  · rename_i hnil hdot
    rw [Option.isSome_map]
    refine key _ fun hempty => ?_
    have hof : ofPieces (pieces p.spelling.toList) = (pieces p.spelling.toList).filterMap ofPiece? := by
      unfold ofPieces
      split
      · exact absurd ‹_› (hnil _)
      · exact absurd ‹_› (hdot _)
      · rfl
    rw [hof, hempty] at hl
    cases hl

theorem parent?_isSome_of_name (h : p.name? = some name) : p.parent?.isSome :=
  parent?_isSome (getLast?_of_name? h) (by simp)

/-- Two paths in one directory differ in their last component, if the first of them ends in a name. -/
theorem components_of_sameParent {base : List Component} (h : old.sameParent new)
    (hold : old.components = base ++ [.name name]) : ∃ c, new.components = base ++ [c] := by
  have hname : old.name? = some name := by simp [name?, hold]
  obtain ⟨q, hq⟩ := Option.isSome_iff_exists.1 (parent?_isSome_of_name hname)
  obtain ⟨c, hc⟩ := components_of_parent? hq
  rw [sameParent, hq, beq_iff_eq] at h
  obtain ⟨r, hr, hrq⟩ := Option.map_eq_some_iff.1 h.symm
  obtain ⟨e, he⟩ := components_of_parent? hr
  refine ⟨e, ?_⟩
  have hbase : q.components = base := by
    rw [hold] at hc
    exact (List.append_inj' hc rfl).1.symm
  rw [he, hrq, hbase]

/-- Names behind the same components lie in one directory. -/
theorem sameParent_of_components {base : List Component} {n m : String}
    (hold : old.components = base ++ [.name n]) (hnew : new.components = base ++ [.name m]) :
    old.sameParent new = true := by
  have key : ∀ {p : Path} {k : String}, p.components = base ++ [.name k] → p.parent?.map components = some base := by
    intro p k hp
    obtain ⟨q, hq⟩ := Option.isSome_iff_exists.1 (parent?_isSome (p := p) (c := .name k) (by simp [hp]) (by simp))
    obtain ⟨c, hc⟩ := components_of_parent? hq
    rw [hp] at hc
    rw [hq, Option.map_some, (List.append_inj' hc rfl).1]
  rw [sameParent, key hold, key hnew, beq_self_eq_true]

theorem entryName_of_components {base : List Component} (h : p.components = base ++ [.name name]) :
    p.entryName = name := by
  simp [entryName, name?, h]

/-! ## Names -/

theorem plainNames?_eq_some {cs : List Component} {names : List String} :
    plainNames? cs = some names ↔ cs = names.map .name := by
  induction cs generalizing names with
  | nil => cases names <;> simp [plainNames?]
  | cons c cs ih =>
    cases c with
    | name n =>
      rw [plainNames?]
      cases names with
      | nil => simp
      | cons m names =>
        simp only [Option.map_eq_some_iff, ih, List.map_cons, List.cons.injEq, Component.name.injEq]
        constructor
        · rintro ⟨_, rfl, rfl, rfl⟩
          exact ⟨rfl, rfl⟩
        · rintro ⟨rfl, rfl⟩
          exact ⟨names, rfl, rfl, rfl⟩
    | root | here | up => cases names <;> simp [plainNames?]

theorem below?_eq_some {cs : List Component} : p.below? q = some cs ↔ p.components = q.components ++ cs := by
  unfold below?
  constructor
  · intro h
    split at h
    · rename_i hpre
      rw [Option.some.injEq] at h
      obtain ⟨rest, hrest⟩ := List.isPrefixOf_iff_prefix.1 hpre
      rw [← h, ← hrest]
      simp
    · cases h
  · intro h
    rw [if_pos (List.isPrefixOf_iff_prefix.2 ⟨cs, h.symm⟩), h]
    simp

end FileIndex.Path
