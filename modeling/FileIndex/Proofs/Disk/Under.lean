/-
Paths below a path (`Path.under`): names that entries can have, put behind a path one after the other. Such a path has
the components of the other and the names behind them, and on a disk it is walked the same way.
-/
import FileIndex.Disk.Basic
import FileIndex.Proofs.Path
import Mathlib.Data.List.Induction

namespace FileIndex

namespace Path

variable {p q p' q' : Path} {name : String} {names : List String} {l piece : List Char} {c : Component}
  {ps qs : List (List Char)}

/-- Whether an entry in a directory can have a name. -/
structure IsFileName (name : String) : Prop where
  not_empty : name ≠ ""
  no_slash : '/' ∉ name.toList
  not_here : name ≠ "."
  not_up : name ≠ ".."
  fits : Disk.isName name = true

/-- The path of an entry that names lead to from a path. -/
def under (p : Path) (names : List String) : Path := names.foldl child p

@[simp] theorem under_nil (p : Path) : p.under [] = p := rfl

theorem under_cons (p : Path) (name : String) (names : List String) :
    p.under (name :: names) = (p.child name).under names := rfl

theorem under_concat (p : Path) (names : List String) (name : String) :
    p.under (names ++ [name]) = (p.under names).child name := by
  rw [under, List.foldl_append]
  rfl

/-! ## Pieces -/

/-- The pieces of a path, without the empty one behind a slash at its end. -/
def firm (p : Path) : List (List Char) :=
  if p.spelling.toList = [] ∨ p.spelling.toList.getLast? = some '/' then (pieces p.spelling.toList).dropLast
  else pieces p.spelling.toList

theorem pieces_eq_firm (p : Path) : pieces p.spelling.toList = p.firm ∨
    pieces p.spelling.toList = p.firm ++ [[]] := by
  unfold firm
  split
  · rename_i h
    right
    rcases h with h | h
    · rw [h]
      rfl
    · obtain ⟨l, hl⟩ := List.getLast?_eq_some_iff.1 h
      rw [hl, pieces_slash]
      simp [pieces]
  · exact .inl rfl

theorem toList_ne_nil (h : IsFileName name) : name.toList ≠ [] := fun he =>
  h.not_empty (String.toList_inj.1 (by rw [he]; rfl))

theorem pieces_join (h : q.spelling.toList.head? ≠ some '/') (p : Path) :
    pieces (p.join q).spelling.toList = p.firm ++ pieces q.spelling.toList := by
  unfold join firm
  simp only [if_neg h]
  split
  · rename_i hb
    rw [String.toList_ofList]
    rcases hb with hb | hb
    · rw [hb, List.nil_append]
      rfl
    · obtain ⟨l, hl⟩ := List.getLast?_eq_some_iff.1 hb
      rw [hl, List.append_assoc, List.singleton_append, pieces_slash, pieces_slash]
      simp [pieces]
  · rw [String.toList_ofList, pieces_slash]

theorem head?_ne (h : IsFileName name) : name.toList.head? ≠ some '/' :=
  fun hh => h.no_slash (List.mem_of_head? hh)

/-- A name adds one piece. -/
theorem pieces_child (h : IsFileName name) (p : Path) :
    pieces (p.child name).spelling.toList = p.firm ++ [name.toList] := by
  rw [child, pieces_join (head?_ne h), pieces_of_not_mem h.no_slash]

theorem firm_child (h : IsFileName name) (p : Path) : (p.child name).firm = p.firm ++ [name.toList] := by
  rcases pieces_eq_firm (p.child name) with he | he
  · rw [← he, pieces_child h]
  · rw [pieces_child h] at he
    have := (List.append_inj' he rfl).2
    rw [List.singleton_inj] at this
    exact absurd this (toList_ne_nil h)

theorem firm_under (h : ∀ name ∈ names, IsFileName name) (p : Path) :
    (p.under names).firm = p.firm ++ names.map String.toList := by
  induction names generalizing p with
  | nil => simp
  | cons name names ih =>
    rw [under_cons, ih (fun n hn => h n (by simp [hn])), firm_child (h name (by simp))]
    simp

theorem pieces_under (h : ∀ name ∈ names, IsFileName name) (hne : names ≠ []) (p : Path) :
    pieces (p.under names).spelling.toList = p.firm ++ names.map String.toList := by
  obtain ⟨front, last, rfl⟩ := List.eq_nil_or_concat names |>.resolve_left hne
  rw [List.concat_eq_append] at h ⊢
  rw [under_concat, pieces_child (h last (by simp)), firm_under fun n hn => h n (by simp [hn])]
  simp

/-! ## Components -/

theorem ofPiece?_toList (h : IsFileName name) : ofPiece? name.toList = some (.name name) := by
  have hidle : isIdle name.toList = false := by
    simp only [isIdle, decide_eq_false_iff_not, not_or]
    exact ⟨toList_ne_nil h, fun he => h.not_here (String.toList_inj.1 he)⟩
  have hup : name.toList ≠ ['.', '.'] := fun he => h.not_up (String.toList_inj.1 he)
  rw [ofPiece?, hidle, if_neg Bool.false_ne_true, if_neg hup, String.ofList_toList]

/-- What the first piece of a path with more pieces means. -/
def lead (first : List Char) : List Component :=
  if first = [] then [.root] else if first = ['.'] then [.here] else (ofPiece? first).toList

theorem ofPieces_cons {first : List Char} {body : List (List Char)} (h : first = [] → body ≠ []) :
    ofPieces (first :: body) = lead first ++ body.filterMap ofPiece? := by
  by_cases hslash : first = []
  · subst hslash
    rw [ofPieces, if_neg (h rfl)]
    rfl
  · by_cases hdot : first = ['.']
    · subst hdot
      rfl
    · have hidle : isIdle first = false := by simp [isIdle, hslash, hdot]
      rw [ofPieces_of_not_idle hidle, lead, if_neg hslash, if_neg hdot]
      cases hf : ofPiece? first <;> simp [hf]

theorem ofPieces_append (hp : ps ≠ []) (hq : qs ≠ []) :
    ofPieces (ps ++ qs) = ofPieces (ps ++ [[]]) ++ qs.filterMap ofPiece? := by
  obtain ⟨first, body, rfl⟩ := List.exists_cons_of_ne_nil hp
  rw [List.cons_append, List.cons_append, ofPieces_cons fun _ => by simp [hq], ofPieces_cons fun _ => by simp,
    List.filterMap_append, List.filterMap_append]
  simp [show ofPiece? [] = none from rfl]

theorem ofPieces_concat (hc : ofPiece? piece = some c) :
    ofPieces (ps ++ [piece]) = ofPieces (ps ++ [[]]) ++ [c] := by
  cases ps with
  | nil =>
    have hidle := ofPiece?_isSome_iff.1 (hc ▸ rfl : (ofPiece? piece).isSome)
    rw [List.nil_append, ofPieces_of_not_idle hidle]
    simp [ofPieces, hc]
  | cons first body =>
    rw [ofPieces_append (by simp) (by simp)]
    simp [hc]

theorem ofPieces_firm (p : Path) : ofPieces (p.firm ++ [[]]) = p.components := by
  rw [components_eq]
  rcases pieces_eq_firm p with he | he
  · rw [he]
    obtain ⟨first, body, hb⟩ := List.exists_cons_of_ne_nil (he ▸ pieces_ne_nil p.spelling.toList)
    -- An empty piece alone would be the empty path, which has no firm piece.
    have hbody : first = [] → body ≠ [] := by
      rintro rfl rfl
      have hempty : p.spelling.toList = [] := by
        have := congrArg (['/'].intercalate ·) (he.trans hb)
        rw [pieces_eq_splitOn] at this
        simpa using this
      rw [firm, if_pos (.inl hempty), hempty] at hb
      cases hb
    rw [hb, List.cons_append, ofPieces_cons fun _ => by simp, ofPieces_cons hbody, List.filterMap_append]
    simp [show ofPiece? [] = none from rfl]
  · rw [he]

theorem components_child (h : IsFileName name) (p : Path) :
    (p.child name).components = p.components ++ [.name name] := by
  rw [components_eq, pieces_child h, ofPieces_concat (ofPiece?_toList h), ofPieces_firm]

theorem components_under (h : ∀ name ∈ names, IsFileName name) (p : Path) :
    (p.under names).components = p.components ++ names.map .name := by
  induction names generalizing p with
  | nil => simp
  | cons name names ih =>
    rw [under_cons, ih (fun n hn => h n (by simp [hn])), components_child (h name (by simp))]
    simp

theorem isAbsolute_under (h : ∀ n ∈ names, IsFileName n) (hp : p.isAbsolute = false) :
    (p.under names).isAbsolute = false := by
  rw [isAbsolute, components_under h]
  cases hc : p.components with
  | nil => cases names <;> simp
  | cons c cs =>
    rw [isAbsolute, hc] at hp
    simpa using hp

theorem spelling_under (h : ∀ n ∈ names, IsFileName n) (hne : names ≠ []) (p : Path) :
    (p.under names).spelling ≠ "" := by
  intro hempty
  have hc := components_under h p
  rw [components, hempty] at hc
  cases names with
  | nil => exact hne rfl
  | cons n names => simp [componentsOf, pieces] at hc

/-- The spelling of an entry's path goes on behind that of its directory. -/
theorem exists_spelling_child (h : IsFileName name) (p : Path) :
    ∃ l, l ≠ [] ∧ (p.child name).spelling.toList = p.spelling.toList ++ l := by
  unfold child join
  simp only [if_neg (head?_ne h)]
  split
  · exact ⟨name.toList, toList_ne_nil h, String.toList_ofList⟩
  · exact ⟨'/' :: name.toList, by simp, String.toList_ofList⟩

theorem length_le_under (h : ∀ n ∈ names, IsFileName n) (p : Path) :
    names.length ≤ (p.under names).spelling.toList.length := by
  induction names using List.reverseRecOn with
  | nil => exact Nat.zero_le _
  | append_singleton names name ih =>
    obtain ⟨l, hl, hs⟩ := exists_spelling_child (h name (by simp)) (p.under names)
    have hlength := List.length_pos_iff.2 hl
    have hfront := ih fun n hn => h n (by simp [hn])
    rw [under_concat, hs, List.length_append, List.length_append, List.length_singleton]
    omega

/-! ## The directory of a path below another -/

theorem glued_pieces (l : List Char) : glued (pieces l) = l := by
  rw [pieces_eq_splitOn, glued, List.intercalate_splitOn]

theorem glued_singleton (piece : List Char) : glued [piece] = piece := by simp [glued]

theorem glued_append (hp : ps ≠ []) (hq : qs ≠ []) : glued (ps ++ qs) = glued ps ++ '/' :: glued qs := by
  induction ps with
  | nil => exact absurd rfl hp
  | cons first ps ih =>
    cases ps with
    | nil =>
      obtain ⟨second, rest, rfl⟩ := List.exists_cons_of_ne_nil hq
      simp [glued, List.intercalate]
    | cons second rest =>
      have := ih (by simp)
      simp only [glued, List.intercalate, List.cons_append, List.intersperse_cons_cons, List.flatten_cons] at this ⊢
      rw [this]
      simp

/-- The spelling of a path goes on behind that of its directory. -/
theorem exists_of_parent? (h : p.parent? = some q) (hq : q.spelling ≠ "") (habs : p.isAbsolute = false) :
    ∃ rest, p.spelling.toList = q.spelling.toList ++ '/' :: rest := by
  -- What is left of the pieces is glued to what they were.
  have hglue : ∀ front rest, pieces p.spelling.toList = front ++ rest → front ≠ [] → rest ≠ [] →
      p.spelling.toList = glued front ++ '/' :: glued rest := fun front rest he hf hr => by
    rw [← glued_append hf hr, ← he, glued_pieces]
  have hrest : ∀ {body front : List (List Char)}, beforeLast body.reverse = some front →
      ∃ rest, rest ≠ [] ∧ body = front.reverse ++ rest := by
    intro body front hfront
    obtain ⟨c, hc, rest, rfl⟩ := filterMap_reverse_of_beforeLast hfront
    refine ⟨rest, ?_, rfl⟩
    rintro rfl
    simp at hc
  unfold parent? at h
  split at h
  · rename_i body hpieces
    obtain ⟨front, hfront, -⟩ := Option.map_eq_some_iff.1 h
    obtain ⟨rest, hne, hbody⟩ := hrest hfront
    rw [isAbsolute, components_eq, hpieces, ofPieces, if_neg (by simp [hbody, hne])] at habs
    cases habs
  · rename_i body hpieces
    split at h
    · exact absurd (Option.some.inj h ▸ rfl) hq
    · rename_i front hfront
      obtain ⟨rest, hne, rfl⟩ := hrest hfront
      obtain rfl := Option.some.inj h
      exact ⟨_, by rw [String.toList_ofList]; exact hglue (['.'] :: front.reverse) rest hpieces (by simp) hne⟩
  · obtain ⟨front, hfront, rfl⟩ := Option.map_eq_some_iff.1 h
    obtain ⟨rest, hne, hbody⟩ := hrest hfront
    have hnil : front.reverse ≠ [] := by
      intro he
      rw [he] at hq
      exact hq rfl
    exact ⟨_, by rw [String.toList_ofList]; exact hglue _ rest hbody hnil hne⟩

theorem isIdle_eq_false (h : IsFileName name) : isIdle name.toList = false :=
  ofPiece?_isSome_iff.1 (by rw [ofPiece?_toList h]; rfl)

/-- Where the last two pieces of a path count, its directory is what stands in front of the last. -/
theorem parent?_of_pieces {last : List Char} (h : pieces p.spelling.toList = (ps ++ [piece]) ++ [last])
    (hpiece : isIdle piece = false) (hlast : isIdle last = false) :
    p.parent? = some ⟨String.ofList (glued (ps ++ [piece]))⟩ := by
  have hbefore : ∀ front : List (List Char), beforeLast ((front ++ [piece]) ++ [last]).reverse =
      some (front ++ [piece]).reverse := fun front => by simp [beforeLast, hlast, hpiece]
  cases ps with
  | nil =>
    have hfirst : piece ≠ [] ∧ piece ≠ ['.'] := by simpa [isIdle] using hpiece
    unfold parent?
    split
    · simp_all
    · simp_all
    · rw [h, hbefore]
      simp
  | cons first ps =>
    have hglue : glued (first :: (ps ++ [piece])) = first ++ '/' :: glued (ps ++ [piece]) := by
      rw [← List.singleton_append, glued_append (by simp) (by simp), glued_singleton]
    rw [List.cons_append, List.cons_append] at h
    unfold parent?
    split
    · rename_i body hb
      obtain ⟨rfl, rfl⟩ := List.cons.inj (h.symm.trans hb)
      rw [hbefore, Option.map_some, List.reverse_reverse, List.cons_append, hglue, List.nil_append]
    · rename_i body hb
      obtain ⟨rfl, rfl⟩ := List.cons.inj (h.symm.trans hb)
      rw [hbefore]
      simp only [List.reverse_reverse, List.cons_append]
    · rw [h, ← List.cons_append, ← List.cons_append, hbefore]
      simp

/-- The directory of a path below another. -/
theorem parent?_under (h : ∀ n ∈ names, IsFileName n) (hne : names ≠ []) (hname : IsFileName name) (p : Path) :
    (p.under (names ++ [name])).parent? = some (p.under names) := by
  obtain ⟨front, last, rfl⟩ := (List.eq_nil_or_concat names).resolve_left hne
  rw [List.concat_eq_append] at *
  have hall : ∀ n ∈ (front ++ [last]) ++ [name], IsFileName n := fun n hn => by
    rcases List.mem_append.1 hn with hn | hn
    · exact h n hn
    · exact List.mem_singleton.1 hn ▸ hname
  have hp : pieces (p.under (front ++ [last])).spelling.toList = (p.firm ++ front.map String.toList) ++ [last.toList] := by
    rw [pieces_under h hne]
    simp
  have hpieces : pieces (p.under ((front ++ [last]) ++ [name])).spelling.toList =
      ((p.firm ++ front.map String.toList) ++ [last.toList]) ++ [name.toList] := by
    rw [pieces_under hall (by simp)]
    simp
  rw [parent?_of_pieces hpieces (isIdle_eq_false (h last (by simp))) (isIdle_eq_false hname), ← hp, glued_pieces,
    String.ofList_toList]

/-! ## A path behind another -/

theorem firm_eq_nil : p.firm = [] ↔ p.components = [] := by
  constructor
  · intro h
    rw [← ofPieces_firm, h]
    rfl
  · intro h
    by_contra hne
    obtain ⟨first, body, hb⟩ := List.exists_cons_of_ne_nil hne
    rw [← ofPieces_firm, hb, List.cons_append, ofPieces_cons fun _ => by simp, List.append_eq_nil_iff] at h
    -- Only the first piece of the empty path means nothing.
    have hlead := h.1
    unfold lead at hlead
    split at hlead
    · cases hlead
    · rename_i hslash
      split at hlead
      · cases hlead
      · rename_i hdot
        have hidle : isIdle first = false := by simp [isIdle, hslash, hdot]
        have := ofPiece?_isSome_iff.2 hidle
        rw [Option.toList_eq_nil_iff] at hlead
        simp [hlead] at this

theorem ofPiece?_ne (piece : List Char) : ofPiece? piece ≠ some .root ∧ ofPiece? piece ≠ some .here := by
  unfold ofPiece?
  split_ifs <;> simp

theorem filter_filterMap_ofPiece? (ps : List (List Char)) :
    (ps.filterMap ofPiece?).filter (· ≠ .here) = ps.filterMap ofPiece? := by
  rw [List.filter_eq_self]
  intro c hc
  obtain ⟨piece, -, hpiece⟩ := List.mem_filterMap.1 hc
  have hne : c ≠ .here := by
    rintro rfl
    exact (ofPiece?_ne piece).2 hpiece
  simpa using hne

/-- A text that does not start with a slash is empty or has something in its first piece. -/
theorem pieces_of_head? (h : l.head? ≠ some '/') :
    l = [] ∨ ∃ first body, first ≠ [] ∧ pieces l = first :: body := by
  cases l with
  | nil => exact .inl rfl
  | cons c rest =>
    right
    have hc : ¬c = '/' := fun he => h (by rw [he]; rfl)
    rw [pieces, if_neg hc]
    cases pieces rest with
    | nil => exact ⟨_, _, by simp, rfl⟩
    | cons piece others => exact ⟨_, _, by simp, rfl⟩

/-- What the pieces of a path that does not start at the top mean behind another path. -/
theorem filterMap_pieces (h : q.spelling.toList.head? ≠ some '/') :
    (pieces q.spelling.toList).filterMap ofPiece? = q.components.filter (· ≠ .here) := by
  rw [components_eq]
  rcases pieces_of_head? h with he | ⟨first, body, hne, he⟩
  · rw [he]
    rfl
  · rw [he, ofPieces_cons fun hnil => absurd hnil hne, List.filter_append, filter_filterMap_ofPiece?,
      List.filterMap_cons, lead, if_neg hne]
    split_ifs with hdot
    · rw [hdot]
      rfl
    · have := filter_filterMap_ofPiece? [first]
      cases hf : ofPiece? first <;> simp_all

theorem isAbsolute_iff : q.isAbsolute = true ↔ q.spelling.toList.head? = some '/' := by
  rw [isAbsolute, beq_iff_eq]
  constructor
  · intro h
    by_contra hslash
    rcases pieces_of_head? hslash with he | ⟨first, body, hne, he⟩
    · rw [components_eq, he] at h
      cases h
    · -- Whatever a piece behind no slash means, it is not the top.
      have hroot : Component.root ∈ q.components.filter (· ≠ .here) :=
        List.mem_filter.2 ⟨List.mem_of_head? h, by simp⟩
      rw [← filterMap_pieces hslash] at hroot
      obtain ⟨piece, -, hpiece⟩ := List.mem_filterMap.1 hroot
      exact (ofPiece?_ne piece).1 hpiece
  · intro h
    obtain ⟨rest, hl⟩ := List.head?_eq_some_iff.1 h
    rw [components_eq, hl, pieces, if_pos rfl, ofPieces, if_neg (pieces_ne_nil rest)]
    rfl

/-- What a path behind another means depends on what both mean. -/
theorem components_join (p q : Path) : (p.join q).components =
    if q.isAbsolute = true then q.components
    else if p.components = [] then q.components
    else p.components ++ q.components.filter (· ≠ .here) := by
  by_cases habs : q.isAbsolute = true
  · rw [if_pos habs, join]
    simp only [isAbsolute_iff.1 habs, if_true]
  · rw [if_neg habs]
    rw [isAbsolute_iff] at habs
    rw [components_eq, pieces_join habs]
    by_cases hp : p.components = []
    · rw [if_pos hp, firm_eq_nil.2 hp]
      rfl
    · rw [if_neg hp, ofPieces_append (mt firm_eq_nil.1 hp) (pieces_ne_nil _), ofPieces_firm, filterMap_pieces habs]

theorem components_join_congr (hp : p.components = p'.components) (hq : q.components = q'.components) :
    (p.join q).components = (p'.join q').components := by
  rw [components_join, components_join, hp, hq, isAbsolute, isAbsolute, hq]

/-! ## Names of entries -/

/-- A name of one component goes behind a path. -/
theorem components_child_of_single {name : String} (h : components ⟨name⟩ = [.name name]) :
    (p.child name).components = p.components ++ [.name name] := by
  rw [child, components_join, isAbsolute, h]
  by_cases hp : p.components = [] <;> simp [hp]

theorem components_of_isFileName (h : IsFileName name) : components ⟨name⟩ = [.name name] := by
  have hidle : isIdle name.toList = false := ofPiece?_isSome_iff.1 (by rw [ofPiece?_toList h]; rfl)
  rw [components_eq, pieces_of_not_mem h.no_slash, ofPieces_of_not_idle hidle]
  simp [ofPiece?_toList h]

/-- The path of an entry's name alone. -/
theorem components_of_name? {n : String} (h : p.name? = some n) : components ⟨n⟩ = [.name n] := by
  have hmem : Component.name n ∈ ofPieces (pieces p.spelling.toList) :=
    components_eq p ▸ List.mem_of_getLast? (getLast?_of_name? h)
  have hpiece : ∃ piece ∈ pieces p.spelling.toList, ofPiece? piece = some (.name n) := by
    generalize pieces p.spelling.toList = ps at hmem
    unfold ofPieces at hmem
    split at hmem
    · split at hmem
      · cases hmem
      · obtain ⟨piece, hp, hof⟩ := List.mem_filterMap.1 (List.mem_of_ne_of_mem (by simp) hmem)
        exact ⟨piece, List.mem_cons_of_mem _ hp, hof⟩
    · obtain ⟨piece, hp, hof⟩ := List.mem_filterMap.1 (List.mem_of_ne_of_mem (by simp) hmem)
      exact ⟨piece, List.mem_cons_of_mem _ hp, hof⟩
    · exact List.mem_filterMap.1 hmem
  obtain ⟨piece, hp, hof⟩ := hpiece
  have hidle : isIdle piece = false := ofPiece?_isSome_iff.1 (hof ▸ rfl : (ofPiece? piece).isSome)
  have htext : piece = n.toList := by
    rw [ofPiece?, hidle, if_neg Bool.false_ne_true] at hof
    split at hof
    · cases hof
    · rw [Option.some.injEq, Component.name.injEq] at hof
      rw [← hof, String.toList_ofList]
  rw [components_eq, ← htext, pieces_of_not_mem (not_mem_of_mem_pieces hp), ofPieces_of_not_idle hidle,
    List.filterMap_cons, hof]
  rfl

/-- The top and the dot are only in front. -/
theorem components_of_getLast? (h : p.components.getLast? = some c) (hc : c = .root ∨ c = .here) :
    p.components = [c] := by
  rw [components_eq] at h ⊢
  have hbody : ∀ ps : List (List Char), (ps.filterMap ofPiece?).getLast? ≠ some c := by
    intro ps hl
    obtain ⟨piece, -, hpiece⟩ := List.mem_filterMap.1 (List.mem_of_getLast? hl)
    rcases hc with rfl | rfl
    · exact (ofPiece?_ne piece).1 hpiece
    · exact (ofPiece?_ne piece).2 hpiece
  have hcons : ∀ (first : Component) (ps : List (List Char)),
      (first :: ps.filterMap ofPiece?).getLast? = some c → first :: ps.filterMap ofPiece? = [c] := by
    intro first ps hl
    cases hps : ps.filterMap ofPiece? with
    | nil =>
      rw [hps, List.getLast?_singleton, Option.some.injEq] at hl
      rw [hl]
    | cons second rest =>
      rw [hps, List.getLast?_cons_cons, ← hps] at hl
      exact absurd hl (hbody ps)
  generalize pieces p.spelling.toList = ps at h ⊢
  unfold ofPieces at h ⊢
  split at h
  · split at h
    · cases h
    · rename_i hne
      rw [if_neg hne]
      exact hcons _ _ h
  · exact hcons _ _ h
  · exact absurd h (hbody _)

/-- The name of a path's entry in the directory of the path leads back to the path, unless that ends in going up. -/
theorem components_entry (h : p.components.getLast? ≠ some .up) :
    ((p.parent?.getD ⟨""⟩).child p.entryName).components = p.components := by
  cases hn : p.name? with
  | some n =>
    obtain ⟨q, hq⟩ := Option.isSome_iff_exists.1 (parent?_isSome_of_name hn)
    obtain ⟨c, hc⟩ := components_of_parent? hq
    obtain rfl : c = .name n := by simpa [hc] using getLast?_of_name? hn
    have hentry : p.entryName = n := by rw [entryName, hn, Option.getD_some]
    rw [hentry, hq, Option.getD_some, components_child_of_single (components_of_name? hn), hc]
  | none =>
    have hentry : p.entryName = p.spelling := by rw [entryName, hn, Option.getD_none]
    have hfront : (p.parent?.getD ⟨""⟩).components = [] := by
      cases hq : p.parent? with
      | none => rfl
      | some q =>
        obtain ⟨c, hc⟩ := components_of_parent? hq
        have hl : p.components.getLast? = some c := by rw [hc, List.getLast?_concat]
        have hlead : c = .root ∨ c = .here := by
          cases c with
          | root => exact .inl rfl
          | here => exact .inr rfl
          | up => exact absurd hl h
          | name n =>
            rw [name?, hl] at hn
            cases hn
        simpa [hc] using components_of_getLast? hl hlead
    rw [hentry, child, components_join, if_pos hfront, ite_self]

/-- A path whose entry has a name that entries can have ends in this name. -/
theorem getLast?_of_isFileName (h : IsFileName p.entryName) :
    p.components.getLast? = some (.name p.entryName) := by
  cases hn : p.name? with
  | some n =>
    rw [entryName, hn]
    exact getLast?_of_name? hn
  | none =>
    have he : p.entryName = p.spelling := by
      rw [entryName, hn]
      rfl
    rw [he] at h ⊢
    have hc : p.components = [.name p.spelling] := components_of_isFileName h
    rw [hc]
    rfl

theorem components_eq_of_entryName (h : IsFileName p.entryName) {base : List Component} {c : Component}
    (hp : p.components = base ++ [c]) : p.components = base ++ [.name p.entryName] := by
  have hl := getLast?_of_isFileName h
  rw [hp, List.getLast?_concat, Option.some.injEq] at hl
  rw [hp, hl]

end Path

end FileIndex
