/-
What the tokenizer reads, told by the double quotes of a query: they cut it into segments, of which the even ones hold
words and the odd ones are phrases (`reference`). The run through the table never comes to a state without a way on,
and hands out these tokens up to the first one that is refused (`run_eq_reference`).

The table has two states between tokens and keeps the text of the open token apart; a scan has neither. The run is told
by the scan (`Stands.runFrom_eq`), and the scan by the segments (`scan_between`).
-/
import FileIndex.Proofs.Outcome
import FileIndex.Query.Reader
import FileIndex.Query.Tokenizer

namespace FileIndex.Tokenizer

open Text Token

variable {ε σ : Type} {take : σ → Token → Except ε Unit × σ} {s s' : σ} {state : State} {text acc l : List Char}
  {c : Char} {scan : Scan} {tokens front rest : List Token} {t : Token} {e : ε}

/-! ## Tokens that are handed out -/

/-- Hands out tokens, one after the other, until one is refused. -/
def handAll (take : σ → Token → Except ε Unit × σ) (s : σ) : List Token → Except ε Unit × σ
  | [] => (.ok (), s)
  | t :: rest =>
    match take s t with
    | (.error e, s) => (.error e, s)
    | (.ok (), s) => handAll take s rest

/-- A taker that also keeps a list of the tokens that it was handed. -/
def noting (take : σ → Token → Except ε Unit × σ) (s : List Token × σ) (t : Token) :
    Except ε Unit × List Token × σ :=
  ((take s.2 t).1, s.1 ++ [t], (take s.2 t).2)

theorem handAll_append (h : handAll take s front = (.ok (), s')) :
    handAll take s (front ++ rest) = handAll take s' rest := by
  induction front generalizing s with
  | nil =>
    obtain rfl : s = s' := congrArg Prod.snd h
    rfl
  | cons t front ih =>
    rw [List.cons_append, handAll]
    rw [handAll] at h
    split at h
    · cases h
    · exact ih h

/-- What is accepted as a whole is handed out as a whole. -/
theorem handAll_noting (h : handAll take s tokens = (.ok (), s')) (seen : List Token) :
    handAll (noting take) (seen, s) tokens = (.ok (), seen ++ tokens, s') := by
  induction tokens generalizing s seen with
  | nil =>
    obtain rfl : s = s' := congrArg Prod.snd h
    rw [List.append_nil]
    rfl
  | cons t tokens ih =>
    rw [handAll] at h
    rcases ht : take s t with ⟨r, s₁⟩
    rw [ht] at h
    cases r with
    | error e => cases h
    | ok u =>
      rw [handAll, noting, ht]
      simpa using ih h (seen ++ [t])

/-- Nothing is handed out behind a token that is refused. -/
theorem handAll_noting_refused (h : handAll take s front = (.ok (), s')) {s₂ : σ} (ht : take s' t = (.error e, s₂))
    (seen rest : List Token) :
    handAll (noting take) (seen, s) (front ++ t :: rest) = (.error e, seen ++ front ++ [t], s₂) := by
  rw [handAll_append (handAll_noting h seen), handAll, noting, ht]

/-- Handing out tokens begins with the first one, if there is one. -/
theorem handAll_toList_append (o : Option Token) : handAll take s (o.toList ++ rest) =
    match hand take s o with
    | (.error e, s) => (.error e, s)
    | (.ok (), s) => handAll take s rest := by
  cases o with
  | none => rfl
  | some t => rfl

theorem handAll_toList (o : Option Token) : handAll take s o.toList = hand take s o := by
  rw [← List.append_nil o.toList, handAll_toList_append]
  rcases hand take s o with ⟨_ | ⟨⟩, _⟩ <;> rfl

/-! ## The table and the scan -/

/-- The states that a run goes on from, with the text of the open token, and where a scan stands there. -/
inductive Stands : State → List Char → Scan → Prop
  | wordBoundary : Stands .wordBoundary [] .between
  | quoteBoundary : Stands .quoteBoundary [] .between
  | plainWord (text : List Char) : Stands .plainWord text (.inWord text)
  | quoted (text : List Char) : Stands .quoted text (.inPhrase text)

/-- A character leads to another state that a run goes on from. -/
theorem Stands.step (h : Stands state text scan) (c : Char) : ∃ next action,
    transition state (.of (some c)) = .ok (next, action) ∧ next ≠ .finished ∧
      Stands next (action.on text (some c)).1 (scan.step c).1 ∧ (action.on text (some c)).2 = (scan.step c).2 := by
  simp only [Trigger.of]
  by_cases hq : c = '"'
  · simp only [if_pos hq]
    cases h with
    | wordBoundary | quoteBoundary =>
      exact ⟨_, _, rfl, nofun, by simpa [Scan.step, hq] using .quoted [], by simp [Scan.step, hq, Action.on]⟩
    | plainWord text =>
      exact ⟨_, _, rfl, nofun, by simpa [Scan.step, hq] using .quoted [], by simp [Scan.step, hq, Action.on]⟩
    | quoted text =>
      exact ⟨_, _, rfl, nofun, by simpa [Scan.step, hq] using .quoteBoundary, by simp [Scan.step, hq, Action.on]⟩
  · cases hb : isBlank c with
    | true =>
      simp only [if_neg hq, if_true]
      cases h with
      | wordBoundary | quoteBoundary =>
        exact ⟨_, _, rfl, nofun, by simpa [Scan.step, hq, hb] using .wordBoundary, by simp [Scan.step, hq, hb, Action.on]⟩
      | plainWord text =>
        exact ⟨_, _, rfl, nofun, by simpa [Scan.step, hq, hb] using .wordBoundary, by simp [Scan.step, hq, hb, Action.on]⟩
      | quoted text =>
        exact ⟨_, _, rfl, nofun, by simpa [Scan.step, hq] using .quoted (c :: text), by simp [Scan.step, hq, Action.on]⟩
    | false =>
      simp only [if_neg hq, Bool.false_eq_true, if_false]
      cases h with
      | wordBoundary | quoteBoundary =>
        exact ⟨_, _, rfl, nofun, by simpa [Scan.step, hq, hb] using .plainWord [c], by simp [Scan.step, hq, hb, Action.on]⟩
      | plainWord text =>
        exact ⟨_, _, rfl, nofun, by simpa [Scan.step, hq, hb] using .plainWord (c :: text),
          by simp [Scan.step, hq, hb, Action.on]⟩
      | quoted text =>
        exact ⟨_, _, rfl, nofun, by simpa [Scan.step, hq] using .quoted (c :: text), by simp [Scan.step, hq, Action.on]⟩

/-- The end of the text ends the run. -/
theorem Stands.finish (h : Stands state text scan) : ∃ action,
    transition state (.of none) = .ok (.finished, action) ∧ (action.on text none).2 = scan.finish := by
  cases h <;> exact ⟨_, rfl, rfl⟩

/-- **A run comes to its end**, and hands out what a scan reads. -/
theorem Stands.runFrom_eq (h : Stands state text scan) (take : σ → Token → Except ε Unit × σ) (s : σ)
    (l : List Char) : runFrom take s state text l = .ok (handAll take s (Token.scan scan l)) := by
  induction l generalizing state text scan s with
  | nil =>
    obtain ⟨action, htable, htoken⟩ := h.finish
    rw [runFrom, htable, ok_bind, Token.scan, handAll_toList]
    exact congrArg (fun o => Except.ok (hand take s o)) htoken
  | cons c l ih =>
    obtain ⟨next, action, htable, hnext, hstands, htoken⟩ := h.step c
    rw [runFrom, htable, ok_bind, Token.scan, handAll_toList_append, ← htoken]
    simp only [if_neg hnext, ih hstands]
    rcases hand take s (action.on text (some c)).2 with ⟨_ | ⟨⟩, _⟩ <;> rfl

/-! ## Segments -/

/-- What a query is cut into at its double quotes. -/
def segments (l : List Char) : List (List Char) := l.splitOn '"'

/-- The longest runs of characters that are no white space. -/
def wordsOf (segment : List Char) : List (List Char) := (segment.splitOnP isBlank).filter (· ≠ [])

/-- The tokens of the segment of a number. -/
def ofSegment (number : Nat) (segment : List Char) : List Token :=
  if number % 2 = 0 then (wordsOf segment).map fun w => .word (String.ofList w)
  else [.phrase (String.ofList segment)]

/-- The tokens of a query, segment by segment. -/
def reference (query : String) : List Token := ((segments query.toList).mapIdx ofSegment).flatten

/-- The tokens of segments from the one of a number on. -/
def fromSegment (number : Nat) (pieces : List (List Char)) : List Token :=
  (pieces.mapIdx fun i => ofSegment (number + i)).flatten

theorem fromSegment_cons (number : Nat) (piece : List Char) (pieces : List (List Char)) :
    fromSegment number (piece :: pieces) = ofSegment number piece ++ fromSegment (number + 1) pieces := by
  simp only [fromSegment, List.mapIdx_cons, List.flatten_cons, Nat.add_zero, Nat.add_right_comm number 1]
  rfl

theorem segments_quote (l : List Char) : segments ('"' :: l) = [] :: segments l := by
  rw [segments, List.splitOn_cons_eq_if_modifyHead]
  rfl

theorem exists_segments (l : List Char) : ∃ piece pieces, segments l = piece :: pieces :=
  List.exists_cons_of_ne_nil (List.splitOn_ne_nil '"' l)

theorem segments_cons {piece : List Char} {pieces : List (List Char)} (hc : c ≠ '"')
    (h : segments l = piece :: pieces) : segments (c :: l) = (c :: piece) :: pieces := by
  rw [segments] at h ⊢
  rw [List.splitOn_cons_eq_if_modifyHead, h]
  simp [hc]

/-! ## Words -/

theorem wordsOf_nil : wordsOf [] = [] := rfl

/-- White space in front does not count. -/
theorem wordsOf_blank (h : isBlank c = true) (l : List Char) : wordsOf (c :: l) = wordsOf l := by
  rw [wordsOf, List.splitOnP_cons_eq_if_modifyHead, if_pos h]
  rfl

/-- A run is a word in front of white space. -/
theorem wordsOf_run (hacc : acc ≠ []) (hplain : ∀ d ∈ acc, isBlank d = false) (h : isBlank c = true) (l : List Char) :
    wordsOf (acc ++ c :: l) = acc :: wordsOf l := by
  rw [wordsOf, List.splitOnP_append_cons_of_forall_mem (by simpa using hplain) c h, List.filter_cons_of_pos (by simpa using hacc)]
  rfl

/-- A run is a word at the end. -/
theorem wordsOf_run_end (hacc : acc ≠ []) (hplain : ∀ d ∈ acc, isBlank d = false) : wordsOf acc = [acc] := by
  rw [wordsOf, List.splitOnP_eq_singleton (by simpa using hplain), List.filter_cons_of_pos (by simpa using hacc)]
  rfl

/-! ## The scan and the segments -/

/-- The text of the open token. -/
def openText : Scan → List Char
  | .between => []
  | .inWord text | .inPhrase text => text.reverse

/-- Whether a scan can stand in the segment of a number: words are open in even segments, phrases in odd ones. -/
def Fits (number : Nat) : Scan → Prop
  | .between => number % 2 = 0
  | .inWord text => number % 2 = 0 ∧ text ≠ [] ∧ ∀ c ∈ text, isBlank c = false
  | .inPhrase _ => number % 2 = 1

theorem ofSegment_even {number : Nat} (h : number % 2 = 0) (segment : List Char) :
    ofSegment number segment = (wordsOf segment).map fun w => .word (String.ofList w) := if_pos h

theorem ofSegment_odd {number : Nat} (h : number % 2 = 1) (segment : List Char) :
    ofSegment number segment = [.phrase (String.ofList segment)] := if_neg (by omega)

/-- What is left of a segment ends the open token. -/
theorem finish_eq {number : Nat} (h : Fits number scan) : scan.finish.toList = ofSegment number (openText scan) := by
  cases scan with
  | between =>
    rw [openText, ofSegment_even h, wordsOf_nil]
    rfl
  | inWord text =>
    obtain ⟨heven, hne, hplain⟩ := h
    rw [openText, ofSegment_even heven, wordsOf_run_end (by simpa using hne) (by simpa using hplain)]
    rfl
  | inPhrase text =>
    rw [openText, ofSegment_odd h]
    rfl

/-- A double quote ends the segment. -/
theorem step_quote {number : Nat} (h : Fits number scan) : (scan.step '"').2.toList = ofSegment number (openText scan) ∧
    Fits (number + 1) (scan.step '"').1 ∧ openText (scan.step '"').1 = [] := by
  rw [← finish_eq h]
  cases scan with
  | between => exact ⟨rfl, by rw [Fits] at h; simp [Scan.step, Fits]; omega, rfl⟩
  | inWord text => exact ⟨rfl, by have := h.1; simp [Scan.step, Fits]; omega, rfl⟩
  | inPhrase text => exact ⟨rfl, by rw [Fits] at h; simp [Scan.step, Fits]; omega, rfl⟩

/-- Any other character belongs to the segment. -/
theorem step_inside {number : Nat} (h : Fits number scan) (hc : c ≠ '"') (piece : List Char) :
    Fits number (scan.step c).1 ∧ ofSegment number (openText scan ++ c :: piece) =
      (scan.step c).2.toList ++ ofSegment number (openText (scan.step c).1 ++ piece) := by
  cases scan with
  | between =>
    have heven : number % 2 = 0 := h
    cases hb : isBlank c with
    | true =>
      simp only [Scan.step, if_neg hc, hb, if_true, openText, List.nil_append, Option.toList_none]
      exact ⟨h, by rw [ofSegment_even heven, ofSegment_even heven, wordsOf_blank hb]⟩
    | false =>
      simp only [Scan.step, if_neg hc, hb, Bool.false_eq_true, if_false, openText]
      exact ⟨⟨heven, by simp, by simpa using hb⟩, rfl⟩
  | inWord text =>
    obtain ⟨heven, hne, hplain⟩ := h
    cases hb : isBlank c with
    | true =>
      simp only [Scan.step, if_neg hc, hb, if_true, openText, List.nil_append]
      refine ⟨heven, ?_⟩
      rw [ofSegment_even heven, ofSegment_even heven, wordsOf_run (by simpa using hne) (by simpa using hplain) hb]
      rfl
    | false =>
      simp only [Scan.step, if_neg hc, hb, Bool.false_eq_true, if_false, openText]
      exact ⟨⟨heven, by simp, by simpa [hb] using hplain⟩, by simp⟩
  | inPhrase text =>
    simp only [Scan.step, if_neg hc, openText]
    exact ⟨h, by simp⟩

/-- A scan that stands in a segment reads the rest of it with the open token, and then the segments behind. -/
theorem scan_eq {number : Nat} {piece : List Char} {pieces : List (List Char)} (h : Fits number scan)
    (hl : segments l = piece :: pieces) :
    Token.scan scan l = ofSegment number (openText scan ++ piece) ++ fromSegment (number + 1) pieces := by
  induction l generalizing scan number piece pieces with
  | nil =>
    obtain ⟨rfl, rfl⟩ : piece = [] ∧ pieces = [] := by simpa [segments, eq_comm] using hl
    rw [Token.scan, finish_eq h, List.append_nil]
    exact (List.append_nil _).symm
  | cons c l ih =>
    obtain ⟨first, others, hsegments⟩ := exists_segments l
    rw [Token.scan]
    by_cases hc : c = '"'
    · subst hc
      obtain ⟨rfl, rfl⟩ : [] = piece ∧ first :: others = pieces := by
        rw [segments_quote, hsegments] at hl
        exact List.cons.inj hl
      obtain ⟨htoken, hfits, hopen⟩ := step_quote h
      rw [ih hfits hsegments, htoken, hopen, List.append_nil, fromSegment_cons]
      rfl
    · obtain ⟨rfl, rfl⟩ : c :: first = piece ∧ others = pieces := by
        rw [segments_cons hc hsegments] at hl
        exact List.cons.inj hl
      obtain ⟨hfits, hpiece⟩ := step_inside h hc first
      rw [ih hfits hsegments, hpiece, List.append_assoc]

theorem ofQuery_eq (query : String) : Token.ofQuery query = reference query := by
  obtain ⟨piece, pieces, hsegments⟩ := exists_segments query.toList
  have hstart : Fits 0 .between := rfl
  rw [Token.ofQuery, scan_eq hstart hsegments, reference, hsegments]
  exact (fromSegment_cons 0 piece pieces).symm.trans (by simp [fromSegment])

/-! ## Runs -/

/-- **What a run reads.** It never comes to a state without a way on. It hands out the tokens of the reference, which a
reader of queries takes in as well; if one of them is refused, it ends with that answer and has handed out this token and
those in front of it, and no other. -/
theorem run_eq_reference (query : String) (take : σ → Token → Except ε Unit × σ) (s : σ) :
    Token.ofQuery query = reference query ∧
    run take s query = .ok (handAll take s (reference query)) ∧
    (∀ s', handAll take s (reference query) = (.ok (), s') →
      run (noting take) ([], s) query = .ok (.ok (), reference query, s')) ∧
    ∀ front t behind s' e s'', reference query = front ++ t :: behind → handAll take s front = (.ok (), s') →
      take s' t = (.error e, s'') → run take s query = .ok (.error e, s'') ∧
        run (noting take) ([], s) query = .ok (.error e, front ++ [t], s'') := by
  have hread := ofQuery_eq query
  have hrun : ∀ {τ : Type} (take : τ → Token → Except ε Unit × τ) (s : τ),
      run take s query = .ok (handAll take s (reference query)) := fun take s => by
    rw [← hread]
    exact Stands.wordBoundary.runFrom_eq take s query.toList
  refine ⟨hread, hrun take s, fun s' hall => ?_, fun front t behind s' e s'' hsplit hfront ht => ⟨?_, ?_⟩⟩
  · rw [hrun, handAll_noting hall, List.nil_append]
  · rw [hrun, hsplit, handAll_append hfront, handAll, ht]
  · rw [hrun, hsplit, handAll_noting_refused hfront ht, List.nil_append]

/-- One who takes words only. -/
def wordsOnly (n : Nat) : Token → Except String Unit × Nat
  | .word _ => (.ok (), n + 1)
  | .phrase p => (.error p, n)

/-- A word, a phrase that is refused, and a word behind it that is never handed out. -/
theorem run_eq_reference_refused :
    run (noting wordsOnly) ([], 0) "x \"a b\"y" = .ok (.error "a b", [.word "x", .phrase "a b"], 1) :=
  ((run_eq_reference "x \"a b\"y" wordsOnly 0).2.2.2 [.word "x"] (.phrase "a b") [.word "y"] 1 "a b" 1 (by decide +kernel) rfl
    rfl).2

end FileIndex.Tokenizer

namespace FileIndex.QueryLanguage

open Tokenizer

variable {l : QueryLanguage} {validate : Key → Except QueryError Unit}

/-- The reader of queries as one who takes tokens. -/
def taker (l : QueryLanguage) (validate : Key → Except QueryError Unit) (state : Pending × List Key) (t : Token) :
    Except QueryError Unit × Pending × List Key :=
  match (l.step (m := Id) (fun k => ExceptT.mk (validate k)) state t).run with
  | .ok next => (.ok (), next)
  | .error e => (.error e, state)

theorem foldlM_step_eq (l : QueryLanguage) (validate : Key → Except QueryError Unit) (tokens : List Token)
    (state : Pending × List Key) :
    (tokens.foldlM (l.step (m := Id) fun k => ExceptT.mk (validate k)) state).run =
      (handAll (l.taker validate) state tokens).1.map fun _ => (handAll (l.taker validate) state tokens).2 := by
  induction tokens generalizing state with
  | nil => rfl
  | cons t tokens ih =>
    rw [List.foldlM_cons, handAll, taker]
    rcases hstep : l.step (m := Id) (fun k => ExceptT.mk (validate k)) state t with e | next
    · rfl
    · exact ih next

/-- **To read a query is to run through it.** -/
theorem parseWith_eq_run (l : QueryLanguage) (validate : Key → Except QueryError Unit) (query : String) :
    ∃ r, run (l.taker validate) ({}, []) query = .ok r ∧
      (l.parseWith (m := Id) (fun k => ExceptT.mk (validate k)) query).run = r.1.map fun _ => r.2.2 := by
  refine ⟨_, Stands.wordBoundary.runFrom_eq (l.taker validate) ({}, []) query.toList, ?_⟩
  have hfold := foldlM_step_eq l validate (Token.ofQuery query) ({}, [])
  rw [Token.ofQuery] at hfold
  rw [parseWith, Token.ofQuery]
  generalize handAll (l.taker validate) ({}, []) (Token.scan .between query.toList) = r at hfold ⊢
  rcases hread : (Token.scan .between query.toList).foldlM (l.step (m := Id) fun k => ExceptT.mk (validate k)) ({}, [])
    with e | next
  · rw [hread] at hfold
    obtain ⟨refused | _, _⟩ := r
    · obtain rfl : e = refused := Except.error.inj hfold
      rfl
    · cases hfold
  · rw [hread] at hfold
    obtain ⟨_ | _, more⟩ := r
    · cases hfold
    · obtain rfl : next = more := Except.ok.inj hfold
      rfl

end FileIndex.QueryLanguage
