/-
What is wrong with a query is found when it is read. Each key is tried as it is read, so that the keys of a query
compile (`Filter.compile_of_parse`), and what compiles comes to an end with every item, whatever keys of the program's
own are put in front of it or behind it (`Filter.compileQuery_early`).
-/
import FileIndex.Proofs.Filter.Compile
import FileIndex.Proofs.Text.Occurrence

namespace FileIndex

variable {f g : Filter} {now : Moment} {query : String} {keys : List Key} {k : Key} {q r : CompiledQuery}

/-! ## Reading -/

namespace QueryLanguage

variable {l : QueryLanguage} {validate : Key → Except QueryError Unit} {state next : Pending × List Key} {t : Token}
  {ts : List Token}

/-- Whether all keys that have been read so far passed validation. -/
def Validated (validate : Key → Except QueryError Unit) (state : Pending × List Key) : Prop :=
  ∀ k ∈ state.2, validate k = .ok ()

theorem Validated.step (h : Validated validate state)
    (hr : (l.step (m := Id) (fun k => ExceptT.mk (validate k)) state t).run = .ok next) : Validated validate next := by
  have haccept : ∀ {k : Key}, (do
      ExceptT.mk (m := Id) (validate k)
      return (({}, state.2 ++ [k]) : Pending × List Key)).run = .ok next → Validated validate next := fun {k} hk => by
    cases hv : validate k with
    | error e =>
      rw [hv] at hk
      cases hk
    | ok _ =>
      rw [hv] at hk
      obtain rfl : ({}, state.2 ++ [k]) = next := Except.ok.inj hk
      intro j hj
      rcases List.mem_append.1 hj with hj | hj
      · exact h j hj
      · rw [List.mem_singleton.1 hj, hv]
  cases t with
  | phrase text => exact haccept hr
  | word text =>
    rw [QueryLanguage.step] at hr
    split at hr
    · exact haccept hr
    · split at hr
      · cases hr
      · obtain rfl := Except.ok.inj hr
        exact h

theorem Validated.foldlM (h : Validated validate state)
    (hr : (ts.foldlM (l.step (m := Id) fun k => ExceptT.mk (validate k)) state).run = .ok next) :
    Validated validate next := by
  induction ts generalizing state with
  | nil =>
    obtain rfl : state = next := Except.ok.inj hr
    exact h
  | cons t ts ih =>
    rw [List.foldlM_cons] at hr
    rcases hs : l.step (m := Id) (fun k => ExceptT.mk (validate k)) state t with e | s
    · rw [hs] at hr
      cases hr
    · rw [hs] at hr
      exact ih (h.step (by rw [hs]; rfl)) hr

/-- Every key that is read passed validation. -/
theorem validated_of_parseWith
    (h : (l.parseWith (m := Id) (fun k => ExceptT.mk (validate k)) query).run = .ok keys) :
    ∀ k ∈ keys, validate k = .ok () := by
  rw [parseWith] at h
  rcases hs : (Token.ofQuery query).foldlM (l.step (m := Id) fun k => ExceptT.mk (validate k)) ({}, []) with e | s
  · rw [hs] at h
    cases h
  · rw [hs] at h
    obtain rfl : s.2 = keys := Except.ok.inj h
    have hstart : Validated validate ({}, []) := nofun
    exact hstart.foldlM (by rw [hs]; rfl)

end QueryLanguage

theorem mapM_ok_of_mem {ε α β : Type} {f : α → Except ε β} {l : List α} (h : ∀ x ∈ l, ∃ y, f x = .ok y) :
    ∃ r, l.mapM f = .ok r := by
  induction l with
  | nil => exact ⟨[], rfl⟩
  | cons x l ih =>
    obtain ⟨y, hy⟩ := h x List.mem_cons_self
    obtain ⟨r, hr⟩ := ih fun z hz => h z (List.mem_cons_of_mem x hz)
    exact ⟨y :: r, by rw [List.mapM_cons, hy, ok_bind, hr]; rfl⟩

namespace Filter

/-- The keys of a query compile at the time when it is read. -/
theorem compile_of_parse (h : f.parse now query = .ok keys) : ∃ q, f.compile now keys = .ok q := by
  have htried : ∀ k ∈ keys, ∃ c, f.compileKey now k = .ok c := fun k hk => by
    obtain ⟨c, hc, -⟩ := map_eq_ok.1 (QueryLanguage.validated_of_parseWith h k hk)
    exact ⟨c, hc⟩
  obtain ⟨compiled, hcompiled⟩ := mapM_ok_of_mem htried
  exact ⟨⟨compiled⟩, by rw [compile, hcompiled, ok_map]⟩

/-- A query is refused just where it cannot be read, and for that reason. -/
theorem compileQuery_eq_error_iff {e : QueryError} :
    f.compileQuery now query = .error e ↔ f.parse now query = .error e := by
  rw [compileQuery]
  cases h : f.parse now query with
  | error _ => simp only [Except.bind, Except.error.injEq]
  | ok keys =>
    obtain ⟨q, hq⟩ := compile_of_parse h
    simp [hq]

end Filter

/-! ## Holding against items -/

namespace CompiledQuery

/-- The queries that come of a query by keys that some filter compiled, put in front or behind. -/
inductive Extension (q : CompiledQuery) : CompiledQuery → Prop
  | refl : Extension q q
  | leading {f : Filter} {now : Moment} {k : Key} {c : CompiledKey} {r : CompiledQuery} (hr : Extension q r)
    (hc : f.compileKey now k = .ok c) : Extension q (r.withLeading c)
  | trailing {f : Filter} {now : Moment} {k : Key} {c : CompiledKey} {r : CompiledQuery} (hr : Extension q r)
    (hc : f.compileKey now k = .ok c) : Extension q (r.withTrailing c)

theorem Extension.fits (h : Extension q r) (hq : ∀ c ∈ q.keys, c.Fits) : ∀ c ∈ r.keys, c.Fits := by
  induction h with
  | refl => exact hq
  | leading hr hc ih =>
    intro d hd
    rcases List.mem_cons.1 hd with rfl | hd
    · exact Filter.fits_of_compileKey hc
    · exact ih d hd
  | trailing hr hc ih =>
    intro d hd
    rcases List.mem_append.1 hd with hd | hd
    · exact ih d hd
    · rw [List.mem_singleton.1 hd]
      exact Filter.fits_of_compileKey hc

variable {α : Type} {view : α → Item}

theorem Total.filterFrom_eq_ok (h : q.Total) (view : α → Item) (c : Cancellation) (n : Nat) (items : List α) :
    ∃ found, filterFrom q view c n items = .ok found := by
  induction items generalizing n with
  | nil => exact ⟨_, rfl⟩
  | cons a items ih =>
    obtain ⟨found, hfound⟩ := ih (n + 1)
    rw [filterFrom, h.accepts_eq, hfound]
    split <;> exact ⟨_, rfl⟩

/-- A total query ends with every list of items, canceled or not. -/
theorem Total.evaluate_eq_ok (h : q.Total) (view : α → Item) (items : List α) (c : Cancellation) :
    ∃ found, q.evaluate view items c = .ok found := by
  unfold evaluate
  dsimp only
  split
  · exact ⟨_, rfl⟩
  · obtain ⟨found, hfound⟩ := h.filterFrom_eq_ok view c 0 (items.filter fun a => !(view a).isPinned)
    exact ⟨_, by rw [hfound, ok_map]⟩

end CompiledQuery

namespace Filter

/-- **What is wrong with a query is found when it is read**: the keys that are read compile, a query is refused just
where it cannot be read and for that reason, and what comes of a query that is not refused, with whatever keys that
were compiled put in front of it or behind it, ends with every item. A word is looked for without a cut inside a
character. -/
theorem compileQuery_early (f : Filter) (now : Moment) (query : String) :
    (∀ keys, f.parse now query = .ok keys → ∃ q, f.compile now keys = .ok q ∧ f.compileQuery now query = .ok q) ∧
      (∀ e, f.compileQuery now query = .error e ↔ f.parse now query = .error e) ∧
      (∀ q r, f.compileQuery now query = .ok q → CompiledQuery.Extension q r →
        (∀ item, ∃ b, r.accepts item = .ok b) ∧ (∀ item, ∃ b, r.admits item = .ok b) ∧
          ∀ (α : Type) (view : α → Item) (items : List α) (c : Cancellation),
            ∃ found, r.evaluate view items c = .ok found) ∧
      ∀ needle hay s, needle ≠ "" → OccursAt needle hay s →
        (Boundary.at? hay s).isSome ∧ (Boundary.at? hay (s + needle.utf8ByteSize)).isSome := by
  refine ⟨fun keys hkeys => ?_, fun e => compileQuery_eq_error_iff, fun q r hq hr => ?_, fun needle hay s hn hs => ?_⟩
  · obtain ⟨q, hq⟩ := compile_of_parse hkeys
    exact ⟨q, hq, by rw [compileQuery, hkeys, ok_bind', hq]⟩
  · have htotal := CompiledQuery.total_of_fits (hr.fits (fits_of_compileQuery hq))
    exact ⟨fun item => ⟨_, htotal.accepts_eq item⟩, fun item => ⟨_, htotal.admits_eq item⟩,
      fun α view items c => htotal.evaluate_eq_ok view items c⟩
  · obtain ⟨a, b, hhay, rfl⟩ := (occursAt_iff hn).1 hs
    obtain ⟨hstart, hend⟩ := Boundary.at?_ends hn hhay
    exact ⟨hstart ▸ rfl, hend ▸ rfl⟩

/-- A query for large items that changed later than some day, with a key behind it that leaves out directories. -/
theorem compileQuery_early_large :
    let f := ofProperties [.size, .isDirectory] '/'
    let now := Moment.ofSeconds 0
    let query := "/p.size /m.ge 10 /p.date /m.gt 1970-01-01"
    let large : CompiledKey := ⟨.and, .size, .compare .ge (.integer 10), false⟩
    let files : CompiledKey := ⟨.not, .isDirectory, .compare .eq (.boolean true), true⟩
    ∃ recent, (f.compileQuery now query = .ok ⟨[large, recent]⟩ ∧ f.compileKey now Engine.noDirectories = .ok files ∧
      OccursAt "é" "dé" 1) ∧ (∀ item, ∃ b, (⟨[large, recent, files]⟩ : CompiledQuery).accepts item = .ok b) ∧
      (Boundary.at? "dé" 1).isSome ∧ Boundary.at? "dé" 2 = none := by
  intro f now query large files
  have hearly := compileQuery_early f now query
  have hquery : f.compileQuery now query =
      .ok ⟨[large, ⟨.and, .date, .compare .gt (.moment (.ofSeconds 0) true), false⟩]⟩ := by decide +kernel
  have hfiles : f.compileKey now Engine.noDirectories = .ok files := by decide +kernel
  have hoccurs : OccursAt "é" "dé" 1 := by
    unfold OccursAt
    decide +kernel
  obtain ⟨haccepts, -, -⟩ := hearly.2.2.1 _ _ hquery (.trailing .refl hfiles)
  exact ⟨_, ⟨hquery, hfiles, hoccurs⟩, haccepts, (hearly.2.2.2 _ _ 1 (by decide) hoccurs).1, by decide +kernel⟩

end Filter

end FileIndex
