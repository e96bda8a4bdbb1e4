/-
Live results along a run of their index: edits, other searches and looks at the results in any order. What is claimed
of them is that they are, once they have followed what is pending, what a fresh search would find
(`LiveView.Current`). That holds exactly as long as every edit shows the query all it has to know (`Effect.Shows`).
-/
import FileIndex.Proofs.Engine.Showing
import FileIndex.Proofs.Filter.Compile
import FileIndex.Proofs.Index.Count
import FileIndex.Proofs.Index.Feed

namespace FileIndex

open Arena

/-- An index and live results of it, with the number under which they hear of changes. -/
structure LiveView where
  index : Index
  results : LiveResults
  subscriber : Nat

/-- What can happen to an index with live results. -/
inductive LiveStep where
  | edit (d : Disk) (e : Edit)
  | search (queries : List CompiledQuery) (c : Cancellation)
  /-- The results follow what is pending. -/
  | look

namespace LiveView

/-- The live results of a query. -/
def open? (x : Index) (q : CompiledQuery) : Option LiveView :=
  match x.perform (Index.subscribedSearch q {}) with
  | (.ok (some (entries, subscriber)), index) => some { index, results := { query := q, entries }, subscriber }
  | _ => none

/-- The changes that the results have not followed yet. -/
def pending (v : LiveView) : List IndexChange := ((v.index.feed.read v.subscriber).1).getD []

/-- What a step leaves. -/
def after (v : LiveView) : LiveStep → LiveView
  | .edit d e => { v with index := v.index.after d (.edit e) }
  | .search queries c => { v with index := v.index.after {} (.search queries c) }
  | .look =>
    { v with
      results := (v.results.followAll v.pending).toOption.getD v.results
      index := { v.index with feed := (v.index.feed.read v.subscriber).2 } }

/-- Whether the results, once they have followed what is pending, are those of a fresh search: the same nodes, each
once, with the same entries except for the marks of additions. -/
def Current (v : LiveView) : Prop :=
  ∃ r found y, v.results.followAll v.pending = .ok r ∧ r.isStale = false ∧
    v.index.perform (Index.search v.results.query {}) = (.ok (some found), y) ∧
    (r.entries.map Snapshot.id).Nodup ∧ (r.entries.map Snapshot.settle).Perm (found.map Snapshot.settle)

/-- Whether a step keeps the roots of the index. -/
def KeepsRoots (v : LiveView) : LiveStep → Prop
  | .edit d e => Index.KeepsRoots v.index d (.edit e)
  | _ => True

/-- Whether a step spares the roots of the index and shows the query all it has to know. -/
def Shows (v : LiveView) : LiveStep → Prop
  | .edit d e => Index.SparesRoots v.index d (.edit e) ∧
    (e.effect v.index d).Shows v.results.query v.index.arena (v.index.after d (.edit e)).arena
  | _ => True

variable {v : LiveView} {x y : Index} {q : CompiledQuery} {i : LiveStep} {entries : List Snapshot} {d : Disk}
  {o : Operation}

/-! ## Opening -/

/-- Live results that follow an index. -/
structure Follows (q : CompiledQuery) (v : LiveView) : Prop where
  sound : v.index.Sound
  query : v.results.query = q
  fresh : v.results.isStale = false
  matching : ∃ pending entries, (v.index.feed.read v.subscriber).1 = some pending ∧
    v.results.followAll pending = .ok { v.results with entries } ∧ v.index.arena.Matches q entries

theorem exists_open (h : x.Sound) (hf : x.feed.Numbered) (hq : q.Total) :
    ∃ v, open? x q = some v ∧ Follows q v := by
  obtain ⟨found, y, hrun, hm, hu⟩ := Index.perform_search_total h hq
  have hsub : x.perform (Index.subscribedSearch q {}) =
      (.ok (some (found, y.feed.subscribe.1)), { y with feed := y.feed.subscribe.2 }) := by
    rw [Index.subscribedSearch, Index.perform_bind_ok hrun]
    rfl
  have hopen : open? x q = some ⟨{ y with feed := y.feed.subscribe.2 }, { query := q, entries := found },
      y.feed.subscribe.1⟩ := by
    rw [open?, hsub]
  refine ⟨_, hopen, hu.sound.congr rfl rfl, rfl, rfl, [], found, ?_, rfl, hu.matches hm⟩
  exact Feed.read_subscribe (hu.feed ▸ hf)

theorem numbered_after (h : x.Sound) (hs : Index.SparesRoots x d o) (hf : x.feed.Numbered) :
    (x.after d o).feed.Numbered := by
  unfold Index.after
  cases o with
  | collect areas c =>
    obtain ⟨r, y, hy, -, -, changes, hfeed⟩ := Index.perform_collect h hs
    simp only [Operation.work, Index.perform_discard, hy, hfeed]
    exact hf.publishAll changes
  | edit e =>
    obtain ⟨changes, hfeed⟩ := (Index.ends_edit h d e).realizes.feed
    simp only [Operation.work, hfeed]
    exact hf.publishAll changes
  | search queries c =>
    simp only [Operation.work, Index.perform_discard, (Index.perform_multiSearch h queries c).1.feed]
    exact hf
  | live q c =>
    obtain ⟨y, hu, hy⟩ := (Index.perform_subscribedSearch h q c).1
    simp only [Operation.work, Index.perform_discard]
    rw [← hu.feed] at hf
    rcases hy with hy | hy
    · rw [hy]
      exact hf
    · rw [hy]
      exact hf.subscribe
  | watch on =>
    obtain ⟨y, hy, -, -, -, -, hfeed⟩ := Index.perform_setWatching h d on
    simp only [Operation.work, hy, hfeed]
    exact hf

/-! ## Following -/

/-- Results that follow what is pending are current exactly if they match. -/
theorem current_iff (h : v.index.Sound) (hq : v.results.query.Total) (hs : v.results.isStale = false)
    (hf : v.results.followAll v.pending = .ok { v.results with entries }) :
    v.Current ↔ v.index.arena.Matches v.results.query entries := by
  obtain ⟨found, y, hrun, hm, -⟩ := Index.perform_search_total h hq
  constructor
  · rintro ⟨r, found', y', hr, -, hrun', -, hp⟩
    obtain rfl : { v.results with entries } = r := by
      rw [hf] at hr
      exact Except.ok.inj hr
    obtain rfl : found = found' := by
      rw [hrun] at hrun'
      simp only [Prod.mk.injEq, Except.ok.injEq, Option.some.injEq] at hrun'
      exact hrun'.1
    exact hm.of_perm hp
  · exact fun he => ⟨_, found, y, hf, hs, hrun, he.nodup, he.perm hm⟩

theorem Follows.current (h : Follows q v) (hq : q.Total) : v.Current := by
  obtain ⟨hsound, rfl, hs, pending, entries, hread, hf, hm⟩ := h
  rw [← Option.getD_some (a := pending) (b := []), ← hread] at hf
  exact (current_iff hsound hq hs hf).2 hm

/-- A step that spares the roots leaves the results current exactly if it shows all that the query has to know, and
then they follow it. -/
theorem Follows.after (h : Follows q v) (hq : q.Total) :
    (v.KeepsRoots i ∧ (v.after i).Current ↔ v.Shows i) ∧ (v.Shows i → Follows q (v.after i)) := by
  have hfollows := h
  obtain ⟨hsound, rfl, hs, pending, entries, hread, hf, hm⟩ := h
  cases i with
  | edit d e =>
    have hkeeps : v.KeepsRoots (.edit d e) ↔ Index.SparesRoots v.index d (.edit e) := hsound.keeps_iff_spares
    obtain ⟨changes, more, hfeed, hmore, hiff⟩ :=
      (Index.ends_edit hsound d e).realizes.follow (l := { v.results with entries }) hsound hq hm
    have hread' : ((v.index.after d (.edit e)).feed.read v.subscriber).1 = some (pending ++ changes) := by
      have : (v.index.after d (.edit e)).feed = changes.foldl Feed.publish v.index.feed := hfeed
      rw [this]
      exact Feed.read_publishAll hread changes
    have hall : v.results.followAll (pending ++ changes) = .ok { v.results with entries := more } := by
      rw [LiveResults.followAll_append hf, hmore]
    have hcurrent : Index.SparesRoots v.index d (.edit e) → ((v.after (.edit d e)).Current ↔
        (v.index.after d (.edit e)).arena.Matches v.results.query more) := fun hspares => by
      refine current_iff (v := v.after (.edit d e)) (hsound.after hspares).1 hq hs ?_
      change v.results.followAll (((v.index.after d (.edit e)).feed.read v.subscriber).1.getD []) = _
      rw [hread']
      exact hall
    refine ⟨?_, fun ⟨hspares, hshows⟩ =>
      ⟨(hsound.after hspares).1, rfl, hs, _, more, hread', hall, hiff.2 hshows⟩⟩
    rw [hkeeps]
    exact and_congr_right fun hspares => (hcurrent hspares).trans hiff
  | search queries c =>
    obtain ⟨hu, -⟩ := Index.perform_multiSearch hsound queries c
    have hafter : v.index.after {} (.search queries c) =
        (v.index.perform (Index.multiSearch queries c)).2 := by
      rw [Index.after, Operation.work, Index.perform_discard]
    have hnew : Follows v.results.query (v.after (.search queries c)) := by
      simp only [LiveView.after, hafter]
      exact ⟨hu.sound, rfl, hs, pending, entries, by rw [hu.feed]; exact hread, hf, hu.matches hm⟩
    exact ⟨iff_of_true ⟨trivial, hnew.current hq⟩ trivial, fun _ => hnew⟩
  | look =>
    have hnew : Follows v.results.query (v.after .look) := by
      have hresults : (v.results.followAll v.pending).toOption.getD v.results = { v.results with entries } := by
        rw [LiveView.pending, hread, Option.getD_some, hf]
        rfl
      simp only [LiveView.after, hresults]
      exact ⟨hsound.congr rfl rfl, rfl, hs, [], entries, Feed.read_read hread, rfl, hm⟩
    exact ⟨iff_of_true ⟨trivial, hnew.current hq⟩ trivial, fun _ => hnew⟩

/-- **Live results stay current exactly as long as every edit shows the query all it has to know**, whatever the run
before them and whatever the query. -/
theorem staysCurrent_iff (s : Settings) (before : List (Disk × Operation)) (e : Engine) (now : Moment)
    (withoutDirectories : Bool) (query : String) (hq : e.compile now withoutDirectories query = .ok q)
    (steps : List LiveStep) :
    (Index.Throughout Index.KeepsRoots (.ofSettings s) before ∧
      ∃ v, open? (Index.behind (.ofSettings s) before) q = some v ∧ v.Current ∧
        Along after (fun v i => v.KeepsRoots i ∧ (v.after i).Current) v steps) ↔
    (Index.Throughout Index.SparesRoots (.ofSettings s) before ∧
      ∃ v, open? (Index.behind (.ofSettings s) before) q = some v ∧ Along after Shows v steps) := by
  have htotal := Engine.total_of_compile hq
  have hroots : Index.Throughout Index.KeepsRoots (.ofSettings s) before ↔
      Index.Throughout Index.SparesRoots (.ofSettings s) before :=
    along_iff (I := Index.Sound) (Index.sound_ofSettings s) (fun _ _ hx => hx.keeps_iff_spares)
      fun _ _ hx hs => (hx.after hs).1
  rw [hroots]
  refine and_congr_right fun hspares => ?_
  obtain ⟨hsound, hfeed⟩ : (Index.behind (.ofSettings s) before).Sound ∧
      (Index.behind (.ofSettings s) before).feed.Numbered :=
    Along.invariant (I := fun x : Index => x.Sound ∧ x.feed.Numbered) hspares
      ⟨Index.sound_ofSettings s, nofun⟩
      fun _ _ hx hs => ⟨(hx.1.after hs).1, numbered_after hx.1 hs hx.2⟩
  obtain ⟨v, hv, hfollows⟩ := exists_open hsound hfeed htotal
  simp only [hv, Option.some.injEq, exists_eq_left']
  rw [and_iff_right (hfollows.current htotal)]
  exact along_iff hfollows (fun _ _ h => (h.after htotal).1) fun _ _ h => (h.after htotal).2

/-- A collect of a directory with two files. -/
def filledRun : List (Disk × Operation) := [(Index.rootDisk Index.filled, .collect [⟨⟨"a"⟩, true⟩] {})]

/-- The query `a`. -/
def letterQuery : CompiledQuery :=
  ⟨[{ conjunction := .and, property := .text, matcher := .fuzzy "A", exclude := false }]⟩

theorem compile_letter : (Engine.ofSettings {} {}).compile ⟨0, 0, false⟩ false "a" = .ok letterQuery := by
  cbv

/-- The equivalence at work: a file is pinned, and the results are looked at. -/
theorem staysCurrent_iff_letter :
    (Engine.ofSettings {} {}).compile ⟨0, 0, false⟩ false "a" = .ok letterQuery ∧
    ((Index.Throughout Index.KeepsRoots (.ofSettings {}) filledRun ∧
      ∃ v, open? (Index.behind (.ofSettings {}) filledRun) letterQuery = some v ∧ v.Current ∧
        Along after (fun v i => v.KeepsRoots i ∧ (v.after i).Current) v
          [.edit (Index.rootDisk Index.filled) (.pin ⟨"a/x"⟩ true), .look]) ↔
    (Index.Throughout Index.SparesRoots (.ofSettings {}) filledRun ∧
      ∃ v, open? (Index.behind (.ofSettings {}) filledRun) letterQuery = some v ∧
        Along after Shows v [.edit (Index.rootDisk Index.filled) (.pin ⟨"a/x"⟩ true), .look])) :=
  ⟨compile_letter, staysCurrent_iff {} _ (Engine.ofSettings {} {}) ⟨0, 0, false⟩ false "a" compile_letter _⟩

/-! ## Results that go wrong -/

/-- The live results of the query on the directory: nothing, for the directory itself is no entry. -/
def letterView : LiveView where
  index := { Index.filledIndex with feed := { subscribers := [{ number := 0 }], next := 1 } }
  results := { query := letterQuery, entries := [] }
  subscriber := 0

theorem open?_letter : open? (Index.behind (.ofSettings {}) filledRun) letterQuery = some letterView := by
  have hbehind : Index.behind (.ofSettings {}) filledRun = Index.filledIndex := Index.after_collect_filled
  rw [hbehind]
  cbv

/-- The directory is read again. -/
def refreshedView : LiveView := letterView.after (.edit (Index.rootDisk Index.filled) (.refresh none ⟨"a"⟩))

/-- **Not all live results stay current**: the directory at the root of an area is given to them when it is read
again, though no search goes over it. -/
theorem not_forall_staysCurrent : ¬∀ s before (e : Engine) now withoutDirectories query q,
    e.compile now withoutDirectories query = .ok q →
      ∀ v steps, open? (Index.behind (.ofSettings s) before) q = some v →
        Along after (fun v i => (v.after i).Current) v steps := by
  intro h
  have hrun := h {} filledRun _ _ _ _ _ compile_letter letterView
    [.edit (Index.rootDisk Index.filled) (.refresh none ⟨"a"⟩)] open?_letter
  obtain ⟨r, found, y, hr, -, hfound, -, hperm⟩ : refreshedView.Current := hrun.1
  have hfollow : (refreshedView.results.followAll refreshedView.pending).map (·.entries.length) = .ok 1 := by
    cbv
  have hsearch : (refreshedView.index.perform (Index.search refreshedView.results.query {})).1 =
      .ok (some []) := by
    cbv
  rw [hr, ok_map, Except.ok.injEq] at hfollow
  rw [hfound, Except.ok.injEq, Option.some.injEq] at hsearch
  rw [hsearch] at hperm
  have := hperm.length_eq
  rw [List.length_map, hfollow] at this
  cases this

end LiveView

end FileIndex
