/-
Searches that leave out directories. The engine does so by a key behind those of the user, which takes the directories
away from what the fold has left. What is united beforehand is added after the fold, so it brings directories back: such
a search finds what the plain search finds, less the directories that no key of this kind matches
(`CompiledQuery.keeps`).
-/
import FileIndex.Proofs.Arena.Snapshots
import FileIndex.Proofs.Filter.Fold
import FileIndex.Proofs.Index.Run

namespace FileIndex

open Arena

variable {α : Type} {now : Moment} {query : String} {q : CompiledQuery} {item : Item} {view : α → Item} {l : List α}
  {n : Nat} {c : Cancellation} {a : Arena} {id j : NodeId} {x : Index} {s : Snapshot} {e : Engine}

/-! ## The key that leaves out directories -/

/-- The key as it is compiled. -/
def CompiledKey.noDirectories : CompiledKey where
  conjunction := .not
  property := .isDirectory
  matcher := .compare .eq (.boolean true)
  exclude := true

/-- Whether a key that meets no values of different kinds matches an item. -/
def CompiledKey.passing (k : CompiledKey) (item : Item) : Bool := (k.test item).toOption.getD false

theorem CompiledKey.Fits.test_eq {k : CompiledKey} (h : k.Fits) (item : Item) : k.test item = .ok (k.passing item) := by
  rcases CompiledQuery.test_eq_ok h item with ht | ht <;> simp [passing, ht, Except.toOption]

namespace CompiledKey

theorem fits_noDirectories : noDirectories.Fits := by
  intro o reference h
  cases h
  rfl

theorem test_noDirectories (item : Item) : noDirectories.test item = .ok item.isDirectory := by
  unfold test noDirectories Matcher.holds Property.value?
  cases item.isDirectory <;> rfl

end CompiledKey

/-- Every engine reads its key alike. -/
theorem Engine.compileKey_noDirectories (e : Engine) (now : Moment) :
    e.filter.compileKey now noDirectories = .ok CompiledKey.noDirectories := by
  have hfind : Property.find? e.filter.properties noDirectories.property = some .isDirectory := by
    change Property.find? (Property.select Property.all) Property.isDirectory.name = _
    decide +kernel
  have hvalue : Value.parse now .boolean "true" = .ok (.boolean true) := by
    change (Value.parseBoolean "true").map _ = _
    cbv
  unfold Filter.compileKey
  rw [hfind]
  change ((Value.parse now .boolean "true").map _).map _ = _
  rw [hvalue]
  rfl

/-- Leaving out directories makes no query fail. -/
theorem Engine.compile_withoutDirectories (e : Engine) (now : Moment) (query : String) :
    e.compile now true query = (e.compile now false query).map (·.withTrailing CompiledKey.noDirectories) := by
  simp only [compile, compileKey_noDirectories]
  cases e.filter.compileQuery now query <;> rfl

namespace CompiledQuery

/-! ## One item -/

/-- Whether one of the keys matches that count whatever their place. -/
def unites (q : CompiledQuery) (item : Item) : Bool := q.placeless.any (·.passing item)

/-- Whether an item of the plain result is left when directories are left out. -/
def keeps (q : CompiledQuery) (item : Item) : Bool := item.isPinned || !item.isDirectory || q.unites item

theorem anyTest_eq {ks : List CompiledKey} (h : ∀ k ∈ ks, k.Fits) (item : Item) :
    anyTest item ks = .ok (ks.any (·.passing item)) := by
  induction ks with
  | nil => rfl
  | cons k ks ih =>
    rw [anyTest, (h k (by simp)).test_eq, ih fun m hm => h m (by simp [hm]), List.any_cons]
    cases k.passing item <;> rfl

theorem unites_eq_false_iff (h : ∀ k ∈ q.keys, k.Fits) :
    q.unites item = false ↔ ∀ k ∈ q.placeless, k.test item = .ok false := by
  rw [unites, List.any_eq_false]
  refine forall₂_congr fun k hk => ?_
  rw [(h k (List.mem_filter.1 hk).1).test_eq, Except.ok.injEq, Bool.not_eq_true]

/-- An item with no claim to be kept but that of its kind. -/
theorem keeps_eq_false_iff : q.keeps item = false ↔
    (item.isPinned = false ∧ item.isDirectory = true) ∧ q.unites item = false := by
  simp [keeps]

theorem fits_withTrailing (h : ∀ k ∈ q.keys, k.Fits) :
    ∀ k ∈ (q.withTrailing CompiledKey.noDirectories).keys, k.Fits := by
  intro k hk
  rcases List.mem_append.1 hk with hk | hk
  · exact h k hk
  · exact List.mem_singleton.1 hk ▸ CompiledKey.fits_noDirectories

/-- The last key of the fold takes a directory away, and a key of no place brings it back. -/
theorem accepting_withTrailing (h : ∀ k ∈ q.keys, k.Fits) (item : Item) :
    (q.withTrailing CompiledKey.noDirectories).accepting item =
      (q.accepting item && (!item.isDirectory || q.unites item)) := by
  have hany : anyTest item (q.keys.filter (·.conjunction == .preor)) = .ok (q.unites item) :=
    anyTest_eq (fun k hk => h k (List.mem_filter.1 hk).1) item
  have hplaceless : (q.withTrailing CompiledKey.noDirectories).keys.filter (·.conjunction == .preor) =
      q.keys.filter (·.conjunction == .preor) := by
    rw [withTrailing, List.filter_append]
    exact List.append_nil _
  have hfold : (q.withTrailing CompiledKey.noDirectories).keys.foldlM (foldKey item) true =
      q.keys.foldlM (foldKey item) true >>= fun b => foldKey item b CompiledKey.noDirectories := by
    rw [withTrailing, List.foldlM_append]
    simp only [List.foldlM_cons, List.foldlM_nil, bind_pure]
  unfold accepting accepts
  rw [hplaceless, hany, hfold]
  cases hb : q.keys.foldlM (foldKey item) true with
  | error fault => exact absurd hb (foldlM_ne_error h item true)
  | ok b =>
    rw [ok_bind, foldKey, CompiledKey.test_noDirectories]
    cases b <;> cases item.isDirectory <;> cases q.unites item <;> rfl

/-! ## All items -/

theorem filterFrom_withTrailing (h : ∀ k ∈ q.keys, k.Fits) (hl : ∀ a ∈ l, (view a).isPinned = false) :
    filterFrom (q.withTrailing CompiledKey.noDirectories) view c n l =
      (filterFrom q view c n l).map (Option.map (List.filter fun a => q.keeps (view a))) := by
  induction l generalizing n with
  | nil => rfl
  | cons a l ih =>
    have hkeeps : q.keeps (view a) = (!(view a).isDirectory || q.unites (view a)) := by
      rw [keeps, hl a (by simp), Bool.false_or]
    rw [filterFrom, filterFrom]
    split
    · rfl
    · rw [(total_of_fits (fits_withTrailing h)).accepts_eq, (total_of_fits h).accepts_eq,
        ih fun b hb => hl b (by simp [hb]), accepting_withTrailing h, ← hkeeps]
      rcases filterFrom q view c (n + 1) l with fault | (_ | found)
      · rfl
      · rfl
      · simp only [ok_map, Option.map_some]
        cases hq : q.accepting (view a) with
        | false => rfl
        | true =>
          simp only [Bool.true_and, if_true, List.filter_cons]

/-- **Evaluating with the key that leaves out directories** comes to what the query comes to without it, canceled or
not, less what is not kept. -/
theorem evaluate_withTrailing (h : ∀ k ∈ q.keys, k.Fits) (view : α → Item) (l : List α) (c : Cancellation) :
    (q.withTrailing CompiledKey.noDirectories).evaluate view l c =
      (q.evaluate view l c).map (Option.map (List.filter fun a => q.keeps (view a))) := by
  have hempty : (q.withTrailing CompiledKey.noDirectories).isEmpty = q.isEmpty := by
    simp [isEmpty, withTrailing, CompiledKey.noDirectories]
  have hpinned : (l.filter fun a => (view a).isPinned).filter (fun a => q.keeps (view a)) =
      l.filter fun a => (view a).isPinned :=
    List.filter_eq_self.2 fun a ha => by simp [keeps, (List.mem_filter.1 ha).2]
  unfold evaluate
  rw [hempty]
  dsimp only
  split
  · rw [ok_map, Option.map_some, hpinned]
  · rw [filterFrom_withTrailing h fun a ha => by simpa using (List.mem_filter.1 ha).2]
    rcases filterFrom q view c 0 (l.filter fun a => !(view a).isPinned) with fault | (_ | found)
    · rfl
    · rfl
    · simp only [ok_map, Option.map_some, List.filter_append, hpinned]

theorem mem_of_filterFrom {found : List α} (h : filterFrom q view c n l = .ok (some found)) : ∀ a ∈ found, a ∈ l := by
  induction l generalizing n found with
  | nil =>
    cases h
    nofun
  | cons b l ih =>
    rw [filterFrom] at h
    split at h
    · cases h
    · split at h
      · cases h
      · obtain ⟨rest, hrest, he⟩ := map_eq_ok.1 h
        obtain ⟨more, rfl, rfl⟩ := Option.map_eq_some_iff.1 he
        intro a ha
        split at ha
        · rcases List.mem_cons.1 ha with rfl | ha
          · exact List.mem_cons_self
          · exact List.mem_cons_of_mem b (ih hrest a ha)
        · exact List.mem_cons_of_mem b (ih hrest a ha)

theorem mem_of_evaluate {found : List α} (h : q.evaluate view l c = .ok (some found)) : ∀ a ∈ found, a ∈ l := by
  unfold evaluate at h
  dsimp only at h
  split at h
  · cases h
    exact fun a ha => (List.mem_filter.1 ha).1
  · obtain ⟨rest, hrest, he⟩ := map_eq_ok.1 h
    obtain ⟨more, rfl, rfl⟩ := Option.map_eq_some_iff.1 he
    intro a ha
    rcases List.mem_append.1 ha with ha | ha
    · exact (List.mem_filter.1 ha).1
    · exact (List.mem_filter.1 (mem_of_filterFrom hrest a ha)).1

end CompiledQuery

/-! ## Searches -/

namespace Index

/-- What a search goes over are nodes, each as it is. -/
theorem mem_searched {items : List (NodeId × Item)} (h : x.searched = .ok items) {i : NodeId × Item} (hi : i ∈ items) :
    ∃ m, x.arena.get? i.1 = some m ∧ i.2 = x.arena.item i.1 m := by
  obtain ⟨ids, -, h⟩ := bind_eq_ok.1 h
  obtain ⟨id, -, hid⟩ := mapM_ok_mem h i hi
  obtain ⟨m, hm, he⟩ := bind_eq_ok.1 hid
  cases he
  refine ⟨m, ?_, rfl⟩
  unfold Arena.get at hm
  split at hm <;> simp_all

/-- The result of a search. -/
theorem perform_search_fst (x : Index) (q : CompiledQuery) (c : Cancellation) :
    (x.perform (search q c)).1 = x.searched >>= fun items =>
      (q.evaluate (·.2) items c).map (Option.map fun found => (found.map (·.1)).filterMap fun id =>
        (x.arena.snapshot id).1) := by
  rw [search, multiSearch, perform_bind, perform_bind, perform_get]
  simp only [perform_bind, perform_lift]
  rcases x.searched with fault | items
  · rfl
  · simp only [ok_bind, evaluateAll]
    generalize q.evaluate (fun i : NodeId × Item => i.2) items c = r
    rcases r with fault | (_ | found)
    · rfl
    · rfl
    · simp only [ok_bind, ok_map, Option.map_some, snapshots_fst_eq]
      rfl

/-- The result of a search that leaves out directories, for keys that compare values of one kind each. -/
theorem perform_search_withTrailing (h : ∀ k ∈ q.keys, k.Fits) (x : Index) (c : Cancellation) :
    (x.perform (search (q.withTrailing CompiledKey.noDirectories) c)).1 =
      (x.perform (search q c)).1.map (Option.map (List.filter fun s => q.keeps s.item)) := by
  rw [perform_search_fst, perform_search_fst]
  cases hi : x.searched with
  | error fault => rfl
  | ok items =>
    rw [ok_bind, ok_bind, CompiledQuery.evaluate_withTrailing h]
    cases he : q.evaluate (fun i : NodeId × Item => i.2) items c with
    | error fault => rfl
    | ok found =>
      cases found with
      | none => rfl
      | some found =>
        simp only [ok_map, Option.map_some, List.filter_filterMap, List.filterMap_map, List.filterMap_filter]
        congr 2
        refine List.filterMap_congr fun i hmem => ?_
        obtain ⟨m, hm, hitem⟩ := mem_searched hi (CompiledQuery.mem_of_evaluate he i hmem)
        simp only [Function.comp_apply, hitem]
        cases hs : (x.arena.snapshot i.1).1 with
        | none => simp
        | some s =>
          rw [← item_of_snapshot hm hs]
          cases hk : q.keeps s.item <;> simp [Option.filter, hk]

end Index

namespace CompiledQuery

/-- Whether a search that is to leave out directories does: the plain search of a query and that of another come to the
same, but for the directories that are not pinned, and of these the other finds none. -/
structure OmitsDirectories (q r : CompiledQuery) (x : Index) (c : Cancellation) : Prop where
  none : ∀ found, (x.perform (Index.search r c)).1 = .ok (some found) →
    ∀ s ∈ found, s.isDirectory = true → s.flags.pinned = true
  rest : (x.perform (Index.search r c)).1 =
    (x.perform (Index.search q c)).1.map (Option.map (List.filter fun s => s.flags.pinned || !s.isDirectory))

end CompiledQuery

/-- **A search with directories left out.** A query that compiles does so with directories left out as well. On every
index, whatever it holds, the search then comes to what the plain search comes to, less the directories that are neither
pinned nor matched by a key that counts whatever its place. So it leaves out the directories that are not pinned if and
only if no key of this kind matches one that the plain search finds. -/
theorem Engine.omitsDirectories_iff (h : e.compile now false query = .ok q) :
    ∃ r, e.compile now true query = .ok r ∧ ∀ (x : Index) (c : Cancellation),
      (x.perform (Index.search r c)).1 =
        (x.perform (Index.search q c)).1.map (Option.map (List.filter fun s => q.keeps s.item)) ∧
      (q.OmitsDirectories r x c ↔ ∀ found, (x.perform (Index.search q c)).1 = .ok (some found) →
        ∀ s ∈ found, s.isDirectory = true → s.flags.pinned = false → ∀ k ∈ q.placeless, k.test s.item = .ok false) := by
  have hfits : ∀ k ∈ q.keys, k.Fits := by
    obtain ⟨q', hq, h⟩ := bind_eq_ok.1 h
    cases h
    exact Filter.fits_of_compileQuery hq
  refine ⟨q.withTrailing CompiledKey.noDirectories, by rw [e.compile_withoutDirectories, h, ok_map], fun x c => ?_⟩
  have hsearch := Index.perform_search_withTrailing hfits x c
  simp only [← CompiledQuery.unites_eq_false_iff hfits]
  refine ⟨hsearch, fun hom found hfound s hs hdir hpin => ?_, fun hall => ?_⟩
  · -- a directory that a key brings back is in the result
    by_contra hunites
    have hkept : q.keeps s.item = true := by
      rw [← Bool.not_eq_false, CompiledQuery.keeps_eq_false_iff]
      exact fun hk => hunites hk.2
    rw [hfound, ok_map, Option.map_some] at hsearch
    have := hom.none _ hsearch s (List.mem_filter.2 ⟨hs, hkept⟩) hdir
    rw [hpin] at this
    cases this
  · have hrest : (x.perform (Index.search (q.withTrailing CompiledKey.noDirectories) c)).1 =
        (x.perform (Index.search q c)).1.map
          (Option.map (List.filter fun s => s.flags.pinned || !s.isDirectory)) := by
      rw [hsearch]
      rcases hplain : (x.perform (Index.search q c)).1 with fault | (_ | found)
      · rfl
      · rfl
      · simp only [ok_map, Option.map_some]
        congr 2
        refine List.filter_congr fun s hs => ?_
        change (s.flags.pinned || !s.isDirectory || q.unites s.item) = _
        cases hpin : s.flags.pinned with
        | true => rfl
        | false =>
          cases hdir : s.isDirectory with
          | false => rfl
          | true => exact hall found hplain s hs hdir hpin
    refine ⟨fun found hfound s hs hdir => ?_, hrest⟩
    rw [hrest] at hfound
    obtain ⟨plain, -, he⟩ := map_eq_ok.1 hfound
    obtain ⟨plain, rfl, rfl⟩ := Option.map_eq_some_iff.1 he
    simpa [hdir] using (List.mem_filter.1 hs).2

/-- What has an `f`, joined with what has an `s`. -/
def joinedQuery (conjunction : Conjunction) : CompiledQuery :=
  ⟨[{ conjunction := .and, property := .text, matcher := .fuzzy "F", exclude := false },
    { conjunction, property := .text, matcher := .fuzzy "S", exclude := false }]⟩

theorem compile_or :
    (Engine.ofSettings {} {}).compile ⟨0, 0, false⟩ false "f /or s" = .ok (joinedQuery .or) := by
  cbv

theorem compile_preor :
    (Engine.ofSettings {} {}).compile ⟨0, 0, false⟩ false "f /preor s" = .ok (joinedQuery .preor) := by
  cbv

/-- A query without keys of this kind leaves out directories on every index. -/
theorem Engine.omitsDirectories_iff_or :
    (Engine.ofSettings {} {}).compile ⟨0, 0, false⟩ false "f /or s" = .ok (joinedQuery .or) ∧
      ∃ r, (Engine.ofSettings {} {}).compile ⟨0, 0, false⟩ true "f /or s" = .ok r ∧
        ∀ x c, (joinedQuery .or).OmitsDirectories r x c := by
  obtain ⟨r, hr, hall⟩ := omitsDirectories_iff compile_or
  refine ⟨compile_or, r, hr, fun x c => (hall x c).2.2 fun _ _ _ _ _ _ k hk => ?_⟩
  have hnone : (joinedQuery .or).placeless = [] := rfl
  rw [hnone] at hk
  cases hk

/-- **Not every search that is to leave out directories does so**: a directory that is brought in whatever the place of
its key comes back behind the fold. -/
theorem Engine.not_forall_omitsDirectories : ¬∀ (e : Engine) (now : Moment) (query : String) (q r : CompiledQuery)
    (s : Settings) (run : List (Disk × Operation)) (c : Cancellation), e.compile now false query = .ok q →
      e.compile now true query = .ok r → q.OmitsDirectories r ((Index.ofSettings s).behind run) c := by
  intro h
  have hx : (Index.ofSettings {}).behind [(Index.sharedDisk, .collect Index.sharedAreas {})] = Index.sharedIndex :=
    Index.after_collect_shared
  have hom := h _ _ _ _ ((joinedQuery .preor).withTrailing CompiledKey.noDirectories) {}
    [(Index.sharedDisk, .collect Index.sharedAreas {})] {} compile_preor
    (by rw [compile_withoutDirectories, compile_preor, ok_map])
  rw [hx] at hom
  have hfound : (Index.sharedIndex.perform
      (Index.search ((joinedQuery .preor).withTrailing CompiledKey.noDirectories) {})).1.map
        (Option.map (List.map fun s => (s.name, s.isDirectory, s.flags.pinned))) =
      .ok (some [("f", false, false), ("s", true, false)]) := by
    cbv
  obtain ⟨result, hresult, he⟩ := map_eq_ok.1 hfound
  obtain ⟨found, rfl, hlist⟩ := Option.map_eq_some_iff.1 he
  obtain ⟨s, hs, hshow⟩ := List.mem_map.1 (hlist ▸ List.mem_cons_of_mem _ List.mem_cons_self)
  have hdir : s.isDirectory = true := congrArg (·.2.1) hshow
  have hpin : s.flags.pinned = false := congrArg (·.2.2) hshow
  have hpinned := hom.none found hresult s hs hdir
  rw [hpin] at hpinned
  cases hpinned

end FileIndex
