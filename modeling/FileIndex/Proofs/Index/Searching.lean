/-
Marks of additions. A completed search takes them away and changes nothing else (`Settled`): all links, kinds
and paths stay, and snapshots are the same up to the mark.

What a search does to a sound index: it works out paths and, once it is completed, takes away the marks of
additions (`Undisturbed`). Its result is made of the snapshots of the entries.
-/
import FileIndex.Proofs.Arena.KnownPaths
import FileIndex.Proofs.Filter.Evaluate
import FileIndex.Proofs.Index.Entries

namespace FileIndex

/-- A node without the mark of an addition. -/
def Node.settle (n : Node) : Node := { n with flags := { n.flags with added := false } }

/-- A snapshot without the mark of an addition. -/
def Snapshot.settle (s : Snapshot) : Snapshot := { s with flags := { s.flags with added := false } }

@[simp] theorem Snapshot.id_settle (s : Snapshot) : s.settle.id = s.id := rfl

@[simp] theorem Snapshot.item_settle (s : Snapshot) : s.settle.item = s.item := rfl

namespace Arena

variable {a b c : Arena} {id : NodeId}

/-- Two arenas that differ at most in marks of additions. -/
structure Settled (a b : Arena) : Prop where
  size : b.slots.size = a.slots.size
  free : b.free = a.free
  node : ∀ id, (b.get? id).map Node.settle = (a.get? id).map Node.settle

namespace Settled

@[refl] theorem refl (a : Arena) : Settled a a := ⟨rfl, rfl, fun _ => rfl⟩

theorem trans (h : Settled a b) (k : Settled b c) : Settled a c :=
  ⟨k.size.trans h.size, k.free.trans h.free, fun i => (k.node i).trans (h.node i)⟩

/-- What does not look at the mark is the same in both. -/
theorem map_get? {β : Type} (h : Settled a b) (f : Node → β) (hf : ∀ n, f n.settle = f n) (id : NodeId) :
    (b.get? id).map f = (a.get? id).map f := by
  have key : ∀ o : Option Node, o.map f = (o.map Node.settle).map f := fun o => by
    rw [Option.map_map]
    congr 1
    exact funext fun n => (hf n).symm
  rw [key, h.node, ← key]

theorem sameLinks (h : Settled a b) : SameLinks a b where
  size := h.size
  free := h.free
  contains i := by
    have := congrArg Option.isSome (h.node i)
    simpa [Arena.contains] using this
  parent? i := by
    have key : ∀ c : Arena, c.parent? i = ((c.get? i).map (·.parent)).join := fun c => by
      rw [Arena.parent?]
      cases c.get? i <;> rfl
    rw [key, key, h.map_get? (·.parent) fun _ => rfl]
  children i := by
    rw [Arena.children, h.map_get? (·.children) (fun _ => rfl)]
    rfl

theorem stage? (h : Settled a b) (id : NodeId) : b.stage? id = a.stage? id :=
  h.map_get? (fun n => (n.parent, n.anchor, n.name)) (fun _ => rfl) id

theorem workedPath? (h : Settled a b) (ha : a.WellFormed) (id : NodeId) :
    b.workedPath? id = a.workedPath? id := by
  have hl := h.sameLinks
  by_cases hid : a.contains id = true
  · exact workedPath?_congr ha (hl.wellFormed ha) hid fun i _ => h.stage? i
  · rw [workedPath?_of_get?_eq_none (get?_eq_none.2 hid),
      workedPath?_of_get?_eq_none (get?_eq_none.2 (by rwa [hl.contains]))]

theorem pathsKnown (h : Settled a b) (ha : a.WellFormed) (hk : a.PathsKnown) : b.PathsKnown := by
  intro id m p hm hp
  have hn := h.map_get? (·.knownPath) (fun _ => rfl) id
  rw [hm, Option.map_some, hp] at hn
  obtain ⟨n, hn, hnp⟩ := Option.map_eq_some_iff.1 hn.symm
  rw [h.workedPath? ha]
  exact hk id n p hn hnp

theorem view? (h : Settled a b) (ha : a.WellFormed) (id : NodeId) :
    (b.view? id).map Snapshot.settle = (a.view? id).map Snapshot.settle := by
  have key : ∀ c : Arena, (c.view? id).map Snapshot.settle =
      ((c.get? id).map Node.settle).bind fun n => (c.workedPath? id).map (Snapshot.ofNode id n) := by
    intro c
    rw [Arena.view?]
    cases c.get? id with
    | none => rfl
    | some n => cases c.workedPath? id <;> rfl
  rw [key, key, h.node, h.workedPath? ha]

theorem modifyAll (ids : List NodeId) (a : Arena) :
    Settled a (a.modifyAll ids Node.settle) := by
  refine ⟨size_modifyAll ids a _, free_modifyAll ids a _, fun i => ?_⟩
  rw [get?_modifyAll (f := Node.settle) (fun _ => rfl)]
  split
  · rw [Option.map_map]
    rfl
  · rfl

end Settled

end Arena

namespace Index

open Arena

variable {x y : Index} {a b : Arena} {ids : List NodeId} {queries : List CompiledQuery} {q : CompiledQuery}
  {c : Cancellation} {items : List (NodeId × Item)} {fault : Fault}

/-! ## What is searched -/

theorem item_eq {s : Snapshot} {id : NodeId} {n : Node} (hk : a.PathsKnown) (hn : a.get? id = some n)
    (hs : a.view? id = some s) : a.item id n = s.item := by
  rw [view?, hn, Option.bind_some, Option.map_eq_some_iff] at hs
  obtain ⟨p, hp, rfl⟩ := hs
  simp only [Arena.item, hk.path?_fst, hp, Option.getD_some]
  rfl

/-- A search sees the entries as their snapshots show them. -/
theorem mapM_items_eq (h : a.WellFormed) (hk : a.PathsKnown) (hids : ∀ i ∈ ids, a.contains i = true) :
    (ids.mapM fun id => do return (id, a.item id (← a.get id)) : Except Fault _) =
      .ok ((a.views ids).map fun s => (s.id, s.item)) := by
  induction ids with
  | nil => rfl
  | cons i ids ih =>
    obtain ⟨n, hn⟩ := contains_iff.1 (hids i (by simp))
    obtain ⟨s, hs⟩ := Option.isSome_iff_exists.1 (h.view?_isSome (hids i (by simp)))
    rw [List.mapM_cons, ih fun j hj => hids j (by simp [hj]), views_cons hs]
    simp only [get_of_get? hn, ok_bind, pure_eq_ok, List.map_cons, item_eq hk hn hs, view?_id hs]

theorem Sound.searched_eq (h : x.Sound) :
    x.searched = .ok ((x.arena.views x.entryIds).map fun s => (s.id, s.item)) := by
  unfold searched
  rw [h.entries_eq, ok_bind]
  exact mapM_items_eq h.wellFormed h.paths fun i hi => (h.mem_entryIds.1 hi).live

/-! ## What a search leaves -/

/-- What a search leaves as it was: all but known paths and marks of additions. -/
structure Undisturbed (x y : Index) : Prop where
  sound : y.Sound
  trees : y.trees = x.trees
  size : y.size = x.size
  counter : y.counter = x.counter
  feed : y.feed = x.feed
  links : SameLinks x.arena y.arena
  searchable : ∀ j, y.arena.Searchable j ↔ x.arena.Searchable j
  views : ∀ j, (y.arena.view? j).map Snapshot.settle = (x.arena.view? j).map Snapshot.settle
  stages : ∀ j, y.arena.stage? j = x.arena.stage? j

theorem Undisturbed.refl (h : x.Sound) : Undisturbed x x :=
  ⟨h, rfl, rfl, rfl, rfl, .refl _, fun _ => .rfl, fun _ => rfl, fun _ => rfl⟩

/-- Whatever the queries are, evaluating them only works out paths. -/
theorem evaluateAll_spec (h : a.WellFormed) (hk : a.PathsKnown) (items : List (NodeId × Item))
    (c : Cancellation) (queries : List CompiledQuery) :
    (∃ fault, evaluateAll items c a queries = .error fault ∧ fault.ofKinds = true) ∨
      evaluateAll items c a queries = .ok none ∨
      ∃ results b, evaluateAll items c a queries = .ok (some (results, b)) ∧ Alike a b ∧ b.PathsKnown := by
  induction queries generalizing a with
  | nil => exact .inr (.inr ⟨[], a, rfl, .refl a, hk⟩)
  | cons q queries ih =>
    rw [evaluateAll]
    cases he : q.evaluate (·.2) items c with
    | error fault => exact .inl ⟨fault, rfl, CompiledQuery.ofKinds_of_evaluate he⟩
    | ok found =>
      cases found with
      | none => exact .inr (.inl rfl)
      | some found =>
        have hal := alike_snapshots a (found.map (·.1))
        have hk' := (hk.snapshots h (found.map (·.1))).2
        simp only [ok_bind]
        rcases ih (hal.sameLinks.wellFormed h) hk' with ⟨fault, hf, hkind⟩ | hnone | ⟨rs, b, hsome, hb, hkb⟩
        · exact .inl ⟨fault, by rw [hf]; rfl, hkind⟩
        · exact .inr (.inl (by rw [hnone]; rfl))
        · exact .inr (.inr ⟨_, b, by rw [hsome]; rfl, hal.trans hb, hkb⟩)

theorem settled_clearAdded (x : Index) : Settled x.arena x.clearAdded.arena := by
  unfold clearAdded
  generalize x.topTrees.filterMap (·.root) = roots
  generalize x.arena = a
  induction roots generalizing a with
  | nil => exact .refl a
  | cons r roots ih => exact (Settled.modifyAll (a.subtree r) a).trans (ih _)

theorem undisturbed_clearAdded (h : x.Sound) : Undisturbed x x.clearAdded := by
  have hs := settled_clearAdded x
  refine ⟨⟨h.forest.sameLinks hs.sameLinks, h.apart, hs.pathsKnown h.wellFormed h.paths⟩, rfl, rfl, rfl,
    rfl, hs.sameLinks, fun j => searchable_congr hs.sameLinks fun top _ => ?_, hs.view? h.wellFormed, hs.stage?⟩
  have := hs.map_get? (·.isDirectory) (fun _ => rfl) top
  simp only [isDirectory]
  cases hx : x.arena.get? top <;> cases hy : x.clearAdded.arena.get? top <;> simp_all

/-- Working out paths, and then taking away the marks of additions. -/
theorem Undisturbed.of_alike (h : x.Sound) (hal : Alike x.arena b) (hk : b.PathsKnown) :
    Undisturbed x (clearAdded { x with arena := b }) := by
  have hb : ({ x with arena := b } : Index).Sound := h.of_alike hal hk rfl
  have hu := undisturbed_clearAdded hb
  exact ⟨hu.sound, rfl, rfl, rfl, rfl, hal.sameLinks.trans hu.links,
    fun j => (hu.searchable j).trans (hal.searchable j), fun j => by
      rw [hu.views]
      exact congrArg _ (hal.view? h.wellFormed j), fun j => (hu.stages j).trans (stage?_of_core (hal.core j))⟩

/-- **A search leaves an index as it was**, also one that is canceled or runs into a fault. -/
theorem perform_multiSearch (h : x.Sound) (queries : List CompiledQuery) (c : Cancellation) :
    Undisturbed x (x.perform (multiSearch queries c)).2 ∧
      ∀ fault, (x.perform (multiSearch queries c)).1 = .error fault → fault.ofKinds = true := by
  simp only [multiSearch, perform_bind, perform_get, perform_lift, h.searched_eq]
  rcases evaluateAll_spec h.wellFormed h.paths _ c queries with
    ⟨fault, hf, hkind⟩ | hnone | ⟨results, b, hsome, hal, hk⟩
  · rw [hf]
    exact ⟨.refl h, fun _ he => by cases he; exact hkind⟩
  · rw [hnone]
    exact ⟨.refl h, nofun⟩
  · rw [hsome]
    exact ⟨.of_alike h hal hk, nofun⟩

theorem perform_search (h : x.Sound) (q : CompiledQuery) (c : Cancellation) :
    Undisturbed x (x.perform (search q c)).2 ∧
      ∀ fault, (x.perform (search q c)).1 = .error fault → fault.ofKinds = true := by
  obtain ⟨hu, hkind⟩ := perform_multiSearch h [q] c
  rw [search, perform_bind]
  generalize x.perform (multiSearch [q] c) = r at hu hkind
  obtain ⟨fault | _, _⟩ := r
  · exact ⟨hu, fun _ he => by cases he; exact hkind fault rfl⟩
  · exact ⟨hu, nofun⟩

/-- A search whose result is kept current leaves one more subscriber, if it comes to a result. -/
theorem perform_subscribedSearch (h : x.Sound) (q : CompiledQuery) (c : Cancellation) :
    (∃ y, Undisturbed x y ∧ ((x.perform (subscribedSearch q c)).2 = y ∨
      (x.perform (subscribedSearch q c)).2 = { y with feed := y.feed.subscribe.2 })) ∧
      ∀ fault, (x.perform (subscribedSearch q c)).1 = .error fault → fault.ofKinds = true := by
  obtain ⟨hu, hkind⟩ := perform_search h q c
  rw [subscribedSearch, perform_bind]
  generalize x.perform (search q c) = r at hu hkind
  obtain ⟨fault | _ | found, y⟩ := r
  · exact ⟨⟨y, hu, .inl rfl⟩, fun _ he => by cases he; exact hkind fault rfl⟩
  · exact ⟨⟨y, hu, .inl rfl⟩, nofun⟩
  · exact ⟨⟨y, hu, .inr rfl⟩, nofun⟩

end Index

end FileIndex
