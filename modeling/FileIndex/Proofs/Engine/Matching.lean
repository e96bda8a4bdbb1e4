/-
When a list of snapshots is what a search would find (`Arena.Matches`): it holds the entries that the query admits,
each once, as they are, except for the marks of additions. All such lists are the same up to their order.
-/
import FileIndex.Proofs.Tree.Views
import FileIndex.Proofs.Engine.Following
import FileIndex.Proofs.Index.Searching

namespace FileIndex

open Arena

variable {a b : Arena} {q : CompiledQuery} {l m entries : List Snapshot} {j : NodeId} {s : Snapshot}
  {named given : List NodeId} {x y : Index}

namespace Arena

/-- Whether a query admits a node, as the snapshot shows it. -/
def Admits (a : Arena) (q : CompiledQuery) (id : NodeId) : Prop :=
  ∃ s, a.view? id = some s ∧ q.admitting s.item = true

/-- Whether a search finds a node. -/
def Finds (a : Arena) (q : CompiledQuery) (id : NodeId) : Prop := a.Searchable id ∧ a.Admits q id

/-- Whether some snapshots are those that a search would find, up to order and marks. -/
structure Matches (a : Arena) (q : CompiledQuery) (l : List Snapshot) : Prop where
  nodup : (l.map Snapshot.id).Nodup
  mem_iff : ∀ j, j ∈ l.map Snapshot.id ↔ a.Finds q j
  view : ∀ s ∈ l, (a.view? s.id).map Snapshot.settle = some s.settle

theorem admits_congr (h : (b.view? j).map Snapshot.settle = (a.view? j).map Snapshot.settle) :
    b.Admits q j ↔ a.Admits q j := by
  have key : ∀ c : Arena, c.Admits q j ↔
      ∃ s, (c.view? j).map Snapshot.settle = some s ∧ q.admitting s.item = true := by
    intro c
    constructor
    · rintro ⟨s, hs, hq⟩
      exact ⟨s.settle, by rw [hs]; rfl, hq⟩
    · rintro ⟨u, hu, hq⟩
      obtain ⟨s, hs, rfl⟩ := Option.map_eq_some_iff.1 hu
      exact ⟨s, hs, hq⟩
  rw [key, key, h]

theorem finds_congr (hs : b.Searchable j ↔ a.Searchable j)
    (h : (b.view? j).map Snapshot.settle = (a.view? j).map Snapshot.settle) : b.Finds q j ↔ a.Finds q j :=
  and_congr hs (admits_congr h)

namespace Matches

theorem map_settle (h : a.Matches q l) :
    l.map Snapshot.settle = (l.map Snapshot.id).filterMap fun j => (a.view? j).map Snapshot.settle := by
  rw [List.filterMap_map, ← List.filterMap_eq_map]
  exact List.filterMap_congr fun s hs => (h.view s hs).symm

/-- All matching lists are the same up to order and marks. -/
theorem perm (h : a.Matches q l) (k : a.Matches q m) : (l.map Snapshot.settle).Perm (m.map Snapshot.settle) := by
  rw [h.map_settle, k.map_settle]
  refine List.Perm.filterMap _ ((List.perm_ext_iff_of_nodup h.nodup k.nodup).2 fun j => ?_)
  rw [h.mem_iff, k.mem_iff]

/-- What is the same as a matching list, up to order and marks, matches. -/
theorem of_perm (h : a.Matches q m) (hp : (l.map Snapshot.settle).Perm (m.map Snapshot.settle)) :
    a.Matches q l := by
  have hids : (l.map Snapshot.id).Perm (m.map Snapshot.id) := by
    have := hp.map Snapshot.id
    rwa [List.map_map, List.map_map] at this
  refine ⟨hids.nodup_iff.2 h.nodup, fun j => hids.mem_iff.trans (h.mem_iff j), fun s hs => ?_⟩
  obtain ⟨u, hu, he⟩ := List.mem_map.1 (hp.mem_iff.1 (List.mem_map_of_mem hs))
  rw [← he, ← h.view u hu, ← Snapshot.id_settle s, ← he, Snapshot.id_settle]

theorem congr (h : a.Matches q l) (hs : ∀ j, b.Searchable j ↔ a.Searchable j)
    (hv : ∀ j, (b.view? j).map Snapshot.settle = (a.view? j).map Snapshot.settle) : b.Matches q l :=
  ⟨h.nodup, fun j => (h.mem_iff j).trans (finds_congr (hs j) (hv j)).symm, fun s hs => by
    rw [hv, h.view s hs]⟩

end Matches

/-- Of the snapshots of some nodes those that a query admits. -/
theorem mem_filter_views : s ∈ (b.views given).filter (fun s => q.admitting s.item) ↔
    s.id ∈ given ∧ b.view? s.id = some s ∧ q.admitting s.item = true := by
  rw [List.mem_filter, views, List.mem_filterMap]
  constructor
  · rintro ⟨⟨j, hj, hs⟩, hq⟩
    obtain rfl := view?_id hs
    exact ⟨hj, hs, hq⟩
  · rintro ⟨hj, hs, hq⟩
    exact ⟨⟨s.id, hj, hs⟩, hq⟩

theorem mem_map_id_filter_views : j ∈ ((b.views given).filter fun s => q.admitting s.item).map Snapshot.id ↔
    j ∈ given ∧ b.Admits q j := by
  simp only [List.mem_map, mem_filter_views]
  constructor
  · rintro ⟨s, ⟨hj, hs, hq⟩, rfl⟩
    exact ⟨hj, s, hs, hq⟩
  · rintro ⟨hj, s, hs, hq⟩
    obtain rfl := view?_id hs
    exact ⟨s, ⟨hj, hs, hq⟩, rfl⟩

/-- **What a change makes of a matching list matches again exactly if the change names all nodes that come, go or
change for the query.** The named nodes go, those of them that are given and admitted come back. -/
theorem Matches.iff_of_change (h : a.Matches q l) (hb : b.WellFormed)
    (he : entries.Perm (l.filter (·.id ∉ named) ++ (b.views given).filter fun s => q.admitting s.item))
    (hn : given.Nodup) (hlive : ∀ j ∈ given, b.contains j = true)
    (hnew : ∀ j ∈ given, j ∈ named ∨ ¬a.contains j = true)
    (hview : ∀ j, j ∉ named → a.contains j = true → b.contains j = true →
      (b.view? j).map Snapshot.settle = (a.view? j).map Snapshot.settle) :
    b.Matches q entries ↔ ∀ j, b.Finds q j ↔ a.Finds q j ∧ j ∉ named ∨ j ∈ given ∧ b.Admits q j := by
  have hids : (entries.map Snapshot.id).Perm ((l.filter (·.id ∉ named)).map Snapshot.id ++
      ((b.views given).filter fun s => q.admitting s.item).map Snapshot.id) := by
    rw [← List.map_append]
    exact he.map _
  have hkept : ∀ j, j ∈ (l.filter (·.id ∉ named)).map Snapshot.id ↔ a.Finds q j ∧ j ∉ named := by
    intro j
    rw [← h.mem_iff, List.mem_map, List.mem_map]
    constructor
    · rintro ⟨s, hs, rfl⟩
      rw [List.mem_filter, decide_eq_true_eq] at hs
      exact ⟨⟨s, hs.1, rfl⟩, hs.2⟩
    · rintro ⟨⟨s, hs, rfl⟩, hj⟩
      exact ⟨s, List.mem_filter.2 ⟨hs, decide_eq_true hj⟩, rfl⟩
  have hmem : ∀ j, j ∈ entries.map Snapshot.id ↔
      a.Finds q j ∧ j ∉ named ∨ j ∈ given ∧ b.Admits q j := by
    intro j
    rw [hids.mem_iff, List.mem_append, hkept, mem_map_id_filter_views]
  constructor
  · exact fun hm j => (hm.mem_iff j).symm.trans (hmem j)
  · intro hall
    have hiff : ∀ j, j ∈ entries.map Snapshot.id ↔ b.Finds q j := fun j => (hmem j).trans (hall j).symm
    refine ⟨hids.nodup_iff.2 (List.nodup_append'.2 ⟨?_, ?_, ?_⟩), hiff, fun s hs => ?_⟩
    · exact h.nodup.sublist (List.filter_sublist.map _)
    · refine List.Nodup.sublist (List.filter_sublist.map _) ?_
      rwa [hb.map_id_views hlive]
    · intro j hj hk
      obtain ⟨hf, hnamed⟩ := (hkept j).1 hj
      exact (hnew j (mem_map_id_filter_views.1 hk).1).elim hnamed fun hnot => hnot hf.1.live
    · rcases List.mem_append.1 (he.mem_iff.1 hs) with hk | hk
      · rw [List.mem_filter, decide_eq_true_eq] at hk
        have hfound := (hiff s.id).1 (List.mem_map_of_mem hs)
        rw [hview s.id hk.2 ((h.mem_iff s.id).1 (List.mem_map_of_mem hk.1)).1.live hfound.1.live, h.view s hk.1]
      · rw [(mem_filter_views.1 hk).2.1]
        rfl

end Arena

/-! ## What a search finds -/

namespace Index

theorem Undisturbed.matches (h : Undisturbed x y) (hm : x.arena.Matches q l) : y.arena.Matches q l :=
  hm.congr h.searchable h.views

theorem Sound.matches_views (h : x.Sound) {ids : List NodeId} (hn : ids.Nodup)
    (hm : ∀ j, j ∈ ids ↔ x.arena.Finds q j) : x.arena.Matches q (x.arena.views ids) := by
  have hids := h.wellFormed.map_id_views fun j hj => ((hm j).1 hj).1.live
  refine ⟨by rwa [hids], fun j => by rw [hids, hm], fun s hs => ?_⟩
  obtain ⟨j, -, hj⟩ := List.mem_filterMap.1 hs
  rw [view?_id hj, hj]
  rfl

/-- The numbers of the nodes that a query finds. -/
theorem Sound.mem_result (h : x.Sound) : j ∈ (q.result (·.2)
    ((x.arena.views x.entryIds).map fun s => (s.id, s.item))).map Prod.fst ↔ x.arena.Finds q j := by
  simp only [CompiledQuery.result, List.mem_map, List.mem_append, List.mem_filter, views, List.mem_filterMap,
    h.mem_entryIds, Finds, Admits]
  constructor
  · rintro ⟨_, (⟨⟨s, ⟨i, hi, hs⟩, rfl⟩, hq⟩ | ⟨⟨s, ⟨i, hi, hs⟩, rfl⟩, hq⟩), rfl⟩
    all_goals
      obtain rfl := view?_id hs
      refine ⟨hi, s, hs, ?_⟩
    · rw [CompiledQuery.admitting, hq, Bool.true_or]
    · exact (Bool.and_eq_true _ _ ▸ hq).2
  · rintro ⟨hj, s, hs, hq⟩
    obtain rfl := view?_id hs
    refine ⟨(s.id, s.item), ?_, rfl⟩
    cases hp : s.item.isPinned with
    | true => exact .inl ⟨⟨s, ⟨s.id, hj, hs⟩, rfl⟩, rfl⟩
    | false => exact .inr ⟨⟨s, ⟨s.id, hj, hs⟩, rfl⟩, by simp [hq]⟩

theorem Sound.nodup_result (h : x.Sound) : ((q.result (·.2)
    ((x.arena.views x.entryIds).map fun s => (s.id, s.item))).map Prod.fst).Nodup := by
  have hids := h.wellFormed.map_id_views fun j hj => (h.mem_entryIds.1 hj).live
  have hfst : ((x.arena.views x.entryIds).map fun s => (s.id, s.item)).map Prod.fst = x.entryIds := by
    rw [List.map_map]
    exact hids
  have hnd := h.nodup_entryIds
  rw [← hfst] at hnd
  rw [CompiledQuery.result, List.map_append]
  refine List.nodup_append'.2 ⟨hnd.sublist (List.filter_sublist.map _), hnd.sublist (List.filter_sublist.map _), ?_⟩
  intro j hj hk
  obtain ⟨u, hu, rfl⟩ := List.mem_map.1 hj
  obtain ⟨v, hv, he⟩ := List.mem_map.1 hk
  rw [List.mem_filter] at hu hv
  obtain rfl : u = v := List.inj_on_of_nodup_map hnd hu.1 hv.1 he.symm
  rw [hu.2] at hv
  simp at hv

/-- **A search that is not canceled finds all entries that its query admits**, each once. -/
theorem perform_search_total (h : x.Sound) (hq : q.Total) : ∃ found y,
    x.perform (search q {}) = (.ok (some found), y) ∧ x.arena.Matches q found ∧ Undisturbed x y := by
  set items := (x.arena.views x.entryIds).map fun s => (s.id, s.item) with hitems
  have heval : evaluateAll items {} x.arena [q] = .ok (some
      ([(x.arena.snapshots ((q.result (·.2) items).map Prod.fst)).1],
        (x.arena.snapshots ((q.result (·.2) items).map Prod.fst)).2)) := by
    rw [evaluateAll, hq.evaluate_eq]
    rfl
  have hrun : x.perform (search q {}) = (.ok (some (x.arena.snapshots ((q.result (·.2) items).map Prod.fst)).1),
      clearAdded { x with arena := (x.arena.snapshots ((q.result (·.2) items).map Prod.fst)).2 }) := by
    simp only [search, multiSearch, perform_bind, perform_get, perform_lift, h.searched_eq, ← hitems, heval]
    rfl
  obtain ⟨hviews, hk⟩ := h.paths.snapshots h.wellFormed ((q.result (·.2) items).map Prod.fst)
  refine ⟨_, _, hrun, ?_, .of_alike h (alike_snapshots _ _) hk⟩
  rw [hviews]
  exact h.matches_views h.nodup_result fun j => h.mem_result

end Index

end FileIndex
