/-
Sound indexes: the trees and the arena are a forest, no two areas have the same path, and every known path
is right (`Index.Sound`). Soundness is what the operations rely on; a claim about all runs rests on it.
-/
import FileIndex.Proofs.Arena.KnownPaths
import FileIndex.Proofs.Index.Forest

namespace FileIndex

open Arena

namespace Arena

variable {a b : Arena} {id : NodeId} {ids : List NodeId}

/-! ## The snapshots of live nodes -/

theorem WellFormed.view?_isSome (h : a.WellFormed) (hid : a.contains id = true) :
    (a.view? id).isSome := by
  obtain ⟨n, hn⟩ := contains_iff.1 hid
  obtain ⟨q, hq⟩ := Option.isSome_iff_exists.1 (h.workedPath?_isSome hid)
  simp [view?, hn, hq]

/-- The snapshots of some nodes, with their paths worked out. -/
def views (a : Arena) (ids : List NodeId) : List Snapshot := ids.filterMap a.view?

theorem views_cons {s : Snapshot} (h : a.view? id = some s) : a.views (id :: ids) = s :: a.views ids :=
  List.filterMap_cons_some h

theorem WellFormed.map_id_views (h : a.WellFormed) (hids : ∀ i ∈ ids, a.contains i = true) :
    (a.views ids).map Snapshot.id = ids := by
  induction ids with
  | nil => rfl
  | cons i ids ih =>
    obtain ⟨s, hs⟩ := Option.isSome_iff_exists.1 (h.view?_isSome (hids i (by simp)))
    rw [views_cons hs, List.map_cons, view?_id hs]
    exact congrArg _ (ih fun k hk => hids k (by simp [hk]))

theorem WellFormed.length_views (h : a.WellFormed) (hids : ∀ i ∈ ids, a.contains i = true) :
    (a.views ids).length = ids.length := by
  rw [← List.length_map Snapshot.id, h.map_id_views hids]

theorem Alike.views (h : Alike a b) (ha : a.WellFormed) (ids : List NodeId) :
    b.views ids = a.views ids := by
  rw [Arena.views, Arena.views, funext (h.view? ha)]

theorem WellFormed.contains_of_mem_subtree (h : a.WellFormed) (hid : a.contains id = true) :
    ∀ i ∈ a.subtree id, a.contains i = true := fun _ hi => (h.below_of_mem_subtree hi).contains hid

end Arena

namespace Index

variable {x y : Index} {t t' : Tree} {i : Nat} {root : Option Path} {p : Path}

/-- Areas with paths of their own. -/
def Apart (areas : List Area) : Prop := (areas.map (·.path.components)).Nodup

theorem same_iff {p q : Path} : p.same q = true ↔ p.components = q.components := by
  simp [Path.same]

/-- An index whose trees are in order. -/
structure Sound (x : Index) : Prop where
  forest : Forest x.arena x.trees
  apart : Apart (x.trees.map (·.area))
  paths : x.arena.PathsKnown

theorem Sound.wellFormed (h : x.Sound) : x.arena.WellFormed := h.forest.wellFormed

theorem Sound.contains_root (h : x.Sound) (ht : t ∈ x.trees) :
    ∀ r, t.root = some r → x.arena.contains r = true := fun _ hr => h.forest.live_root ht hr

/-- A sound index stays sound when it only looks at paths. -/
theorem Sound.of_alike (h : x.Sound) (hal : Alike x.arena y.arena) (hk : y.arena.PathsKnown)
    (ht : y.trees = x.trees) : y.Sound where
  forest := by
    rw [ht]
    exact h.forest.sameLinks hal.sameLinks
  apart := by
    rw [ht]
    exact h.apart
  paths := hk

theorem Sound.congr (h : x.Sound) (ha : y.arena = x.arena) (ht : y.trees = x.trees) : y.Sound := by
  refine ⟨?_, ?_, ?_⟩
  · rw [ha, ht]
    exact h.forest
  · rw [ht]
    exact h.apart
  · rw [ha]
    exact h.paths

/-! ## Owners -/

theorem longer_mem (l : List (Nat × Tree)) (best : Option (Nat × Tree)) {r : Nat × Tree}
    (h : l.foldl longer best = some r) : r ∈ l ∨ best = some r := by
  induction l generalizing best with
  | nil => exact .inr h
  | cons n l ih =>
    rcases ih _ h with hm | hb
    · exact .inl (List.mem_cons_of_mem _ hm)
    · unfold longer at hb
      split at hb
      · exact .inl (by simp_all)
      · split at hb
        · exact .inr hb
        · exact .inl (by simp_all)

/-- The owner of a path is one of the trees, under its number. -/
theorem get_of_owner? (h : x.owner? root p = some (i, t)) : x.trees[i]? = some t := by
  have hmem : (i, t) ∈ (List.range x.trees.length).zip x.trees := by
    unfold owner? at h
    split at h
    · exact List.mem_of_find?_eq_some h
    · rcases longer_mem _ _ h with hm | hb
      · exact (List.mem_filter.1 hm).1
      · cases hb
  obtain ⟨k, hk, he⟩ := List.mem_iff_getElem.1 hmem
  simp only [List.getElem_zip, List.getElem_range, Prod.mk.injEq] at he
  obtain ⟨rfl, rfl⟩ := he
  exact List.getElem?_eq_getElem _

theorem mem_of_owner? (h : x.owner? root p = some (i, t)) : t ∈ x.trees :=
  List.mem_of_getElem? (get_of_owner? h)

/-! ## Changing one tree -/

theorem set_eq_append {ts : List Tree} (hi : ts[i]? = some t) (t' : Tree) :
    ∃ before after, ts = before ++ t :: after ∧ ts.set i t' = before ++ t' :: after := by
  obtain ⟨hlt, rfl⟩ := List.getElem?_eq_some_iff.1 hi
  exact ⟨ts.take i, ts.drop (i + 1), by simp, List.set_eq_take_append_cons_drop.trans (if_pos hlt)⟩

theorem map_area_set {ts : List Tree} (hi : ts[i]? = some t) (ha : t'.area = t.area) :
    (ts.set i t').map (·.area) = ts.map (·.area) := by
  obtain ⟨before, after, hts, hset⟩ := set_eq_append hi t'
  rw [hset, hts]
  simp [ha]

end Index

end FileIndex
