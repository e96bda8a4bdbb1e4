/-
What live results become when they follow a change. The changed nodes go, whatever the result knew of them, and those
that the query admits come back as the change gives them.
-/
import FileIndex.Engine.Live
import FileIndex.Proofs.Filter.Evaluate

namespace FileIndex

/-- The snapshots that a change gives of nodes that are there behind it. -/
def IndexChange.given : IndexChange → List Snapshot
  | .add nodes | .update nodes | .rename nodes _ => nodes
  | .remove _ | .reset => []

namespace LiveResults

variable {l m : LiveResults} {s : Snapshot} {nodes : List Snapshot} {c : IndexChange}
  {changes more : List IndexChange}

theorem place_perm (s : Snapshot) (entries : List Snapshot) : (place s entries).Perm (entries ++ [s]) := by
  unfold place
  split
  · have : (entries.takeWhile (·.flags.pinned) ++ s :: entries.dropWhile (·.flags.pinned)).Perm
        (s :: (entries.takeWhile (·.flags.pinned) ++ entries.dropWhile (·.flags.pinned))) := List.perm_middle
    rw [List.takeWhile_append_dropWhile] at this
    exact this.trans (List.perm_append_singleton s entries).symm
  · rfl

theorem offer_eq (h : l.query.Total) (s : Snapshot) : l.offer s =
    .ok (if l.query.admitting s.item then { l with entries := place s l.entries } else l) := by
  rw [offer, h.admits_eq, ok_bind]
  split <;> rfl

/-- What is offered comes in if the query admits it. -/
theorem offerAll_spec (h : l.query.Total) (nodes : List Snapshot) :
    ∃ entries, l.offerAll nodes = .ok { l with entries } ∧
      entries.Perm (l.entries ++ nodes.filter fun s => l.query.admitting s.item) := by
  induction nodes generalizing l with
  | nil => exact ⟨l.entries, rfl, by simp⟩
  | cons s nodes ih =>
    rw [offerAll, offer_eq h, ok_bind, List.filter_cons]
    split
    · obtain ⟨entries, he, hp⟩ := ih (l := { l with entries := place s l.entries }) h
      refine ⟨entries, he, hp.trans ?_⟩
      rw [← List.singleton_append, ← List.append_assoc]
      exact (place_perm s l.entries).append_right _
    · exact ih h

/-- Among nodes of which the result knows none, each once, nothing is passed over. -/
theorem offerNew_eq (h : l.query.Total) (hn : (nodes.map Snapshot.id).Nodup)
    (hnew : ∀ s ∈ nodes, s.id ∉ l.entries.map Snapshot.id) : l.offerNew nodes = l.offerAll nodes := by
  induction nodes generalizing l with
  | nil => rfl
  | cons s nodes ih =>
    have hs : l.contains s.id = false := by
      have := hnew s (by simp)
      simpa [contains] using this
    rw [List.map_cons, List.nodup_cons] at hn
    rw [offerNew, offerAll, hs, if_neg Bool.false_ne_true, offer_eq h, ok_bind, ok_bind]
    split
    · refine ih h hn.2 fun u hu => ?_
      rw [((place_perm s l.entries).map Snapshot.id).mem_iff, List.map_append, List.mem_append, not_or]
      refine ⟨hnew u (by simp [hu]), ?_⟩
      rw [List.map_singleton, List.mem_singleton]
      intro he
      exact hn.1 (he ▸ List.mem_map_of_mem hu)
    · exact ih h hn.2 fun u hu => hnew u (by simp [hu])

theorem without_entries (l : LiveResults) (nodes : List Snapshot) :
    (l.without nodes).entries = l.entries.filter (·.id ∉ nodes.map Snapshot.id) := by
  refine List.filter_congr fun s _ => ?_
  rw [Bool.eq_iff_iff]
  simp

/-- **What following one change makes of the entries.** An addition brings nodes of which the result knows none. -/
theorem follow_spec (h : l.query.Total) (hr : c ≠ .reset) (ha : ∀ nodes, c = .add nodes →
    (nodes.map Snapshot.id).Nodup ∧ ∀ s ∈ nodes, s.id ∉ l.entries.map Snapshot.id) :
    ∃ entries, l.follow c = .ok { l with entries } ∧
      entries.Perm (l.entries.filter (·.id ∉ c.nodes.map Snapshot.id) ++
        c.given.filter fun s => l.query.admitting s.item) := by
  cases c with
  | reset => exact absurd rfl hr
  | remove nodes =>
    refine ⟨(l.without nodes).entries, rfl, ?_⟩
    rw [without_entries]
    simp [IndexChange.given, IndexChange.nodes]
  | add nodes =>
    obtain ⟨hn, hnew⟩ := ha nodes rfl
    obtain ⟨entries, he, hp⟩ := offerAll_spec h nodes
    refine ⟨entries, by rw [follow, offerNew_eq h hn hnew, he], hp.trans ?_⟩
    have hkeep : l.entries.filter (·.id ∉ nodes.map Snapshot.id) = l.entries := by
      refine List.filter_eq_self.2 fun u hu => ?_
      rw [decide_eq_true_eq]
      intro hm
      obtain ⟨s, hs, he⟩ := List.mem_map.1 hm
      exact hnew s hs (he ▸ List.mem_map_of_mem hu)
    rw [IndexChange.nodes, hkeep]
    rfl
  | rename nodes old =>
    obtain ⟨entries, he, hp⟩ := offerAll_spec (l := l.without nodes) h nodes
    rw [without_entries] at hp
    exact ⟨entries, he, hp⟩
  | update nodes =>
    obtain ⟨entries, he, hp⟩ := offerAll_spec (l := l.without nodes) h nodes
    rw [without_entries] at hp
    exact ⟨entries, he, hp⟩

theorem followAll_append (h : l.followAll changes = .ok m) : l.followAll (changes ++ more) = m.followAll more := by
  induction changes generalizing l with
  | nil =>
    cases h
    rfl
  | cons c changes ih =>
    obtain ⟨k, hk, hrest⟩ := bind_eq_ok.1 h
    rw [List.cons_append, followAll, hk, ok_bind, ih hrest]

theorem followAll_singleton (l : LiveResults) (c : IndexChange) : l.followAll [c] = l.follow c := by
  rw [followAll]
  cases l.follow c <;> rfl

end LiveResults

end FileIndex
