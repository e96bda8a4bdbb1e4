/-
What live results are at every reading, whatever changes they have followed: each entry once, the pinned ones in front,
and nothing that the query does not admit (`LiveResults.Kept`). An entry that no change takes out stays where it stands
among the others (`LiveResults.Steps`).
-/
import FileIndex.Proofs.Engine.Following
import FileIndex.Proofs.Filter.Compile
import FileIndex.Proofs.Index.Run
import FileIndex.Proofs.Index.Searching

namespace FileIndex

/-! ## What a query finds -/

namespace CompiledQuery

variable {α : Type} {q : CompiledQuery} {view : α → Item} {c : Cancellation} {n : Nat} {l found : List α}

end CompiledQuery

namespace LiveResults

open CompiledQuery

/-- What holds of live results at every reading. -/
structure Kept (l : LiveResults) : Prop where
  distinct : (l.entries.map Snapshot.id).Nodup
  /-- In front of a pinned entry all are pinned. -/
  leading : l.entries.Pairwise fun s t => t.flags.pinned = true → s.flags.pinned = true
  admitted : ∀ s ∈ l.entries, l.query.admits s.item = .ok true

/-- How following goes on: the results are still kept, and the entries that are to stay are in the same order. -/
structure Steps (l m : LiveResults) (stays : Snapshot → Bool) : Prop where
  kept : m.Kept
  query : m.query = l.query
  order : (l.entries.filter stays).Sublist m.entries

variable {q : CompiledQuery} {l m k : LiveResults} {s : Snapshot} {nodes entries found : List Snapshot}
  {c : IndexChange} {changes : List IndexChange} {stays fewer : Snapshot → Bool}

theorem Kept.sublist (h : l.Kept) (hs : entries.Sublist l.entries) : Kept { l with entries } where
  distinct := h.distinct.sublist (hs.map _)
  leading := h.leading.sublist hs
  admitted s hm := h.admitted s (hs.mem hm)

/-- A pinned entry comes behind none that is not pinned, and another in front of none. -/
theorem Kept.place (h : l.Kept) (ha : l.query.admits s.item = .ok true) (hn : s.id ∉ l.entries.map Snapshot.id) :
    Kept { l with entries := place s l.entries } where
  distinct := by
    rw [((place_perm s l.entries).map Snapshot.id).nodup_iff, List.map_append]
    exact List.nodup_append'.2 ⟨h.distinct, by simp, by simpa using hn⟩
  leading := by
    unfold LiveResults.place
    split
    · rename_i hs
      refine List.pairwise_append.2 ⟨h.leading.sublist (List.takeWhile_sublist _), ?_, fun t ht u _ _ => ?_⟩
      · exact List.pairwise_cons.2 ⟨fun _ _ _ => hs, h.leading.sublist (List.dropWhile_sublist _)⟩
      · exact List.mem_takeWhile_imp (p := fun u : Snapshot => u.flags.pinned) ht
    · rename_i hs
      refine List.pairwise_append.2 ⟨h.leading, List.pairwise_singleton _ _, fun t _ u hu hp => ?_⟩
      obtain rfl := List.mem_singleton.1 hu
      exact absurd hp hs
  admitted t ht := by
    rcases List.mem_append.1 ((place_perm s l.entries).mem_iff.1 ht) with ht | ht
    · exact h.admitted t ht
    · obtain rfl := List.mem_singleton.1 ht
      exact ha

namespace Steps

theorem refl (h : l.Kept) : Steps l l stays := ⟨h, rfl, List.filter_sublist⟩

theorem trans (h : Steps l m stays) (hm : Steps m k stays) : Steps l k stays where
  kept := hm.kept
  query := hm.query.trans h.query
  order := by
    have := h.order.filter stays
    rw [List.filter_filter, funext fun s => Bool.and_self (stays s)] at this
    exact this.trans hm.order

end Steps

/-! ## Offers -/

end LiveResults

/-! ## Searches -/

namespace Index

variable {x y : Index} {q : CompiledQuery} {c : Cancellation} {found : List Snapshot} {subscriber : Nat}

end Index

namespace LiveResults

end LiveResults

end FileIndex
