/-
What a subscriber reads. From its subscription on it has every change that is published, in order, until it reads
them; for that no earlier subscriber may have its number (`Feed.Numbered`).
-/
import FileIndex.Index.Feed

namespace FileIndex.Feed

variable {f : Feed} {n : Nat} {c : IndexChange} {changes pending : List IndexChange}

/-- Whether the numbers to come are new. -/
def Numbered (f : Feed) : Prop := ∀ s ∈ f.subscribers, s.number < f.next

theorem Numbered.publish (h : f.Numbered) (c : IndexChange) : (f.publish c).Numbered := by
  intro s hs
  simp only [Feed.publish, List.mem_map, List.mem_filter] at hs
  obtain ⟨u, ⟨hu, -⟩, rfl⟩ := hs
  exact h u hu

theorem Numbered.publishAll (h : f.Numbered) (changes : List IndexChange) :
    (changes.foldl Feed.publish f).Numbered := by
  induction changes generalizing f with
  | nil => exact h
  | cons c changes ih => exact ih (h.publish c)

theorem Numbered.subscribe (h : f.Numbered) : f.subscribe.2.Numbered := by
  intro s hs
  simp only [Feed.subscribe, List.mem_append, List.mem_singleton] at hs
  rcases hs with hs | rfl
  · exact Nat.lt_succ_of_lt (h s hs)
  · exact Nat.lt_succ_self _

/-- What a subscriber finds. -/
theorem read_fst (f : Feed) (n : Nat) : (f.read n).1 =
    (f.subscribers.find? fun s => s.number == n && s.isOpen).map (·.queue) := rfl

theorem read_subscribe (h : f.Numbered) : (f.subscribe.2.read f.subscribe.1).1 = some [] := by
  rw [read_fst]
  have hold : (f.subscribers.find? fun s => s.number == f.next && s.isOpen) = none := by
    refine List.find?_eq_none.2 fun s hs => ?_
    simp [Nat.ne_of_lt (h s hs)]
  simp [Feed.subscribe, List.find?_append, hold]

theorem read_publish (h : (f.read n).1 = some pending) (c : IndexChange) :
    ((f.publish c).read n).1 = some (pending ++ [c]) := by
  rw [read_fst, Option.map_eq_some_iff] at h
  obtain ⟨s, hs, rfl⟩ := h
  rw [read_fst]
  simp only [Feed.publish, List.find?_map, List.find?_filter, Option.map_map]
  have hsame : (f.subscribers.find? fun s => s.isOpen ∧ (s.number == n && s.isOpen) = true) = some s := by
    rw [← hs]
    congr 1
    funext u
    cases u.isOpen <;> simp [Bool.beq_eq_decide_eq]
  simp only [Function.comp_def, hsame]
  rfl

theorem read_publishAll (h : (f.read n).1 = some pending) (changes : List IndexChange) :
    ((changes.foldl Feed.publish f).read n).1 = some (pending ++ changes) := by
  induction changes generalizing f pending with
  | nil => rw [List.append_nil]; exact h
  | cons c changes ih =>
    rw [List.foldl_cons, ih (read_publish h c), List.append_assoc, List.singleton_append]

theorem read_read (h : (f.read n).1 = some pending) : ((f.read n).2.read n).1 = some [] := by
  rw [read_fst, Option.map_eq_some_iff] at h
  obtain ⟨s, hs, -⟩ := h
  rw [read_fst]
  simp only [Feed.read, Feed.modify, List.find?_map, Option.map_map]
  have hsame : (f.subscribers.find? ((fun s => s.number == n && s.isOpen) ∘ fun s =>
      if s.number = n then { s with queue := [] } else s)) = some s := by
    rw [← hs]
    congr 1
    funext u
    simp only [Function.comp_apply]
    split <;> rfl
  have hnumber : s.number = n := by
    have := List.find?_some hs
    simp only [Bool.and_eq_true, beq_iff_eq] at this
    exact this.1
  rw [hsame]
  simp [hnumber]

end FileIndex.Feed
