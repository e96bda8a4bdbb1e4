/-
The arena by itself, handled with any numbers for slots, used, released or never used. Whatever is done to it, the list of
free slots is that of the slots that hold nothing and the count of nodes is right (`Accounted`, `accounted_handled`). To
release a node is a loop over a list of what waits, which ends after as many turns as there were nodes to look at
(`exists_turns`), and in any arena, with children lists that share nodes, run in circles or name empty slots, it empties
the slots that children lists lead to (`exists_emptied`).
-/
import FileIndex.Proofs.Arena.Spread

namespace FileIndex

/-! ## Uses of an arena -/

/-- A use of an arena. The numbers need not be those of slots that hold nodes. -/
inductive Handling where
  | insert (n : Node)
  | attach (parent child : NodeId)
  | detach (child : NodeId)
  | release (id : NodeId)
  /-- Changes the children list of a node alone. -/
  | addChild (parent child : NodeId)
  /-- Changes the children list of a node alone. -/
  | removeChild (parent child : NodeId)

/-- What a use makes of an arena. -/
def Handling.result (a : Arena) : Handling → Except Fault Arena
  | insert n => (NodeId.ofIndex (a.insert n).1.index).map fun _ => (a.insert n).2
  | attach parent child => a.attach parent child
  | detach child => .ok (a.detach child).2
  | release id => .ok (a.release id).2
  | addChild parent child => a.change parent (·.addChild child)
  | removeChild parent child => a.change parent (·.removeChild child)

namespace Arena

variable {a b : Arena} {id j p : NodeId} {n : Node} {f : Node → Node} {ids : List NodeId}

/-! ## Accounts -/

/-- The free slots of an arena are listed, each one once, and its nodes are counted. -/
structure Accounted (a : Arena) : Prop extends a.FreeList where
  live_eq : a.live = a.occupied

namespace Accounted

theorem empty : Accounted {} where
  nodup := List.nodup_nil
  mem_iff id := by simp
  live_eq := rfl

/-- Accounts look at which slots hold nodes, and not at the nodes. -/
theorem modify (h : a.Accounted) (id : NodeId) (f : Node → Node) : (a.modify id f).Accounted where
  toFreeList := FreeList.modify h.toFreeList id f
  live_eq := by rw [live_modify, h.live_eq, occupied_congr (contains_modify a id f)]

theorem modifyAll (h : a.Accounted) (ids : List NodeId) (f : Node → Node) : (a.modifyAll ids f).Accounted := by
  induction ids generalizing a with
  | nil => exact h
  | cons i ids ih => exact ih (h.modify i f)

theorem change (h : a.Accounted) (hb : a.change id f = .ok b) : b.Accounted := by
  unfold Arena.change at hb
  split at hb <;> cases hb
  exact h.modify id f

theorem insert (h : a.Accounted) (n : Node) : (a.insert n).2.Accounted where
  toFreeList := FreeList.insert h.toFreeList n
  live_eq := by
    have hbefore := FreeList.occupied_add h.toFreeList
    have hafter := FreeList.occupied_add (FreeList.insert h.toFreeList n)
    have hlive := h.live_eq
    unfold Arena.insert at hafter ⊢
    split at hafter
    · rename_i hfree
      rw [hfree, List.length_cons] at hbefore
      simp only [Array.size_setIfInBounds] at hafter ⊢
      omega
    · simp only [Array.size_push] at hafter ⊢
      omega

theorem attach (h : a.Accounted) (hb : a.attach p id = .ok b) : b.Accounted := by
  unfold Arena.attach at hb
  split at hb
  · cases hb
  · split at hb <;> cases hb
    exact ((h.modify id _).modify p _).modifyAll _ _

theorem detach (h : a.Accounted) (id : NodeId) : (a.detach id).2.Accounted := by
  unfold Arena.detach
  split
  · exact h
  · exact ((h.modify _ _).modify id _).modifyAll _ _

theorem release (h : a.Accounted) (id : NodeId) : (a.release id).2.Accounted where
  toFreeList := FreeList.releaseAll h.toFreeList [id]
  live_eq := by
    obtain ⟨hlive, hoccupied⟩ := releaseAll_counts a [id]
    rw [Arena.release, hlive, h.live_eq]
    omega

/-- Every use of an arena keeps its accounts. -/
theorem result (h : a.Accounted) {use : Handling} (hb : use.result a = .ok b) : b.Accounted := by
  cases use with
  | insert n =>
    obtain ⟨-, -, rfl⟩ := map_eq_ok.1 hb
    exact h.insert n
  | attach parent child => exact h.attach hb
  | detach child => cases hb; exact h.detach child
  | release id => cases hb; exact h.release id
  | addChild parent child => exact h.change hb
  | removeChild parent child => exact h.change hb

theorem handled (h : a.Accounted) {uses : List Handling} (hb : uses.foldlM Handling.result a = .ok b) : b.Accounted := by
  induction uses generalizing a with
  | nil => cases hb; exact h
  | cons use uses ih =>
    obtain ⟨c, hc, hb⟩ := bind_eq_ok.1 hb
    exact ih (h.result hc) hb

end Accounted

/-! ## The loop of a release -/

/-- A release under way: the arena, what waits to be looked at, and how many slots were emptied. -/
structure Releasing where
  arena : Arena
  waiting : List NodeId
  emptied : Nat

/-- Looks at the first of what waits. A node there leaves its slot, and its children are the next to be looked at, the last
child first. -/
def Releasing.turn (r : Releasing) : Releasing :=
  match r.waiting with
  | [] => r
  | id :: rest =>
    match r.arena.get? id with
    | none => { r with waiting := rest }
    | some n =>
      { arena := r.arena.vacate id, waiting := n.children.reverse ++ rest, emptied := r.emptied + 1 }

/-- The number of entries in all children lists. -/
def links (a : Arena) : Nat := (a.slots.toList.map fun o => (o.elim [] (·.children)).length).sum

theorem sum_set_none {l : List (Option Node)} {i : Nat} (h : l[i]? = some (some n)) :
    ((l.set i none).map fun o => (o.elim [] (·.children)).length).sum + n.children.length =
      (l.map fun o => (o.elim [] (·.children)).length).sum := by
  induction l generalizing i with
  | nil => simp at h
  | cons o l ih =>
    cases i with
    | zero =>
      obtain rfl : o = some n := by simpa using h
      simp [Nat.add_comm]
    | succ i =>
      have := ih (i := i) (by simpa using h)
      simp only [List.set_cons_succ, List.map_cons, List.sum_cons]
      omega

theorem links_vacate (h : a.get? id = some n) : (a.vacate id).links + n.children.length = a.links := by
  have hl : a.slots.toList[id.index]? = some (some n) := by
    rw [get?, Option.join_eq_some_iff] at h
    simpa using h
  simpa [links, vacate] using sum_set_none hl

/-- A turn looks at one node, or at one entry of a children list: there are so many turns as there are of them in what is
emptied. -/
theorem exists_turns (a : Arena) (ids : List NodeId) (count : Nat) :
    ∃ turns, turns + (a.releaseAll ids).2.links = a.links + ids.length ∧
      Releasing.turn^[turns] ⟨a, ids, count⟩ = ⟨(a.releaseAll ids).2, [], count + (a.releaseAll ids).1⟩ := by
  fun_induction releaseAll a ids generalizing count with
  | case1 a => exact ⟨0, by simp, rfl⟩
  | case2 a id rest hid ih =>
    obtain ⟨turns, hlinks, hturns⟩ := ih count
    refine ⟨turns + 1, by simp only [List.length_cons]; omega, ?_⟩
    rw [Function.iterate_succ_apply, ← hturns, Releasing.turn]
    simp only [hid]
  | case3 a id rest n hid k b hb ih =>
    obtain ⟨turns, hlinks, hturns⟩ := ih (count + 1)
    have hvacate := links_vacate hid
    rw [hb, List.length_append, List.length_reverse] at hlinks
    rw [hb] at hturns
    refine ⟨turns + 1, ?_, ?_⟩
    · simp only [List.length_cons] at hlinks ⊢
      omega
    rw [Function.iterate_succ_apply, Releasing.turn]
    simp only [hid]
    rw [hturns, Nat.add_right_comm, Nat.add_assoc]

/-! ## What a release empties -/

/-- What is emptied is listed in front of the slots that were free. -/
theorem exists_emptied (a : Arena) (ids : List NodeId) :
    ∃ emptied : List NodeId, emptied.Nodup ∧ (∀ j ∈ emptied, a.contains j = true) ∧
      (a.releaseAll ids).2.free = emptied ++ a.free ∧ (a.releaseAll ids).1 = emptied.length ∧
      (a.releaseAll ids).2.slots.size = a.slots.size ∧
      ∀ j, (a.releaseAll ids).2.get? j = if j ∈ emptied then none else a.get? j := by
  fun_induction releaseAll a ids with
  | case1 a => exact ⟨[], .nil, List.forall_mem_nil _, rfl, rfl, rfl, fun j => rfl⟩
  | case2 a id rest _ ih => exact ih
  | case3 a id rest n hid k b hb ih =>
    rw [hb] at ih
    obtain ⟨emptied, hnodup, hheld, hfree, hcount, hsize, hget⟩ := ih
    have hgone : (a.vacate id).contains id = false := by rw [contains, get?_vacate, if_pos rfl]; rfl
    have hnew : id ∉ emptied := fun hm => by
      have := hheld id hm
      rw [hgone] at this
      cases this
    refine ⟨emptied ++ [id], ?_, fun j hj => ?_, ?_, ?_, ?_, fun j => ?_⟩
    · exact List.nodup_append'.2 ⟨hnodup, List.nodup_singleton id, by simpa using hnew⟩
    · rcases List.mem_append.1 hj with hj | hj
      · have := hheld j hj
        rw [contains, get?_vacate] at this
        split at this
        · cases this
        · exact this
      · rw [List.mem_singleton.1 hj]
        exact contains_iff.2 ⟨n, hid⟩
    · rw [hfree, free_vacate, List.append_assoc, List.singleton_append]
    · rw [List.length_append, ← hcount, List.length_singleton]
    · rw [hsize, size_vacate]
    · rw [hget, get?_vacate]
      by_cases hj : j = id
      · simp [hj]
      · simp [hj]

/-- What a release is to do: to empty the slots of the nodes that children lists lead to, each one once, and to count them. -/
structure Empties (a : Arena) (id : NodeId) (emptied : List NodeId) (count : Nat) (b : Arena) : Prop where
  nodup : emptied.Nodup
  mem_iff : ∀ j, j ∈ emptied ↔ a.contains j = true ∧ a.LeadsTo id j
  count_eq : count = emptied.length
  get?_eq : ∀ j, b.get? j = if j ∈ emptied then none else a.get? j
  size_eq : b.slots.size = a.slots.size
  free_eq : b.free = emptied ++ a.free
  live_eq : b.live = a.live - count

theorem exists_empties (a : Arena) (id : NodeId) : ∃ emptied, Empties a id emptied (a.release id).1 (a.release id).2 := by
  obtain ⟨emptied, hnodup, hheld, hfree, hcount, hsize, hget⟩ := exists_emptied a [id]
  refine ⟨emptied, hnodup, fun j => ⟨fun hj => ⟨hheld j hj, ?_⟩, fun ⟨hj, hleads⟩ => ?_⟩, hcount, hget, hsize, hfree,
    (releaseAll_counts a [id]).1⟩
  · by_contra hleads
    have hkept := get?_releaseAll_of_not_leadsTo a [id] (j := j) (by simpa using hleads)
    rw [hget, if_pos hj, eq_comm, get?_eq_none] at hkept
    exact hkept (hheld j hj)
  · have hgone := get?_releaseAll_of_leadsTo a [id] (List.mem_singleton.2 rfl) hleads
    by_contra hne
    rw [hget, if_neg hne, get?_eq_none] at hgone
    exact hgone hj

/-- In whatever way an arena was handled, from the empty one on, its free slots are those that hold nothing, each listed once,
its count is that of the nodes, and a new node gets a slot that holds none. And a release, in any arena whatever, ends and
empties what children lists lead to. -/
theorem handled_accounts :
    (∀ (uses : List Handling) (b : Arena), uses.foldlM Handling.result {} = .ok b →
      b.free.Nodup ∧ (∀ id, id ∈ b.free ↔ id.index < b.slots.size ∧ b.contains id = false) ∧ b.live = b.occupied ∧
        ∀ n, b.contains (b.insert n).1 = false) ∧
    ∀ (a : Arena) (id : NodeId),
      (∃ turns ≤ a.links + 1, Releasing.turn^[turns] ⟨a, [id], 0⟩ = ⟨(a.release id).2, [], (a.release id).1⟩) ∧
      ∃ emptied, Empties a id emptied (a.release id).1 (a.release id).2 := by
  refine ⟨fun uses b hb => ?_, fun a id => ⟨?_, exists_empties a id⟩⟩
  · have h := Accounted.empty.handled hb
    refine ⟨h.nodup, fun id => ?_, h.live_eq, fun n => ?_⟩
    · rw [h.mem_iff, ← Bool.not_eq_true, get?_eq_none]
    · rw [contains, FreeList.get?_insert_self h.toFreeList]
      rfl
  · obtain ⟨turns, hlinks, hturns⟩ := exists_turns a [id] 0
    rw [List.length_singleton] at hlinks
    rw [Nat.zero_add] at hturns
    exact ⟨turns, by omega, hturns⟩

/-- The uses that make two nodes children of each other, and one of them the parent of a slot that was never used, and then
release them. -/
def circleUses : List Handling :=
  [.insert (.ofName "a" {}), .insert (.ofName "b" {}), .attach ⟨0⟩ ⟨1⟩, .addChild ⟨1⟩ ⟨0⟩, .addChild ⟨1⟩ ⟨7⟩, .detach ⟨9⟩,
    .release ⟨0⟩]

theorem handled_accounts_circle : ∃ b, circleUses.foldlM Handling.result {} = .ok b ∧ b.free.Nodup ∧
    (∀ id, id ∈ b.free ↔ id.index < b.slots.size ∧ b.contains id = false) ∧ b.live = b.occupied ∧
      ∀ n, b.contains (b.insert n).1 = false := by
  obtain ⟨b, hb⟩ : ∃ b, circleUses.foldlM Handling.result {} = .ok b := ⟨_, rfl⟩
  exact ⟨b, hb, handled_accounts.1 circleUses b hb⟩

end Arena

end FileIndex
