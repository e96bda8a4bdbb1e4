/-
What holds of every node of an arena (`Arena.Every`), whether the arena is in order or not. A property lasts
(`Node.Lasting`) if new nodes and renamed ones have it and nothing else that is changed about a node takes it away, but for
the mark of what is taken out of its tree.
-/
import FileIndex.Index.Snapshot
import FileIndex.Proofs.Arena.Cut
import FileIndex.Proofs.Arena.KnownPaths
import FileIndex.Proofs.Outcome
import FileIndex.Walk

namespace FileIndex

/-! ## Properties that last -/

/-- Whether two nodes have a name, its forms and the mark of what was taken out in common. -/
structure Node.Akin (n m : Node) : Prop where
  name : m.name = n.name
  fuzzy : m.fuzzy = n.fuzzy
  word : m.word = n.word
  removed : m.flags.removed = n.flags.removed

theorem Node.Akin.trans {n m l : Node} (h : n.Akin m) (k : m.Akin l) : n.Akin l :=
  ⟨k.name.trans h.name, k.fuzzy.trans h.fuzzy, k.word.trans h.word, k.removed.trans h.removed⟩

/-- Whether a property of nodes lasts. -/
structure Node.Lasting (P : Node → Prop) : Prop where
  ofName : ∀ name metadata, P (.ofName name metadata)
  rename : ∀ n name, P n → P (n.rename name)
  akin : ∀ n m, n.Akin m → P n → P m

/-- A node that was taken out of its tree. -/
def Node.taken (n : Node) : Node := { n with flags := { n.flags with removed := true } }

theorem Node.Akin.exists_taken {n m : Node} (h : n.taken.Akin m) : ∃ l, n.Akin l ∧ m = l.taken := by
  refine ⟨{ m with flags := { m.flags with removed := n.flags.removed } }, ⟨h.name, h.fuzzy, h.word, rfl⟩, ?_⟩
  obtain ⟨name, parent, anchor, children, metadata, ⟨added, removed, pinned⟩, fuzzy, word, knownPath⟩ := m
  obtain rfl : removed = true := h.removed
  rfl

/-- Whether a snapshot is one of a node with a property. -/
def Snapshot.Of (P : Node → Prop) (s : Snapshot) : Prop := ∃ id n p, P n ∧ s = .ofNode id n p

/-- Whether a node is one with a property that was taken out of its tree. -/
def Node.Taken (P : Node → Prop) (n : Node) : Prop := ∃ m, P m ∧ n = m.taken

namespace Arena

/-- Whether all nodes of an arena have a property. -/
def Every (P : Node → Prop) (a : Arena) : Prop := ∀ id n, a.get? id = some n → P n

variable {P : Node → Prop} {a b c : Arena} {id parent child top : NodeId} {n : Node} {f : Node → Node}
  {ids : List NodeId} {s : Snapshot} {k : Nat}

/-- What two arenas have in a slot that differ at most in the paths that are known. -/
theorem Alike.akin {j : NodeId} (hal : Alike a b) (hn : b.get? j = some n) : ∃ m, a.get? j = some m ∧ m.Akin n := by
  have hcore := hal.core j
  rw [core?_of_get? hn] at hcore
  obtain ⟨m, hm, he⟩ := Option.map_eq_some_iff.1 hcore.symm
  exact ⟨m, hm, (congrArg Node.name he).symm, (congrArg Node.fuzzy he).symm, (congrArg Node.word he).symm,
    (congrArg (·.flags.removed) he).symm⟩

/-! ## Slots -/

/-- Behind an insertion a slot holds what it held or the new node. -/
theorem get?_insert_cases {j : NodeId} {m : Node} (hm : (a.insert n).2.get? j = some m) : a.get? j = some m ∨ m = n := by
  unfold Arena.insert at hm
  split at hm
  · simp only [get?, Array.getElem?_setIfInBounds] at hm ⊢
    split at hm
    · split at hm
      · exact .inr (Option.some.inj hm).symm
      · cases hm
    · exact .inl hm
  · simp only [get?, Array.getElem?_push] at hm ⊢
    split at hm
    · exact .inr (Option.some.inj hm).symm
    · exact .inl hm

namespace Every

theorem of_get? (h : a.Every P) (hget : ∀ j, b.get? j = none ∨ b.get? j = a.get? j) : b.Every P := by
  intro j n hn
  rcases hget j with hj | hj
  · rw [hj] at hn
    cases hn
  · exact h j n (hj ▸ hn)

theorem modify (h : a.Every P) (hf : ∀ n, P n → P (f n)) (id : NodeId) : (a.modify id f).Every P := by
  intro j n hn
  rw [get?_modify] at hn
  split at hn
  · obtain ⟨m, hm, rfl⟩ := Option.map_eq_some_iff.1 hn
    exact hf m (h j m hm)
  · exact h j n hn

theorem modifyAll (h : a.Every P) (hf : ∀ n, P n → P (f n)) (ids : List NodeId) : (a.modifyAll ids f).Every P := by
  induction ids generalizing a with
  | nil => exact h
  | cons i ids ih => exact ih (h.modify hf i)

theorem insert (h : a.Every P) (hn : P n) : (a.insert n).2.Every P := by
  intro j m hm
  rcases get?_insert_cases hm with hm | rfl
  · exact h _ m hm
  · exact hn

theorem release (h : a.Every P) (id : NodeId) : (a.release id).2.Every P := by
  refine h.of_get? fun j => ?_
  by_cases hl : a.LeadsTo id j
  · exact .inl (get?_releaseAll_of_leadsTo a [id] List.mem_cons_self hl)
  · exact .inr (get?_releaseAll_of_not_leadsTo a [id] fun s hs => List.mem_singleton.1 hs ▸ hl)

theorem change (h : a.Every P) (hf : ∀ n, P n → P (f n)) (hc : a.change id f = .ok b) : b.Every P := by
  unfold Arena.change at hc
  split at hc <;> cases hc
  exact h.modify hf id

/-! ## Links and paths -/

variable (hP : Node.Lasting P)
include hP

theorem modifyAkin (h : a.Every P) (hf : ∀ n : Node, n.Akin (f n)) (id : NodeId) : (a.modify id f).Every P :=
  h.modify (fun n hn => hP.akin n (f n) (hf n) hn) id

theorem alike (h : a.Every P) (hal : Alike a b) : b.Every P := by
  intro j n hn
  obtain ⟨m, hm, hakin⟩ := hal.akin hn
  exact hP.akin m n hakin (h j m hm)

theorem detach (h : a.Every P) (id : NodeId) : (a.detach id).2.Every P := by
  unfold Arena.detach
  split
  · exact h
  · refine alike hP ?_ (alike_forgetPaths _ id)
    refine modifyAkin hP (modifyAkin hP h ?_ _) ?_ id <;> exact fun _ => ⟨rfl, rfl, rfl, rfl⟩

theorem attach (h : a.Every P) (hattach : a.attach parent child = .ok b) : b.Every P := by
  unfold Arena.attach at hattach
  split at hattach
  · cases hattach
  · split at hattach <;> cases hattach
    refine alike hP ?_ (alike_forgetPaths _ child)
    refine modifyAkin hP (modifyAkin hP h (fun _ => ⟨?_, ?_, ?_, ?_⟩) child) (fun n => ?_) parent
    case refine_5 =>
      unfold Node.addChild
      split <;> exact ⟨rfl, rfl, rfl, rfl⟩
    all_goals rfl

theorem attachNew (h : a.Every P) (hattach : a.attachNew parent child = .ok b) : b.Every P := by
  unfold Arena.attachNew at hattach
  split at hattach
  · cases hattach
  · split at hattach <;> cases hattach
    refine modifyAkin hP (modifyAkin hP h ?_ child) ?_ parent <;> exact fun _ => ⟨rfl, rfl, rfl, rfl⟩

/-! ## Walks -/

mutual

theorem insertCollected : ∀ {found : Collected} {a b : Arena} {top : NodeId}, a.Every P →
    a.insertCollected found = .ok (top, b) → b.Every P
  | .entry name metadata founds, a, b, top, h, hi => by
    rw [Arena.insertCollected] at hi
    obtain ⟨c, hc, hi⟩ := map_eq_ok.1 hi
    obtain ⟨-, rfl⟩ := Prod.mk.inj hi
    exact insertChildren (h.insert (hP.ofName name metadata)) hc

theorem insertChildren : ∀ {founds : List Collected} {a b : Arena} {parent : NodeId}, a.Every P →
    a.insertChildren parent founds = .ok b → b.Every P
  | [], a, b, parent, h, hi => by
    cases hi
    exact h
  | found :: founds, a, b, parent, h, hi => by
    rw [Arena.insertChildren] at hi
    obtain ⟨⟨id, c⟩, hc, hi⟩ := bind_eq_ok.1 hi
    obtain ⟨e, he, hi⟩ := bind_eq_ok.1 hi
    exact insertChildren ((insertCollected h hc).attachNew hP he) hi

end

end Every

/-! ## Snapshots -/

theorem snapshot_eq_some (h : (a.snapshot id).1 = some s) : ∃ n p, a.get? id = some n ∧ s = .ofNode id n p := by
  unfold snapshot at h
  split at h
  · cases h
  · rename_i n hn
    obtain ⟨p, -, rfl⟩ := Option.map_eq_some_iff.1 h
    exact ⟨n, p, hn, rfl⟩

/-- A snapshot among those of some nodes is one of these. -/
theorem exists_of_mem_snapshots (hs : s ∈ (a.snapshots ids).1) :
    ∃ id ∈ ids, ∃ n m p, a.get? id = some m ∧ m.Akin n ∧ s = .ofNode id n p := by
  induction ids generalizing a with
  | nil => cases hs
  | cons i ids ih =>
    rw [snapshots] at hs
    rcases List.mem_append.1 hs with hs | hs
    · obtain ⟨n, p, hn, rfl⟩ := snapshot_eq_some (Option.mem_toList.1 hs)
      exact ⟨i, List.mem_cons_self, n, n, p, hn, ⟨rfl, rfl, rfl, rfl⟩, rfl⟩
    · obtain ⟨j, hj, n, m, p, hm, hakin, rfl⟩ := ih hs
      obtain ⟨l, hl, hakin'⟩ := (alike_snapshot a i).akin hm
      exact ⟨j, List.mem_cons_of_mem i hj, n, l, p, hl, hakin'.trans hakin, rfl⟩

theorem Every.of_mem_snapshots (hP : Node.Lasting P) (h : a.Every P) (hs : s ∈ (a.snapshots ids).1) : s.Of P := by
  obtain ⟨id, -, n, m, p, hm, hakin, rfl⟩ := exists_of_mem_snapshots hs
  exact ⟨id, n, p, hP.akin m n hakin (h id m hm), rfl⟩

/-! ## Taking out -/

theorem leadsTo_of_mem_subtreeTo {j : NodeId} (h : j ∈ a.subtreeTo k id) : a.LeadsTo id j := by
  induction k generalizing id with
  | zero => cases h
  | succ k ih =>
    rw [subtreeTo] at h
    split at h
    · cases h
    · rename_i n hn
      rcases List.mem_cons.1 h with rfl | h
      · exact .refl
      · obtain ⟨child, hchild, h⟩ := List.mem_flatMap.1 h
        exact .head (children_of_get? hn ▸ hchild) (ih h)

end Arena

end FileIndex
