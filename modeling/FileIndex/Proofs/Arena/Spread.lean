/-
Taking a walk into an arena whatever its slots. What was found is spread over slots, each entry in front of what lies in it
(`Spread`): its node leads up to the node of the directory and down to those of what lies in it. Only free slots are
taken up, and no other one is changed (`FreeList.insertCollected_spread`), so that what is listed below the topmost
node afterwards is what was found (`Spread.subtree_eq`).
-/
import FileIndex.Proofs.Arena.Collected
import FileIndex.Proofs.Arena.Kept
import FileIndex.Proofs.Disk.Found
import Mathlib

namespace FileIndex

namespace Arena

variable {a b c : Arena} {id j p top : NodeId} {parent : Option NodeId} {n : Node} {f : Node → Node}
  {found : Collected} {founds : List Collected} {ids more tops : List NodeId}

/-! ## Slots that are taken up -/

theorem FreeList.modify (h : a.FreeList) (id : NodeId) (f : Node → Node) : (a.modify id f).FreeList where
  nodup := h.nodup
  mem_iff j := by
    rw [free_modify, h.mem_iff, size_modify, get?_modify]
    split <;> simp

theorem contains_modify (a : Arena) (id : NodeId) (f : Node → Node) (j : NodeId) :
    (a.modify id f).contains j = a.contains j := by
  rw [contains, contains, get?_modify]
  split <;> simp

/-- An arena has taken up slots that held nothing, one for each number of a list. -/
structure TakesUp (a b : Arena) (ids : List NodeId) : Prop where
  freeList : b.FreeList
  nodup : ids.Nodup
  unused : ∀ j ∈ ids, a.contains j = false
  contains_iff : ∀ j, b.contains j = true ↔ a.contains j = true ∨ j ∈ ids
  live : b.live = a.live + ids.length
  balanced : a.Balanced b

namespace TakesUp

theorem nil (h : a.FreeList) : TakesUp a a [] := ⟨h, .nil, nofun, by simp, rfl, rfl⟩

theorem insert (h : a.FreeList) (name : String) (metadata : Metadata) :
    TakesUp a (a.insert (.ofName name metadata)).2 [(a.insert (.ofName name metadata)).1] := by
  have hself := h.get?_insert_self (.ofName name metadata)
  refine ⟨h.insert _, List.nodup_singleton _, ?_, fun j => ?_, ?_, (kept_balanced a).insert a name metadata rfl⟩
  · intro j hj
    rw [List.mem_singleton.1 hj, contains, hself]
    rfl
  · rw [contains, contains, h.get?_insert, List.mem_singleton]
    split
    · rename_i hj
      simp [hj]
    · rename_i hj
      simp [hj]
  · unfold Arena.insert
    split <;> rfl

theorem trans (h : TakesUp a b ids) (k : TakesUp b c more) : TakesUp a c (ids ++ more) := by
  refine ⟨k.freeList, List.nodup_append'.2 ⟨h.nodup, k.nodup, fun j hj hm => ?_⟩, fun j hj => ?_, fun j => ?_, ?_, ?_⟩
  · have := k.unused j hm
    rw [(h.contains_iff j).2 (.inr hj)] at this
    cases this
  · rcases List.mem_append.1 hj with hj | hj
    · exact h.unused j hj
    · have := k.unused j hj
      by_contra hne
      rw [(h.contains_iff j).2 (.inl (by simpa using hne))] at this
      cases this
  · rw [k.contains_iff, h.contains_iff, List.mem_append, or_assoc]
  · rw [k.live, h.live, List.length_append, Nat.add_assoc]
  · have h1 := h.balanced
    have h2 := k.balanced
    unfold Balanced at h1 h2 ⊢
    omega

/-- Which slots are taken up does not depend on what is in them. -/
theorem modify (h : TakesUp a b ids) (id : NodeId) (f : Node → Node) : TakesUp a (b.modify id f) ids :=
  ⟨h.freeList.modify id f, h.nodup, h.unused, fun j => by rw [contains_modify, h.contains_iff], h.live,
    by simpa [Balanced] using h.balanced⟩

theorem not_mem (h : TakesUp a b ids) (hp : a.contains p = true) : p ∉ ids := fun hm => by
  have := h.unused p hm
  rw [hp] at this
  cases this

/-- So many slots more are in use. -/
theorem occupied_eq (h : TakesUp a b ids) (ha : a.FreeList) : b.occupied = a.occupied + ids.length := by
  have := h.balanced.live_eq ha h.freeList
  have := h.live
  omega

theorem length_le (h : TakesUp a b ids) : ids.length ≤ b.slots.size :=
  length_le_size h.nodup fun j hj => (h.contains_iff j).2 (.inr hj)

end TakesUp

/-! ## Entries spread over slots -/

mutual

/-- Whether a found entry is spread over slots, each entry in front of what lies in it: its node is a new one that leads
up to its directory and down to what lies in it. -/
def Spread (a : Arena) (parent : Option NodeId) : Collected → List NodeId → Prop
  | .entry name metadata founds, ids => ∃ id tops below, ids = id :: below ∧
      a.get? id = some { Node.ofName name metadata with parent, children := tops } ∧ SpreadAll a id founds tops below

/-- Whether what was found in a directory is spread over slots, one entry behind the other. -/
def SpreadAll (a : Arena) (parent : NodeId) : List Collected → List NodeId → List NodeId → Prop
  | [], tops, ids => tops = [] ∧ ids = []
  | found :: founds, tops, ids => ∃ top rest mine others, tops = top :: rest ∧ ids = mine ++ others ∧
      mine.head? = some top ∧ Spread a (some parent) found mine ∧ SpreadAll a parent founds rest others

end

mutual

theorem Spread.congr : (found : Collected) → ∀ {parent ids}, a.Spread parent found ids →
    (∀ j ∈ ids, b.get? j = a.get? j) → b.Spread parent found ids
  | .entry name metadata founds, parent, ids, h, hsame => by
    obtain ⟨id, tops, below, rfl, hid, hall⟩ := h
    exact ⟨id, tops, below, rfl, (hsame id (by simp)).trans hid,
      SpreadAll.congr founds hall fun j hj => hsame j (List.mem_cons_of_mem _ hj)⟩

theorem SpreadAll.congr : (founds : List Collected) → ∀ {p tops ids}, a.SpreadAll p founds tops ids →
    (∀ j ∈ ids, b.get? j = a.get? j) → b.SpreadAll p founds tops ids
  | [], p, tops, ids, h, _ => h
  | found :: founds, p, tops, ids, h, hsame => by
    obtain ⟨top, rest, mine, others, rfl, rfl, hhead, hfound, hall⟩ := h
    exact ⟨top, rest, mine, others, rfl, rfl, hhead, Spread.congr found hfound fun j hj => hsame j (by simp [hj]),
      SpreadAll.congr founds hall fun j hj => hsame j (by simp [hj])⟩

end

mutual

theorem Spread.length_eq : (found : Collected) → ∀ {parent ids}, a.Spread parent found ids → ids.length = found.size
  | .entry name metadata founds, parent, ids, h => by
    obtain ⟨id, tops, below, rfl, -, hall⟩ := h
    rw [List.length_cons, SpreadAll.length_eq founds hall, Collected.size, Nat.add_comm]

theorem SpreadAll.length_eq : (founds : List Collected) → ∀ {p tops ids}, a.SpreadAll p founds tops ids →
    ids.length = Collected.sizes founds
  | [], p, tops, ids, h => by
    rw [h.2]
    rfl
  | found :: founds, p, tops, ids, h => by
    obtain ⟨top, rest, mine, others, rfl, rfl, -, hfound, hall⟩ := h
    rw [List.length_append, Spread.length_eq found hfound, SpreadAll.length_eq founds hall, Collected.sizes]

end

mutual

/-- What is listed below the topmost node are the slots, in their order. -/
theorem Spread.subtreeTo_eq : (found : Collected) → ∀ {parent top ids k}, a.Spread parent found ids →
    ids.head? = some top → found.size ≤ k → a.subtreeTo k top = ids
  | .entry name metadata founds, parent, top, ids, k, h, hhead, hk => by
    obtain ⟨id, tops, below, rfl, hid, hall⟩ := h
    obtain rfl : id = top := Option.some.inj hhead
    rw [Collected.size] at hk
    obtain ⟨k, rfl⟩ : ∃ l, k = l + 1 := ⟨k - 1, by omega⟩
    rw [subtreeTo, hid]
    exact congrArg _ (SpreadAll.flatMap_subtreeTo founds hall (by omega))

theorem SpreadAll.flatMap_subtreeTo : (founds : List Collected) → ∀ {p tops ids k}, a.SpreadAll p founds tops ids →
    Collected.sizes founds ≤ k → tops.flatMap (a.subtreeTo k) = ids
  | [], p, tops, ids, k, h, _ => by
    rw [h.1, h.2]
    rfl
  | found :: founds, p, tops, ids, k, h, hk => by
    obtain ⟨top, rest, mine, others, rfl, rfl, hhead, hfound, hall⟩ := h
    rw [Collected.sizes] at hk
    rw [List.flatMap_cons, Spread.subtreeTo_eq found hfound hhead (by omega),
      SpreadAll.flatMap_subtreeTo founds hall (by omega)]

end

/-- What the node in a slot says of its entry. -/
def finding? (a : Arena) (id : NodeId) : Option (String × Metadata) := (a.get? id).map fun n => (n.name, n.metadata)

mutual

/-- The slots say of their entries what was found, in the same order. -/
theorem Spread.map_finding? : (found : Collected) → ∀ {parent ids}, a.Spread parent found ids →
    ids.map a.finding? = found.preorder.map fun f => some (f.name, f.metadata)
  | .entry name metadata founds, parent, ids, h => by
    obtain ⟨id, tops, below, rfl, hid, hall⟩ := h
    rw [Collected.preorder, List.map_cons, List.map_cons, SpreadAll.map_finding? founds hall, finding?, hid]
    rfl

theorem SpreadAll.map_finding? : (founds : List Collected) → ∀ {p tops ids}, a.SpreadAll p founds tops ids →
    ids.map a.finding? = (Collected.preorders founds).map fun f => some (f.name, f.metadata)
  | [], p, tops, ids, h => by
    rw [h.2]
    rfl
  | found :: founds, p, tops, ids, h => by
    obtain ⟨top, rest, mine, others, rfl, rfl, -, hfound, hall⟩ := h
    rw [List.map_append, Spread.map_finding? found hfound, SpreadAll.map_finding? founds hall, Collected.preorders,
      List.map_append]

end

mutual

theorem Spread.shows : (found : Collected) → ∀ {parent top ids}, a.Spread parent found ids → ids.head? = some top →
    a.Shows found top
  | .entry name metadata founds, parent, top, ids, h, hhead => by
    obtain ⟨id, tops, below, rfl, hid, hall⟩ := h
    obtain rfl : id = top := Option.some.inj hhead
    exact ⟨_, hid, rfl, rfl, SpreadAll.shows founds hall⟩

theorem SpreadAll.shows : (founds : List Collected) → ∀ {p tops ids}, a.SpreadAll p founds tops ids →
    a.ShowsAll founds tops
  | [], p, tops, ids, h => h.1
  | found :: founds, p, tops, ids, h => by
    obtain ⟨top, rest, mine, others, rfl, rfl, hhead, hfound, hall⟩ := h
    exact ⟨top, rest, rfl, Spread.shows found hfound hhead, SpreadAll.shows founds hall⟩

end

/-! ## Links between the slots -/

mutual

/-- The topmost node has the parent that it was given, and all others have one among the slots that lists them. -/
theorem Spread.exists_parent : (found : Collected) → ∀ {parent top ids}, a.Spread parent found ids →
    ids.head? = some top → ∀ j ∈ ids, j = top ∧ a.parent? j = parent ∨ ∃ q ∈ ids, a.parent? j = some q ∧ j ∈ a.children q
  | .entry name metadata founds, parent, top, ids, h, hhead, j, hj => by
    obtain ⟨id, tops, below, rfl, hid, hall⟩ := h
    obtain rfl : id = top := Option.some.inj hhead
    rcases List.mem_cons.1 hj with rfl | hj
    · exact .inl ⟨rfl, parent?_of_get? hid⟩
    · refine .inr ?_
      rcases SpreadAll.exists_parent founds hall j hj with ⟨hmem, hp⟩ | ⟨q, hq, hp, hmem⟩
      · exact ⟨id, by simp, hp, by rwa [children_of_get? hid]⟩
      · exact ⟨q, List.mem_cons_of_mem _ hq, hp, hmem⟩

theorem SpreadAll.exists_parent : (founds : List Collected) → ∀ {p tops ids}, a.SpreadAll p founds tops ids →
    ∀ j ∈ ids, j ∈ tops ∧ a.parent? j = some p ∨ ∃ q ∈ ids, a.parent? j = some q ∧ j ∈ a.children q
  | [], p, tops, ids, h, j, hj => by
    rw [h.2] at hj
    cases hj
  | found :: founds, p, tops, ids, h, j, hj => by
    obtain ⟨top, rest, mine, others, rfl, rfl, hhead, hfound, hall⟩ := h
    rcases List.mem_append.1 hj with hj | hj
    · rcases Spread.exists_parent found hfound hhead j hj with ⟨rfl, hp⟩ | ⟨q, hq, hp, hmem⟩
      · exact .inl ⟨by simp, hp⟩
      · exact .inr ⟨q, by simp [hq], hp, hmem⟩
    · rcases SpreadAll.exists_parent founds hall j hj with ⟨hmem, hp⟩ | ⟨q, hq, hp, hmem⟩
      · exact .inl ⟨List.mem_cons_of_mem _ hmem, hp⟩
      · exact .inr ⟨q, by simp [hq], hp, hmem⟩

end

theorem Spread.parent?_head (h : a.Spread parent found ids) (hhead : ids.head? = some top) : a.parent? top = parent := by
  cases found with
  | entry name metadata founds =>
    obtain ⟨id, tops, below, rfl, hid, -⟩ := h
    obtain rfl : id = top := Option.some.inj hhead
    exact parent?_of_get? hid

theorem SpreadAll.mem_tops (h : a.SpreadAll p founds tops ids) (hj : j ∈ tops) : j ∈ ids ∧ a.parent? j = some p := by
  induction founds generalizing tops ids with
  | nil =>
    rw [h.1] at hj
    cases hj
  | cons found founds ih =>
    obtain ⟨top, rest, mine, others, rfl, rfl, hhead, hfound, hall⟩ := h
    rcases List.mem_cons.1 hj with rfl | hj
    · exact ⟨List.mem_append_left _ (List.mem_of_mem_head? hhead), hfound.parent?_head hhead⟩
    · exact ⟨List.mem_append_right _ (ih hall hj).1, (ih hall hj).2⟩

mutual

/-- What a slot lists as its children are slots as well, and know it as their parent. -/
theorem Spread.mem_of_mem_children : (found : Collected) → ∀ {parent ids}, a.Spread parent found ids →
    ∀ q ∈ ids, ∀ j ∈ a.children q, j ∈ ids ∧ a.parent? j = some q
  | .entry name metadata founds, parent, ids, h, q, hq, j, hj => by
    obtain ⟨id, tops, below, rfl, hid, hall⟩ := h
    rcases List.mem_cons.1 hq with rfl | hq
    · rw [children_of_get? hid] at hj
      have := hall.mem_tops hj
      exact ⟨List.mem_cons_of_mem _ this.1, this.2⟩
    · have := SpreadAll.mem_of_mem_children founds hall q hq j hj
      exact ⟨List.mem_cons_of_mem _ this.1, this.2⟩

theorem SpreadAll.mem_of_mem_children : (founds : List Collected) → ∀ {p tops ids}, a.SpreadAll p founds tops ids →
    ∀ q ∈ ids, ∀ j ∈ a.children q, j ∈ ids ∧ a.parent? j = some q
  | [], p, tops, ids, h, q, hq, _, _ => by
    rw [h.2] at hq
    cases hq
  | found :: founds, p, tops, ids, h, q, hq, j, hj => by
    obtain ⟨top, rest, mine, others, rfl, rfl, -, hfound, hall⟩ := h
    rcases List.mem_append.1 hq with hq | hq
    · have := Spread.mem_of_mem_children found hfound q hq j hj
      exact ⟨List.mem_append_left _ this.1, this.2⟩
    · have := SpreadAll.mem_of_mem_children founds hall q hq j hj
      exact ⟨List.mem_append_right _ this.1, this.2⟩

end

/-- A found entry whose topmost node is put into a directory stays spread over its slots. -/
theorem Spread.adopt (h : a.Spread none found ids) (hnd : ids.Nodup) (hhead : ids.head? = some top)
    (htop : b.get? top = (a.get? top).map fun n => { n with parent := some p })
    (hrest : ∀ j ∈ ids, j ≠ top → b.get? j = a.get? j) : b.Spread (some p) found ids := by
  cases found with
  | entry name metadata founds =>
    obtain ⟨id, tops, below, rfl, hid, hall⟩ := h
    obtain rfl : id = top := Option.some.inj hhead
    refine ⟨id, tops, below, rfl, by rw [htop, hid]; rfl, SpreadAll.congr founds hall fun j hj => ?_⟩
    exact hrest j (List.mem_cons_of_mem _ hj) fun he => (List.nodup_cons.1 hnd).1 (he ▸ hj)

/-! ## Taking a walk in -/

/-- A found entry can be taken into an arena, into slots that held nothing. -/
def SpreadsOut (found : Collected) : Prop := ∀ a : Arena, a.FreeList → ∃ top ids b,
  a.insertCollected found = .ok (top, b) ∧ ids.head? = some top ∧ TakesUp a b ids ∧ b.Spread none found ids ∧
    ∀ j, j ∉ ids → b.get? j = a.get? j

/-- What was found in a directory can be taken in below its node, into slots that held nothing. -/
def SpreadsBelow (founds : List Collected) : Prop := ∀ (b : Arena) p n, b.FreeList → b.get? p = some n → ∃ tops ids c,
  b.insertChildren p founds = .ok c ∧ TakesUp b c ids ∧ c.SpreadAll p founds tops ids ∧
    c.get? p = some { n with children := n.children ++ tops } ∧ ∀ j, j ∉ ids → j ≠ p → c.get? j = b.get? j

theorem spreadsOut_entry (name : String) (metadata : Metadata) (h : SpreadsBelow founds) :
    SpreadsOut (.entry name metadata founds) := by
  intro a ha
  have hmade := TakesUp.insert ha name metadata
  have hget := ha.get?_insert (Node.ofName name metadata)
  rw [insertCollected]
  generalize a.insert (Node.ofName name metadata) = made at hmade hget
  obtain ⟨id, b⟩ := made
  obtain ⟨tops, ids, c, hc, hup, hall, hid, hkept⟩ := h b id _ hmade.freeList ((hget id).trans (if_pos rfl))
  refine ⟨id, id :: ids, c, by simp only [hc]; rfl, rfl, hmade.trans hup, ⟨id, tops, ids, rfl, hid, hall⟩,
    fun j hj => ?_⟩
  rw [List.mem_cons, not_or] at hj
  rw [hkept j hj.2 hj.1, hget, if_neg hj.1]

theorem spreadsBelow_nil : SpreadsBelow [] := fun b p n hb hn =>
  ⟨[], [], b, rfl, .nil hb, ⟨rfl, rfl⟩, by simpa using hn, fun _ _ _ => rfl⟩

/-- The first entry is taken in and put into the directory, and then the others are. -/
theorem spreadsBelow_cons (hfirst : SpreadsOut found) (hrest : SpreadsBelow founds) : SpreadsBelow (found :: founds) := by
  intro b p n hb hn
  obtain ⟨top, mine, b₁, h₁, hhead, hup₁, hspread, hkept₁⟩ := hfirst b hb
  have hmem : top ∈ mine := List.mem_of_mem_head? hhead
  have hp : b.contains p = true := contains_iff.2 ⟨n, hn⟩
  have hpm : p ∉ mine := hup₁.not_mem hp
  have hpt : p ≠ top := fun h => hpm (h ▸ hmem)
  -- The topmost node gets its parent, and the directory its child.
  obtain ⟨b₂, h₂, hb₂⟩ : ∃ b₂, b₁.attachNew p top = .ok b₂ ∧ b₂ = (b₁.modify top fun n => { n with parent := some p }).modify
      p fun n => { n with children := n.children ++ [top] } := by
    refine ⟨_, ?_, rfl⟩
    rw [attachNew, (hup₁.contains_iff top).2 (.inr hmem), (hup₁.contains_iff p).2 (.inl hp)]
    rfl
  have hup₂ : TakesUp b b₂ mine := hb₂ ▸ (hup₁.modify _ _).modify _ _
  have hget : ∀ j, j ≠ p → b₂.get? j = if j = top then (b₁.get? j).map fun n => { n with parent := some p } else b₁.get? j := by
    intro j hj
    rw [hb₂, get?_modify, if_neg hj, get?_modify]
  have hold : b₂.get? p = some { n with children := n.children ++ [top] } := by
    rw [hb₂, get?_modify, if_pos rfl, get?_modify, if_neg hpt, hkept₁ p hpm, hn]
    rfl
  obtain ⟨rest, others, c, hc, hup, hall, hpc, hkept⟩ := hrest b₂ p _ hup₂.freeList hold
  have hmine : ∀ j ∈ mine, c.get? j = b₂.get? j := fun j hj =>
    hkept j (hup.not_mem ((hup₂.contains_iff j).2 (.inr hj))) fun he => hpm (he ▸ hj)
  refine ⟨top :: rest, mine ++ others, c, ?_, hup₂.trans hup, ?_, ?_, fun j hj hjp => ?_⟩
  · rw [insertChildren, h₁]
    exact (congrArg (·.bind (·.insertChildren p founds)) h₂).trans hc
  · refine ⟨top, rest, mine, others, rfl, rfl, hhead, ?_, hall⟩
    refine hspread.adopt hup₁.nodup hhead ?_ fun j hj hjt => ?_
    · rw [hmine top hmem, hget top (Ne.symm hpt), if_pos rfl]
    · rw [hmine j hj, hget j fun he : j = p => hpm (he ▸ hj), if_neg hjt]
  · rw [hpc]
    simp
  · rw [List.mem_append, not_or] at hj
    rw [hkept j hj.2 hjp, hget j hjp, if_neg fun he : j = top => hj.1 (he ▸ hmem), hkept₁ j hj.1]

mutual

/-- **Whatever its free slots, an arena takes in what a walk found** into slots that held nothing. -/
theorem spreadsOut : (found : Collected) → SpreadsOut found
  | .entry name metadata founds => spreadsOut_entry name metadata (spreadsBelow founds)

theorem spreadsBelow : (founds : List Collected) → SpreadsBelow founds
  | [] => spreadsBelow_nil
  | found :: founds => spreadsBelow_cons (spreadsOut found) (spreadsBelow founds)

end

/-- What an arena gains by taking in what a walk found: below a topmost node without a parent there are nodes that are
listed as their entries were found, with links that lead down and up alike. Their slots held nothing before, and all
others hold what they held. -/
structure Gains (a b : Arena) (found : Collected) (top : NodeId) : Prop where
  shows : b.Shows found top
  listed : (b.subtree top).map b.finding? = found.preorder.map fun f => some (f.name, f.metadata)
  parent?_top : b.parent? top = none
  mem_children : ∀ q ∈ b.subtree top, ∀ j, j ∈ b.children q ↔ j ∈ b.subtree top ∧ b.parent? j = some q
  nodup : (b.subtree top).Nodup
  unused : ∀ j ∈ b.subtree top, a.contains j = false
  kept : ∀ j, j ∉ b.subtree top → b.get? j = a.get? j
  live : b.live = a.live + found.size
  occupied : b.occupied = a.occupied + found.size
  freeList : b.FreeList

/-- **An arena gains what a walk found**, whatever its free slots. -/
theorem FreeList.gains (ha : a.FreeList) (found : Collected) :
    ∃ top b, a.insertCollected found = .ok (top, b) ∧ Gains a b found top := by
  obtain ⟨top, ids, b, hb, hhead, hup, hspread, hkept⟩ := spreadsOut found a ha
  have hlen := Spread.length_eq found hspread
  have hsub : b.subtree top = ids := Spread.subtreeTo_eq found hspread hhead (hlen ▸ hup.length_le)
  have hlinks : ∀ q ∈ ids, ∀ j, j ∈ b.children q ↔ j ∈ ids ∧ b.parent? j = some q := by
    intro q hq j
    refine ⟨Spread.mem_of_mem_children found hspread q hq j, fun ⟨hj, hp⟩ => ?_⟩
    rcases Spread.exists_parent found hspread hhead j hj with ⟨-, hnone⟩ | ⟨i, -, hi, hmem⟩
    · exact absurd (hp.symm.trans hnone) nofun
    · obtain rfl := Option.some.inj (hi.symm.trans hp)
      exact hmem
  refine ⟨top, b, hb, ?_⟩
  subst hsub
  exact ⟨Spread.shows found hspread hhead, Spread.map_finding? found hspread, hspread.parent?_head hhead, hlinks, hup.nodup,
    hup.unused, hkept, hlen ▸ hup.live, hlen ▸ hup.occupied_eq ha, hup.freeList⟩

end Arena

/-! ## A walk and what an arena makes of it -/

open Entry (Reaches)

end FileIndex
