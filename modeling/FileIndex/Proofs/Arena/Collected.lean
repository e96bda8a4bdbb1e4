/-
Taking a walk into an arena. What a walk found is a tree of names and metadata, and the nodes that are
made of it are that tree again (`Shows`); the arena has grown by them and by nothing else.
-/
import FileIndex.Proofs.Arena.Growth
import FileIndex.Walk

namespace FileIndex

/-- Two nodes that cannot be told apart by what a walk finds. -/
structure Node.SameFinding (n m : Node) : Prop where
  name : m.name = n.name
  metadata : m.metadata = n.metadata
  children : m.children = n.children

namespace Arena

variable {a b c : Arena} {id j p top : NodeId} {n : Node} {found : Collected} {founds : List Collected}
  {ids : List NodeId}

mutual

/-- A node and the nodes below it are what a walk found. -/
def Shows (a : Arena) : Collected → NodeId → Prop
  | .entry name metadata children, id =>
    ∃ n, a.get? id = some n ∧ n.name = name ∧ n.metadata = metadata ∧ ShowsAll a children n.children

/-- Nodes are one by one what a walk found in a directory. -/
def ShowsAll (a : Arena) : List Collected → List NodeId → Prop
  | [], ids => ids = []
  | c :: rest, ids => ∃ id more, ids = id :: more ∧ Shows a c id ∧ ShowsAll a rest more

end

mutual

theorem Shows.congr (ha : a.WellFormed) : (found : Collected) → ∀ {id}, a.Shows found id →
    (∀ j n, a.Below id j → a.get? j = some n → ∃ m, b.get? j = some m ∧ n.SameFinding m) →
    b.Shows found id
  | .entry name metadata children, id, h, hsame => by
    rw [Shows] at h ⊢
    obtain ⟨n, hn, rfl, rfl, hall⟩ := h
    obtain ⟨m, hm, hs⟩ := hsame id n (.refl a id) hn
    refine ⟨m, hm, hs.name, hs.metadata, ?_⟩
    rw [hs.children]
    refine ShowsAll.congr ha children hall fun i hi j k hj => hsame j k ((Below.single ?_).trans hj)
    rwa [← ha.mem_children, children_of_get? hn]

theorem ShowsAll.congr (ha : a.WellFormed) : (founds : List Collected) → ∀ {ids}, a.ShowsAll founds ids →
    (∀ i ∈ ids, ∀ j n, a.Below i j → a.get? j = some n → ∃ m, b.get? j = some m ∧ n.SameFinding m) →
    b.ShowsAll founds ids
  | [], _, h, _ => h
  | c :: rest, _, h, hsame => by
    rw [ShowsAll] at h ⊢
    obtain ⟨i, more, rfl, hc, hrest⟩ := h
    exact ⟨i, more, rfl, Shows.congr ha c hc (hsame i (by simp)),
      ShowsAll.congr ha rest hrest fun k hk => hsame k (by simp [hk])⟩

end

/-! ## Growing by a walk -/

/-- The arena has grown by what a walk found. -/
structure Taken (a b : Arena) (found : Collected) (top : NodeId) : Prop
    extends Sprouted a b none top where
  shows : b.Shows found top

/-- The arena has grown by what a walk found in the directory of a node: the new nodes are the last of its
children. -/
structure TakenBelow (b c : Arena) (p : NodeId) (n : Node) (founds : List Collected) (ids : List NodeId) :
    Prop where
  get?_parent : c.get? p = some { n with children := n.children ++ ids }
  get?_old : ∀ j, b.contains j = true → j ≠ p → c.get? j = b.get? j
  shows : c.ShowsAll founds ids
  unknown : ∀ j m, ¬b.contains j = true → c.get? j = some m → m.knownPath = none
  /-- To whatever tree the node belongs, that tree has grown. -/
  grown : ∀ a parent top, Grown a b parent top → b.Below top p → Grown a c parent top

/-- Whatever the arena, walks found in a directory can be taken in below a node. -/
def TakesBelow (founds : List Collected) : Prop :=
  ∀ b p n, b.WellFormed → b.get? p = some n →
    ∃ c ids, b.insertChildren p founds = .ok c ∧ TakenBelow b c p n founds ids

/-- An entry is taken in once what lies in it can be. -/
theorem WellFormed.taken_entry {name : String} {metadata : Metadata} (ha : a.WellFormed)
    (hall : TakesBelow founds) :
    ∃ id b, a.insertCollected (.entry name metadata founds) = .ok (id, b) ∧
      Taken a b (.entry name metadata founds) id := by
  have hg := ha.grown_insert (n := Node.ofName name metadata) rfl rfl
  have hget := FreeList.get?_insert ha.toFreeList (Node.ofName name metadata)
  rw [insertCollected]
  generalize a.insert (Node.ofName name metadata) = made at hg hget
  obtain ⟨id, b⟩ := made
  have hself : b.get? id = some (Node.ofName name metadata) := by rw [hget, if_pos rfl]
  obtain ⟨c, ids, hc, h⟩ := hall b id _ hg.wellFormed hself
  have hgc := h.grown a none id hg (.refl b id)
  refine ⟨id, c, by simp only [hc]; rfl, ⟨hgc, fun j n hj hn => ?_⟩, ?_⟩
  · by_cases hji : j = id
    · subst hji
      rw [h.get?_parent, Option.some.injEq] at hn
      exact hn ▸ rfl
    · refine h.unknown j n ?_ hn
      rw [contains, hget, if_neg hji]
      exact hgc.fresh j hj
  · rw [Shows]
    exact ⟨_, h.get?_parent, rfl, rfl, h.shows⟩

theorem takesBelow_nil : TakesBelow [] := fun b _ n _ hn =>
  ⟨b, [], rfl, by simpa using hn, fun _ _ _ => rfl, rfl,
    fun j m hj hm => absurd (contains_iff.2 ⟨m, hm⟩) hj, fun _ _ _ h _ => h⟩

/-- The first entry becomes a child, and then the others do. -/
theorem takesBelow_cons
    (hfirst : ∀ a, a.WellFormed → ∃ id b, a.insertCollected found = .ok (id, b) ∧ Taken a b found id)
    (hrest : TakesBelow founds) : TakesBelow (found :: founds) := by
  intro b p n hb hn
  have hp : b.contains p = true := contains_iff.2 ⟨n, hn⟩
  obtain ⟨id, b₁, h₁, ht⟩ := hfirst b hb
  obtain ⟨b₂, h₂, hg, hbelow, hget⟩ := ht.toGrown.attachNew hp
  have hold : b₂.get? p = some (n.withChild id) := by rw [hg.get?_old p hp, hn]; simp
  obtain ⟨c, ids, hc, h⟩ := hrest b₂ p _ hg.wellFormed hold
  have hshow : b₂.Shows found id := Shows.congr ht.wellFormed _ ht.shows fun j m hj hm => by
    refine ⟨if j = id then { m with parent := some p } else m, by rw [hget j hj, hm]; rfl, ?_⟩
    split <;> exact ⟨rfl, rfl, rfl⟩
  have hidp : ∀ j, b₂.Below id j → j ≠ p := by
    rintro j hj rfl
    exact hg.wellFormed.acyclic hg.parent?_top hj
  refine ⟨c, id :: ids, ?_, ?_, fun j hj hjp => ?_, ?_, fun j m hj hm => ?_, fun a parent top k hk => ?_⟩
  · rw [insertChildren, h₁]
    exact (congrArg (·.bind (·.insertChildren p founds)) h₂).trans hc
  · rw [h.get?_parent]
    simp [Node.withChild]
  · have hkept : b₂.get? j = b.get? j := by
      rw [hg.get?_old j hj]
      simp [Ne.symm hjp]
    rw [h.get?_old j (hg.contains_old hj) hjp, hkept]
  · rw [ShowsAll]
    refine ⟨id, ids, rfl, Shows.congr hg.wellFormed _ hshow fun j m hj hm => ⟨m, ?_, rfl, rfl, rfl⟩, h.shows⟩
    rw [h.get?_old j (contains_iff.2 ⟨m, hm⟩) (hidp j hj), hm]
  · by_cases hj₂ : b₂.contains j = true
    · have hjn : b₂.Below id j := ((hg.contains_iff j).1 hj₂).resolve_left hj
      rw [h.get?_old j hj₂ (hidp j hjn), hget j ((hbelow j).1 hjn), Option.map_eq_some_iff] at hm
      obtain ⟨k, hk, rfl⟩ := hm
      have := ht.unknown j k ((hbelow j).1 hjn) hk
      split <;> exact this
    · exact h.unknown j m hj₂ hm
  · exact h.grown a parent top (k.inside hk hg) ((hg.below_old hb hp).2 hk)

mutual

/-- Taking in what a walk found never fails. -/
theorem WellFormed.taken : (found : Collected) → ∀ {a : Arena}, a.WellFormed →
    ∃ id b, a.insertCollected found = .ok (id, b) ∧ Taken a b found id
  | .entry _ _ children, _, ha => ha.taken_entry (takesBelow children)

theorem takesBelow : (founds : List Collected) → TakesBelow founds
  | [] => takesBelow_nil
  | found :: rest => takesBelow_cons (fun _ ha => WellFormed.taken found ha) (takesBelow rest)

end

end Arena

end FileIndex
