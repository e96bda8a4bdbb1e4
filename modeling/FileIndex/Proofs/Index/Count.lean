/-
The number of entries. Additions, removals and renames adjust it by the nodes that they tell of; nothing adjusts it
when a node is read again. So the number is right as long as an operation tells of entries only, of all of them
that come or go, and turns no root with more or less than one node below it from a directory into something else
or back (`Effect.Accounts`). A run counts its entries exactly as long as every step does so.
-/
import FileIndex.Proofs.Index.Run

namespace FileIndex

open Arena

/-- Whether an effect tells the number of entries all that it does to them. What is told of are nodes: those that
come or go, except the directory at the root of an area. -/
def Effect.Accounts (x : Index) : Effect → Prop
  | .idle | .refuse => True
  -- Growth without an answer is told to nobody.
  | .grow _ _ b none => ∀ j, b.contains j = true → ¬x.arena.contains j = true → ¬b.Searchable j
  | .grow _ t b (some top) =>
    ∀ j, b.Below top j → b.Searchable j ∨ j = top ∧ Index.isBare b t top = true
  | .cut t id =>
    ∀ j, x.arena.Below id j → x.arena.Searchable j ∨ j = id ∧ Index.isBare x.arena t id = true
  -- What is replaced is told of if it was found at the new path.
  | .rename id name _ replaced => ∀ s, x.arena.rival? id name = some s →
    ∀ j, x.arena.Below s j → (x.arena.Searchable j ↔ replaced ≠ [])
  -- The kind of a topmost node decides about all nodes below it.
  | .update id f => x.arena.parent? id = none →
    (x.arena.modify id f).isDirectory id ≠ x.arena.isDirectory id → (x.arena.subtree id).length = 2

/-- Whether an operation tells the number of entries all that it does to them. A collect counts anew. -/
def Index.Accounts (x : Index) (d : Disk) : Operation → Prop
  | .edit e => (e.effect x d).Accounts x
  | _ => True

namespace Index

variable {x y : Index} {t : Tree} {a b : Arena} {id j top : NodeId} {ts : List Tree} {e : Effect}
  {d : Disk} {o : Operation} {l : List NodeId}

/-! ## What is told -/

theorem not_searchable_of_isBare (h : Forest a ts) (ht : t ∈ ts) (hb : isBare a t id = true) :
    ¬a.Searchable id := by
  simp only [isBare, Bool.and_eq_true, decide_eq_true_eq, Bool.not_eq_true'] at hb
  obtain ⟨⟨hr, hc⟩, hd⟩ := hb
  have htop : a.parent? id = none := by
    cases hp : a.parent? id with
    | none => rfl
    | some p =>
      rw [(h.child_iff t ht).2 ⟨id, p, hr, hp⟩] at hc
      cases hc
  rw [searchable_iff (h.live_root ht hr) htop (.refl a id)]
  exact fun hs => hs.1 hd rfl

/-- The nodes below one that are entries are all of them but a bare root. -/
theorem countP_add_bare {P : NodeId → Bool} {bare : Bool} (hn : l.Nodup) (ht : top ∈ l)
    (hP : bare = true → P top = false) : l.countP P + (if bare then 1 else 0) = l.length ↔
      ∀ j ∈ l, P j = true ∨ j = top ∧ bare = true := by
  cases bare with
  | true => simpa using countP_succ_eq_length hn ht (hP rfl)
  | false => simp

/-- The numbers that an effect adjusts the number of entries by: what it adds and what it takes away. -/
def told (x : Index) : Effect → Nat × Nat
  | .grow _ t b (some top) => ((b.subtree top).length, if isBare b t top then 1 else 0)
  | .cut t id => (if isBare x.arena t id then 1 else 0, (x.arena.subtree id).length)
  | .rename _ _ _ replaced => (0, replaced.length)
  | _ => (0, 0)

theorem Realizes.size (h : Realizes x e y) : y.size = x.size + (x.told e).1 - (x.told e).2 := by
  cases h with
  | idle => rfl
  | refuse _ _ _ ht => exact ht.size
  | @grow _ _ _ _ _ made _ _ _ _ _ _ hnone hsome =>
    cases made with
    | none => exact (hnone rfl).size
    | some top => exact (hsome top rfl).size
  | cut _ _ _ _ _ _ ht => exact ht.size
  | rename _ _ _ _ _ _ _ ht => exact ht.size
  | update _ _ _ _ _ _ ht => exact ht.size

theorem Realizes.counter (h : Realizes x e y) (hc : x.counter = x.size) : y.counter = y.size := by
  cases h with
  | idle => exact hc
  | refuse _ _ _ ht => exact ht.counter hc
  | @grow _ _ _ _ _ made _ _ _ _ _ _ hnone hsome =>
    cases made with
    | none => exact (hnone rfl).counter hc
    | some top => exact (hsome top rfl).counter hc
  | cut _ _ _ _ _ _ ht => exact ht.counter hc
  | rename _ _ _ _ _ _ _ ht => exact ht.counter hc
  | update _ _ _ _ _ _ ht => exact ht.counter hc

/-! ## Entries that come and go -/

/-- Growth: the new entries are among the nodes below the new one. -/
theorem entryIds_perm_grown {parent : Option NodeId} (hx : x.Sound) (hy : y.Sound)
    (hg : Grown x.arena b parent top) (hal : Alike b y.arena) :
    y.entryIds.Perm (x.entryIds ++ (b.subtree top).filter (· ∈ y.entryIds)) := by
  have hmem : ∀ j, j ∈ y.entryIds ↔ b.Searchable j := fun j => hy.mem_entryIds.trans (hal.searchable j)
  refine hy.entryIds_perm ?_ fun j => ?_
  · refine List.nodup_append'.2 ⟨hx.nodup_entryIds, (hg.wellFormed.nodup_subtree top).filter _, ?_⟩
    intro j hj hk
    exact hg.fresh j (hg.wellFormed.below_of_mem_subtree (List.mem_filter.1 hk).1)
      (hx.mem_entryIds.1 hj).live
  · rw [List.mem_append, List.mem_filter, decide_eq_true_eq, hx.mem_entryIds, hmem,
      hg.wellFormed.mem_subtree hg.contains_top, hal.searchable]
    constructor
    · rintro (hj | ⟨-, hj⟩)
      · exact (hg.searchable_old hx.wellFormed hj.live).2 hj
      · exact hj
    · intro hj
      rcases (hg.contains_iff j).1 hj.live with ho | hn
      · exact .inl ((hg.searchable_old hx.wellFormed ho).1 hj)
      · exact .inr ⟨hn, hj⟩

theorem length_entryIds_grown {parent : Option NodeId} (hx : x.Sound) (hy : y.Sound)
    (hg : Grown x.arena b parent top) (hal : Alike b y.arena) :
    y.entryIds.length = x.entryIds.length + (b.subtree top).countP (· ∈ y.entryIds) := by
  rw [List.countP_eq_length_filter, ← List.length_append]
  exact (entryIds_perm_grown hx hy hg hal).length_eq

/-- A cut: the lost entries are among the nodes below the lost one. -/
theorem entryIds_perm_cut (hx : x.Sound) (hy : y.Sound) (hid : x.arena.contains id = true)
    (hm : ∀ j, y.arena.Searchable j ↔ x.arena.Searchable j ∧ ¬x.arena.Below id j) :
    x.entryIds.Perm (y.entryIds ++ (x.arena.subtree id).filter (· ∈ x.entryIds)) := by
  refine hx.entryIds_perm ?_ fun j => ?_
  · refine List.nodup_append'.2 ⟨hy.nodup_entryIds, (hx.wellFormed.nodup_subtree id).filter _, ?_⟩
    intro j hj hk
    exact ((hm j).1 (hy.mem_entryIds.1 hj)).2
      (hx.wellFormed.below_of_mem_subtree (List.mem_filter.1 hk).1)
  · rw [List.mem_append, List.mem_filter, decide_eq_true_eq, hx.mem_entryIds, hy.mem_entryIds, hm,
      hx.wellFormed.mem_subtree hid]
    tauto

theorem length_entryIds_cut (hx : x.Sound) (hy : y.Sound) (hid : x.arena.contains id = true)
    (hm : ∀ j, y.arena.Searchable j ↔ x.arena.Searchable j ∧ ¬x.arena.Below id j) :
    x.entryIds.length = y.entryIds.length + (x.arena.subtree id).countP (· ∈ x.entryIds) := by
  rw [List.countP_eq_length_filter, ← List.length_append]
  exact (entryIds_perm_cut hx hy hid hm).length_eq

/-- A change in place: the entries that do not stand below the changed node are the same. -/
theorem length_entryIds_split (hx : x.Sound) (id : NodeId) :
    x.entryIds.length = (x.entryIds.filter (· ∉ x.arena.subtree id)).length +
      (x.arena.subtree id).countP (· ∈ x.entryIds) := by
  rw [List.countP_eq_length_filter, ← List.length_append]
  refine (hx.entryIds_perm ?_ fun j => ?_).length_eq
  · refine List.nodup_append'.2 ⟨hx.nodup_entryIds.filter _, (hx.wellFormed.nodup_subtree id).filter _, ?_⟩
    intro j hj hk
    exact (by simpa using (List.mem_filter.1 hj).2 : j ∉ _) (List.mem_filter.1 hk).1
  · simp only [List.mem_append, List.mem_filter, decide_eq_true_eq, hx.mem_entryIds]
    tauto

theorem length_entryIds_congr (hx : x.Sound) (hy : y.Sound)
    (hm : ∀ j, y.arena.Searchable j ↔ x.arena.Searchable j) : y.entryIds.length = x.entryIds.length :=
  (hy.entryIds_perm hx.nodup_entryIds fun j => hx.mem_entryIds.trans (hm j).symm).length_eq

theorem countP_entryIds_eq_zero (h : x.Sound) : l.countP (· ∈ x.entryIds) = 0 ↔
    ∀ j ∈ l, ¬x.arena.Searchable j := by
  simp only [List.countP_eq_zero, decide_eq_true_eq, h.mem_entryIds]

theorem countP_entryIds_eq_length (h : x.Sound) : l.countP (· ∈ x.entryIds) = l.length ↔
    ∀ j ∈ l, x.arena.Searchable j := by
  simp only [List.countP_eq_length, decide_eq_true_eq, h.mem_entryIds]

/-- Without a bare root, and if there is one without that, all nodes below a node are entries exactly if they are
as many as it is told. -/
theorem countP_entryIds_add_bare (h : x.Sound) (ha : a.WellFormed) (ht : t ∈ x.trees) (hl : Alike a x.arena)
    (hid : a.contains id = true) :
    (a.subtree id).countP (· ∈ x.entryIds) + (if isBare a t id then 1 else 0) = (a.subtree id).length ↔
      ∀ j, a.Below id j → a.Searchable j ∨ j = id ∧ isBare a t id = true := by
  rw [countP_add_bare (ha.nodup_subtree id) (ha.self_mem_subtree hid)]
  · simp only [decide_eq_true_eq, h.mem_entryIds, hl.searchable, ha.mem_subtree hid]
  · intro hb
    rw [decide_eq_false_iff_not, h.mem_entryIds]
    refine not_searchable_of_isBare h.forest ht ?_
    have hd := isDirectory_of_core (hl.core id)
    unfold isDirectory at hd
    rwa [isBare, hd]

/-! ## When the number stays right -/

/-- Whether an index has its entries counted, and the effect that led to it subtracted no more than there was. -/
def Adds (x y : Index) (e : Effect) : Prop := y.Tallied ∧ (x.told e).2 ≤ x.size + (x.told e).1

theorem adds_of_grown {parent : Option NodeId} {i : Nat} {made : Option NodeId} (hx : x.Sound)
    (hy : y.Sound) (ht : x.Tallied) (h : Realizes x (.grow i t b made) y) (hm : t ∈ y.trees)
    (hg : Grown x.arena b parent top) (hal : Alike b y.arena) (hmade : made = some top ∨ made = none) :
    Adds x y (.grow i t b made) ↔ Effect.Accounts x (.grow i t b made) := by
  have hlen := length_entryIds_grown hx hy hg hal
  have hsize := h.size
  have hcounter := h.counter ht.counter
  have htally := ht.size
  rcases hmade with rfl | rfl
  · have hiff := countP_entryIds_add_bare hy hg.wellFormed hm hal hg.contains_top
    have hpos : 0 < (b.subtree top).length :=
      List.length_pos_of_mem (hg.wellFormed.self_mem_subtree hg.contains_top)
    simp only [Effect.Accounts, ← hiff]
    simp only [told] at hsize
    simp only [Adds, told]
    have hle : (if isBare b t top then 1 else 0) ≤ 1 := by split <;> omega
    generalize (if isBare b t top = true then 1 else 0) = bare at hsize hle ⊢
    constructor
    · rintro ⟨⟨hs, -⟩, -⟩
      omega
    · intro heq
      exact ⟨⟨by omega, hcounter⟩, by omega⟩
  · simp only [told, Nat.add_zero, Nat.sub_zero] at hsize
    have hiff : (b.subtree top).countP (· ∈ y.entryIds) = 0 ↔ Effect.Accounts x (.grow i t b none) := by
      rw [countP_entryIds_eq_zero hy]
      simp only [Effect.Accounts, hal.searchable, hg.wellFormed.mem_subtree hg.contains_top]
      constructor
      · exact fun hall j hj hn => hall j (((hg.contains_iff j).1 hj).resolve_left hn)
      · exact fun hall j hj => hall j ((hg.contains_iff j).2 (.inr hj)) (hg.fresh j hj)
    rw [← hiff]
    constructor
    · rintro ⟨⟨hs, -⟩, -⟩
      omega
    · intro heq
      exact ⟨⟨by omega, hcounter⟩, by simp [told]⟩

theorem adds_of_same (hx : x.Sound) (hy : y.Sound) (ht : x.Tallied) (h : Realizes x e y)
    (htold : x.told e = (0, 0)) (hm : ∀ j, y.arena.Searchable j ↔ x.arena.Searchable j) : Adds x y e := by
  have hsize := h.size
  rw [htold] at hsize
  refine ⟨⟨?_, h.counter ht.counter⟩, by simp [htold]⟩
  rw [length_entryIds_congr hx hy hm, hsize, ht.size]
  rfl

theorem adds_of_cut (hx : x.Sound) (hy : y.Sound) (ht : x.Tallied) (h : Realizes x (.cut t id) y)
    (hm : t ∈ x.trees) (hid : x.arena.contains id = true) (hc : Cut x.arena y.arena id) :
    Adds x y (.cut t id) ↔ Effect.Accounts x (.cut t id) := by
  have hlen := length_entryIds_cut hx hy hid fun j => hc.searchable hx.wellFormed
  have hiff := countP_entryIds_add_bare hx hx.wellFormed hm (.refl _) hid
  have hsize := h.size
  have hcounter := h.counter ht.counter
  have htally := ht.size
  simp only [Effect.Accounts, ← hiff]
  simp only [told] at hsize
  simp only [Adds, told]
  generalize (if isBare x.arena t id = true then 1 else 0) = bare at hsize ⊢
  constructor
  · rintro ⟨⟨hs, -⟩, hle⟩
    omega
  · intro heq
    exact ⟨⟨by omega, hcounter⟩, by omega⟩

theorem adds_of_rename {name : String} {old : Path} {replaced : List NodeId} (hx : x.Sound) (hy : y.Sound)
    (ht : x.Tallied) (h : Realizes x (.rename id name old replaced) y)
    (hr : replaced = [] ∨ ∃ s, x.arena.rival? id name = some s ∧ replaced = x.arena.subtree s)
    (hm : ∀ j, y.arena.Searchable j ↔
      x.arena.Searchable j ∧ ∀ s, x.arena.rival? id name = some s → ¬x.arena.Below s j) :
    Adds x y (.rename id name old replaced) ↔ Effect.Accounts x (.rename id name old replaced) := by
  cases hs : x.arena.rival? id name with
  | none =>
    simp only [hs, reduceCtorEq, false_implies, implies_true, and_true] at hm
    have hnil : replaced = [] := hr.resolve_right fun ⟨s, he, _⟩ => by rw [hs] at he; cases he
    subst hnil
    exact iff_of_true (adds_of_same hx hy ht h rfl hm) fun s he => by rw [hs] at he; cases he
  | some s =>
    simp only [hs, Option.some.injEq, forall_eq'] at hm hr
    obtain ⟨-, -, p, -, hsp, -⟩ := rival?_spec hx.wellFormed hs
    have hlive := contains_of_parent? hsp
    have hlen := length_entryIds_cut hx hy hlive hm
    have hsize := h.size
    have hcounter := h.counter ht.counter
    have htally := ht.size
    have hmem := fun j => hx.wellFormed.mem_subtree hlive (j := j)
    simp only [told, Nat.add_zero] at hsize
    simp only [Effect.Accounts, Adds, told, hs, Option.some.injEq, forall_eq', ← hmem]
    rcases hr with rfl | ⟨_, rfl, rfl⟩
    · -- Nothing is told, so none of the lost nodes may be an entry.
      simp only [ne_eq, not_true_eq_false, iff_false, ← countP_entryIds_eq_zero hx]
      constructor
      · rintro ⟨⟨hs, -⟩, -⟩
        simp only [List.length_nil, Nat.sub_zero] at hsize
        omega
      · intro heq
        simp only [List.length_nil, Nat.sub_zero] at hsize
        exact ⟨⟨by omega, hcounter⟩, Nat.zero_le _⟩
    · have hne : x.arena.subtree s ≠ [] := List.ne_nil_of_mem (hx.wellFormed.self_mem_subtree hlive)
      simp only [ne_eq, hne, not_false_eq_true, iff_true, ← countP_entryIds_eq_length hx]
      constructor
      · rintro ⟨⟨hs, -⟩, hle⟩
        omega
      · intro heq
        exact ⟨⟨by omega, hcounter⟩, by omega⟩

/-- Where the kind of a topmost node changes, either all nodes below it were entries and it becomes one, or it was
one and all below it become entries. -/
theorem countP_entryIds_top (h : x.Sound) (hid : x.arena.contains id = true)
    (htop : x.arena.parent? id = none) :
    (x.arena.subtree id).countP (· ∈ x.entryIds) =
      if x.arena.isDirectory id then (x.arena.subtree id).length - 1 else 1 := by
  have hself := h.wellFormed.self_mem_subtree hid
  have hnd := h.wellFormed.nodup_subtree id
  have hmem : ∀ j ∈ x.arena.subtree id, j ∈ x.entryIds ↔ (x.arena.isDirectory id = true ↔ j ≠ id) :=
    fun j hj => by
      have hb := h.wellFormed.below_of_mem_subtree hj
      rw [h.mem_entryIds, searchable_iff (hb.contains hid) htop hb]
  split
  · rename_i hd
    have := (countP_succ_eq_length (P := fun j => decide (j ∈ x.entryIds)) hnd hself (by
      simp [hmem id hself, hd])).2 fun j hj => by simp [hmem j hj, hd, em']
    omega
  · rename_i hd
    rw [List.countP_congr (q := (· == id)) fun j hj => by simp [hmem j hj, hd]]
    exact List.count_eq_one_of_mem hnd hself

theorem adds_of_update {f : Node → Node} (hx : x.Sound) (hy : y.Sound) (ht : x.Tallied)
    (h : Realizes x (.update id f) y) (hid : x.arena.contains id = true) (hf : InPlace f)
    (hal : Alike (x.arena.modify id f) y.arena) :
    Adds x y (.update id f) ↔ Effect.Accounts x (.update id f) := by
  have hl : SameLinks x.arena y.arena := (sameLinks_modify hf.parent hf.children).trans hal.sameLinks
  have hd : ∀ j, y.arena.isDirectory j = (x.arena.modify id f).isDirectory j := fun j =>
    isDirectory_of_core (hal.core j)
  have hother : ∀ j, j ≠ id → y.arena.isDirectory j = x.arena.isDirectory j := fun j hj => by
    rw [hd, isDirectory, get?_modify, if_neg hj, isDirectory]
  by_cases hflip : x.arena.parent? id = none ∧ y.arena.isDirectory id ≠ x.arena.isDirectory id
  · obtain ⟨htop, hflip⟩ := hflip
    -- Away from the changed node the entries are the same.
    have hrest : (y.entryIds.filter (· ∉ y.arena.subtree id)).length =
        (x.entryIds.filter (· ∉ x.arena.subtree id)).length := by
      refine List.Perm.length_eq ((List.perm_ext_iff_of_nodup (hy.nodup_entryIds.filter _)
        (hx.nodup_entryIds.filter _)).2 fun j => ?_)
      simp only [List.mem_filter, decide_eq_true_eq, hl.subtree, hx.mem_entryIds, hy.mem_entryIds,
        hx.wellFormed.mem_subtree hid]
      refine and_congr_left fun hj => ?_
      constructor
      · rintro ⟨hlive, top, htop', hb, hs⟩
        rw [hl.contains] at hlive
        rw [hl.parent?] at htop'
        rw [hl.below] at hb
        rw [hother top fun he => hj (he ▸ hb)] at hs
        exact ⟨hlive, top, htop', hb, hs⟩
      · rintro ⟨hlive, top, htop', hb, hs⟩
        rw [← hother top fun he => hj (he ▸ hb)] at hs
        exact ⟨by rwa [hl.contains], top, by rwa [hl.parent?], by rwa [hl.below], hs⟩
    have hlx := length_entryIds_split hx id
    have hly := length_entryIds_split hy id
    rw [countP_entryIds_top hx hid htop] at hlx
    rw [countP_entryIds_top hy (by rwa [hl.contains]) (by rwa [hl.parent?]), hrest, hl.subtree] at hly
    have hsize := h.size
    have hcounter := h.counter ht.counter
    have htally := ht.size
    have hpos : 0 < (x.arena.subtree id).length :=
      List.length_pos_of_mem (hx.wellFormed.self_mem_subtree hid)
    simp only [told, Nat.add_zero, Nat.sub_zero] at hsize
    have hcond : Effect.Accounts x (.update id f) ↔ (x.arena.subtree id).length = 2 := by
      simp only [Effect.Accounts, ← hd]
      exact ⟨fun hall => hall htop hflip, fun heq _ _ => heq⟩
    rw [hcond]
    simp only [Adds, told, Nat.zero_le, and_true]
    have hcase : y.entryIds.length = x.entryIds.length ↔ (x.arena.subtree id).length = 2 := by
      cases hdx : x.arena.isDirectory id <;> cases hdy : y.arena.isDirectory id
      · exact absurd (hdy.trans hdx.symm) hflip
      · simp only [hdx, hdy, if_true, Bool.false_eq_true, if_false] at hlx hly
        omega
      · simp only [hdx, hdy, if_true, Bool.false_eq_true, if_false] at hlx hly
        omega
      · exact absurd (hdy.trans hdx.symm) hflip
    rw [← hcase]
    constructor
    · rintro ⟨hs, -⟩
      omega
    · exact fun heq => ⟨by omega, hcounter⟩
  · refine iff_of_true (adds_of_same hx hy ht h rfl fun j => searchable_congr hl fun top htop => ?_) ?_
    · by_cases hne : top = id
      · subst hne
        by_contra hdir
        exact hflip ⟨htop, hdir⟩
      · exact hother top hne
    · intro htop hne
      rw [← hd] at hne
      exact absurd ⟨htop, hne⟩ hflip

/-- **The number stays right exactly if the effect accounts for its entries.** -/
theorem Realizes.adds_iff (hx : x.Sound) (ht : x.Tallied) (h : Realizes x e y) (hs : e.Spares x) :
    Adds x y e ↔ e.Accounts x := by
  have hy := h.sound hx hs
  have hrun := h
  cases h with
  | idle => exact iff_of_true (adds_of_same hx hy ht hrun rfl fun _ => .rfl) trivial
  | refuse hal _ _ _ => exact iff_of_true (adds_of_same hx hy ht hrun rfl hal.searchable) trivial
  | @grow i t t' p b made _ hi hout hal _ htrees _ _ =>
    have hm : t' ∈ y.trees := by
      rw [htrees]
      exact List.mem_set (List.getElem?_eq_some_iff.1 hi).1 t'
    cases hout with
    | unchanged =>
      exact iff_of_true (adds_of_same hx hy ht hrun rfl hal.searchable) fun j hj hn => absurd hj hn
    | root _ hg hmade | below _ _ hg hmade =>
      exact adds_of_grown hx hy ht hrun hm hg.toGrown hal (hmade.imp_right And.left)
  | cut hm hid hc _ _ _ _ => exact adds_of_cut hx hy ht hrun hm hid hc
  | rename _ hr hal _ hc _ _ _ =>
    exact adds_of_rename hx hy ht hrun hr fun j => searchable_renamed hx.wellFormed hal hc
  | update hid hf hal _ _ _ _ => exact adds_of_update hx hy ht hrun hid hf hal

/-! ## Runs -/

/-- Whether behind an operation the number of entries is that of a recount and of the entries that a search goes
over, also for those who look from outside. Nothing was subtracted that was not there: with more entries counted
before, as many more would be counted behind. -/
structure CountsEntries (x : Index) (d : Disk) (o : Operation) : Prop where
  entries : ∃ ids, (x.after d o).entries = .ok ids ∧ ids.length = (x.after d o).size
  recount : sumCounts (x.after d o).arena (x.after d o).topTrees = .ok (x.after d o).size
  counter : (x.after d o).counter = (x.after d o).size
  subtracts : (∃ areas c, o = .collect areas c) ∨
    ∀ k, (({ x with size := x.size + k } : Index).after d o).size = (x.after d o).size + k

theorem Sound.tallied_iff (h : y.Sound) : y.Tallied ↔ (∃ ids, y.entries = .ok ids ∧ ids.length = y.size) ∧
    sumCounts y.arena y.topTrees = .ok y.size ∧ y.counter = y.size := by
  rw [h.entries_eq, h.sumCounts_eq]
  constructor
  · rintro ⟨hs, hc⟩
    exact ⟨⟨_, rfl, hs.symm⟩, by rw [hs], hc⟩
  · rintro ⟨⟨ids, hids, hs⟩, -, hc⟩
    cases hids
    exact ⟨hs.symm, hc⟩

theorem effect_raised (x : Index) (k : Nat) (d : Disk) (e : Edit) :
    e.effect { x with size := x.size + k } d = e.effect x d := by
  cases e <;> rfl

/-- Adjusting by the same numbers from higher up shows whether a subtraction was cut short. -/
theorem subtracts_iff (h : x.Sound) (e : Edit) :
    (∀ k, (({ x with size := x.size + k } : Index).after d (.edit e)).size =
      (x.after d (.edit e)).size + k) ↔
      (x.told (e.effect x d)).2 ≤ x.size + (x.told (e.effect x d)).1 := by
  have hsize := (ends_edit h d e).realizes.size
  have hraised : ∀ k, (({ x with size := x.size + k } : Index).after d (.edit e)).size =
      x.size + k + (x.told (e.effect x d)).1 - (x.told (e.effect x d)).2 := fun k => by
    have hk : ({ x with size := x.size + k } : Index).Sound := h.congr rfl rfl
    have := (ends_edit hk d e).realizes.size
    rw [effect_raised] at this
    exact this
  change (x.after d (.edit e)).size = _ at hsize
  simp only [hraised, hsize]
  constructor
  · intro hall
    have := hall (x.told (e.effect x d)).2
    omega
  · intro hle k
    omega

/-- An operation that spares the roots counts its entries exactly if it accounts for them. -/
theorem countsEntries_iff_accounts (hx : x.Sound) (ht : x.Tallied) (hs : SparesRoots x d o) :
    (CountsEntries x d o ↔ Accounts x d o) ∧ (Accounts x d o → (x.after d o).Tallied) := by
  have hy := (hx.after hs).1
  have hiff : CountsEntries x d o ↔ (x.after d o).Tallied ∧ ((∃ areas c, o = .collect areas c) ∨
      ∀ k, (({ x with size := x.size + k } : Index).after d o).size = (x.after d o).size + k) := by
    rw [hy.tallied_iff]
    exact ⟨fun h => ⟨⟨h.entries, h.recount, h.counter⟩, h.subtracts⟩, fun h => ⟨h.1.1, h.1.2.1, h.1.2.2, h.2⟩⟩
  have hraise : ∀ k, ({ x with size := x.size + k } : Index).Sound := fun k => hx.congr rfl rfl
  rw [hiff]
  cases o with
  | collect areas c =>
    obtain ⟨r, z, hz, -, htz, -⟩ := perform_collect hx hs
    have htz : (x.after d (.collect areas c)).Tallied := by
      rw [after, Operation.work, perform_discard, hz]
      exact htz
    exact ⟨iff_of_true ⟨htz, .inl ⟨areas, c, rfl⟩⟩ trivial, fun _ => htz⟩
  | edit e =>
    have hadds := (ends_edit hx d e).realizes.adds_iff hx ht hs
    have hsub := subtracts_iff (d := d) hx e
    simp only [reduceCtorEq, exists_false, false_or, hsub]
    exact ⟨hadds, fun ha => (hadds.2 ha).1⟩
  | search queries c =>
    have hu : ∀ z : Index, z.Sound → Undisturbed z (z.after d (.search queries c)) := fun z hz => by
      have := (perform_multiSearch hz queries c).1
      rwa [after, Operation.work, perform_discard]
    have htz : (x.after d (.search queries c)).Tallied := by
      refine ⟨?_, ?_⟩
      · rw [(hu x hx).size, length_entryIds_congr hx hy (hu x hx).searchable, ht.size]
      · rw [(hu x hx).counter, (hu x hx).size, ht.counter]
    refine ⟨iff_of_true ⟨htz, .inr fun k => ?_⟩ trivial, fun _ => htz⟩
    rw [(hu _ (hraise k)).size, (hu x hx).size]
  | live q c =>
    have hu : ∀ z : Index, z.Sound → ∃ y, Undisturbed z y ∧ (z.after d (.live q c)).arena = y.arena ∧
        (z.after d (.live q c)).size = y.size ∧ (z.after d (.live q c)).counter = y.counter := fun z hz => by
      obtain ⟨y, hu, hy⟩ := (perform_subscribedSearch hz q c).1
      rw [after, Operation.work, perform_discard]
      rcases hy with hy | hy <;> rw [hy] <;> exact ⟨y, hu, rfl, rfl, rfl⟩
    obtain ⟨u, hu', ha, hs', hc⟩ := hu x hx
    have htz : (x.after d (.live q c)).Tallied := by
      refine ⟨?_, by rw [hc, hs', hu'.counter, hu'.size, ht.counter]⟩
      rw [hs', hu'.size, ht.size, length_entryIds_congr hx hy fun j => by rw [ha, hu'.searchable]]
    refine ⟨iff_of_true ⟨htz, .inr fun k => ?_⟩ trivial, fun _ => htz⟩
    obtain ⟨v, hv, -, hvs, -⟩ := hu _ (hraise k)
    rw [hvs, hv.size, hs', hu'.size]
  | watch on =>
    have hw : ∀ z : Index, z.Sound → (z.after d (.watch on)).arena = z.arena ∧
        (z.after d (.watch on)).size = z.size ∧ (z.after d (.watch on)).counter = z.counter := fun z hz => by
      obtain ⟨u, hu, -, ha, hs, hc, -⟩ := perform_setWatching hz d on
      rw [after, Operation.work, hu]
      exact ⟨ha, hs, hc⟩
    obtain ⟨ha, hs', hc⟩ := hw x hx
    have htz : (x.after d (.watch on)).Tallied := by
      refine ⟨?_, by rw [hc, hs', ht.counter]⟩
      rw [hs', length_entryIds_congr hx hy fun j => by rw [ha], ht.size]
    refine ⟨iff_of_true ⟨htz, .inr fun k => ?_⟩ trivial, fun _ => htz⟩
    rw [(hw _ (hraise k)).2.1, hs']

/-- **A run that keeps its roots counts its entries exactly if every step accounts for them.** -/
theorem countsEntries_iff (s : Settings) (run : List (Disk × Operation)) :
    Throughout (fun x d o => KeepsRoots x d o ∧ CountsEntries x d o) (ofSettings s) run ↔
      Throughout (fun x d o => SparesRoots x d o ∧ Accounts x d o) (ofSettings s) run := by
  refine along_iff (I := fun x => x.Sound ∧ x.Tallied) ⟨sound_ofSettings s, rfl, rfl⟩
    (fun x i ⟨hx, ht⟩ => ?_) fun x i ⟨hx, ht⟩ ⟨hs, ha⟩ => ?_
  · simp only [hx.keeps_iff_spares]
    exact and_congr_right fun hs => (countsEntries_iff_accounts hx ht hs).1
  · exact ⟨(hx.after hs).1, (countsEntries_iff_accounts hx ht hs).2 ha⟩

/-! ## A number that goes wrong -/

/-- A disk with one entry. -/
def rootDisk (e : Entry) : Disk := ⟨.directory [("a", e)]⟩

/-- A directory with two files. -/
def filled : Entry := .directory [("x", .file (.zeros 0) 0 false), ("y", .file (.zeros 0) 0 false)]

/-- The index of that directory. -/
def filledIndex : Index where
  arena :=
    { slots := #[
        some { name := "a", fuzzy := "A", word := "A", metadata := filled.metadata, anchor := some ⟨""⟩,
               children := [⟨1⟩, ⟨2⟩] },
        some { name := "x", fuzzy := "X", word := "X", metadata := {}, parent := some ⟨0⟩ },
        some { name := "y", fuzzy := "Y", word := "Y", metadata := {}, parent := some ⟨0⟩ }]
      live := 3 }
  trees := [{ area := ⟨⟨"a"⟩, true⟩, root := some ⟨0⟩, includeHidden := true }]
  size := 2
  counter := 2

theorem after_collect_filled :
    (ofSettings {}).after (rootDisk filled) (.collect [⟨⟨"a"⟩, true⟩] {}) = filledIndex := by
  cbv

/-- **Not every run counts its entries**: a directory at the root of an area can become a file. -/
theorem not_forall_countsEntries : ¬∀ s run, Throughout CountsEntries (ofSettings s) run := by
  intro h
  have hrun := h {} [(rootDisk filled, .collect [⟨⟨"a"⟩, true⟩] {}),
    (rootDisk (.file (.zeros 0) 0 false), .edit (.refresh none ⟨"a"⟩))]
  simp only [Throughout, Along, step, after_collect_filled] at hrun
  have hafter : (filledIndex.after (rootDisk (.file (.zeros 0) 0 false))
      (.edit (.refresh none ⟨"a"⟩))).entries = .ok [⟨0⟩] ∧
      (filledIndex.after (rootDisk (.file (.zeros 0) 0 false)) (.edit (.refresh none ⟨"a"⟩))).size = 2 := by
    cbv
  obtain ⟨ids, hids, hlen⟩ := hrun.2.1.entries
  rw [hafter.1, Except.ok.injEq] at hids
  rw [hafter.2, ← hids] at hlen
  simp at hlen

end Index

end FileIndex
