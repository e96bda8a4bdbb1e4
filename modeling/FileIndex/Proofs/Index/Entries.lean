/-
The entries of a sound index. A search goes over the nodes below each topmost directory, and over a topmost
node that is no directory (`Arena.Searchable`); the trees list them, each once, and count them.
-/
import FileIndex.Index.Search
import FileIndex.Proofs.Index.Perform
import FileIndex.Proofs.Index.Sound
import FileIndex.Proofs.Outcome
import FileIndex.Proofs.Tree.Change
import FileIndex.Proofs.Tree.Mirrors

namespace FileIndex

open Arena

variable {a b : Arena} {ts : List Tree} {t : Tree} {id j r s top : NodeId}

namespace Arena

/-- Whether a slot holds a directory. -/
def isDirectory (a : Arena) (id : NodeId) : Bool := (a.get? id).any (·.isDirectory)

/-- Whether a search goes over a node: one below a topmost directory, or a topmost node that is none. -/
structure Searchable (a : Arena) (id : NodeId) : Prop where
  live : a.contains id = true
  found : ∃ top, a.parent? top = none ∧ a.Below top id ∧ (a.isDirectory top = true ↔ id ≠ top)

theorem isDirectory_eq_core (a : Arena) (id : NodeId) :
    a.isDirectory id = (a.core? id).any (·.isDirectory) := by
  unfold isDirectory core?
  cases a.get? id <;> rfl

theorem Mirrors.isDirectory {e : Entry} (h : a.Mirrors id e) : a.isDirectory id = e.isDirectory := by
  obtain ⟨n, hn, hs⟩ := Option.map_eq_some_iff.1 h.seen
  rw [Arena.isDirectory, hn, Option.any_some, Node.isDirectory, ← Metadata.isDirectory_seen, hs,
    Metadata.isDirectory_seen, Entry.isDirectory_metadata]

theorem isDirectory_of_core (h : b.core? id = a.core? id) : b.isDirectory id = a.isDirectory id := by
  rw [isDirectory_eq_core, isDirectory_eq_core, h]

theorem Below.eq_top {i j : NodeId} (h : a.Below i id) (k : a.Below j id) (hi : a.parent? i = none)
    (hj : a.parent? j = none) : i = j := by
  rcases h.total k with hb | hb
  · exact hb.eq_of_parent?_eq_none hj
  · exact (hb.eq_of_parent?_eq_none hi).symm

/-- With the topmost node above it known, a node can be judged. -/
theorem searchable_iff (hlive : a.contains id = true) (ht : a.parent? top = none) (hb : a.Below top id) :
    a.Searchable id ↔ (a.isDirectory top = true ↔ id ≠ top) := by
  constructor
  · rintro ⟨-, s, hs, hsb, h⟩
    rwa [← hsb.eq_top hb hs ht]
  · exact fun h => ⟨hlive, top, ht, hb, h⟩

/-- What can be searched depends on the links and on the kinds of the topmost nodes. -/
theorem searchable_congr (hl : SameLinks a b)
    (hd : ∀ top, a.parent? top = none → b.isDirectory top = a.isDirectory top) :
    b.Searchable id ↔ a.Searchable id := by
  constructor
  · rintro ⟨hlive, top, ht, hb, h⟩
    rw [hl.contains] at hlive
    rw [hl.parent?] at ht
    rw [hl.below] at hb
    rw [hd top ht] at h
    exact ⟨hlive, top, ht, hb, h⟩
  · rintro ⟨hlive, top, ht, hb, h⟩
    rw [← hl.contains] at hlive
    rw [← hd top ht] at h
    rw [← hl.parent?] at ht
    rw [← hl.below] at hb
    exact ⟨hlive, top, ht, hb, h⟩

/-- A list of nodes without repetition holds a node, and a test fails on that node: then the test passes on all
others exactly if it passes once less than the list is long. -/
theorem countP_succ_eq_length {l : List NodeId} {P : NodeId → Bool} (hn : l.Nodup) (ht : top ∈ l)
    (hP : P top = false) : l.countP P + 1 = l.length ↔ ∀ j ∈ l, P j = true ∨ j = top := by
  have hperm := List.perm_cons_erase ht
  have hnd := List.nodup_cons.1 (hperm.nodup_iff.1 hn)
  rw [hperm.countP_eq, hperm.length_eq, List.countP_cons_of_neg (by simp [hP]), List.length_cons,
    Nat.add_right_cancel_iff, List.countP_eq_length]
  constructor
  · intro h j hj
    by_cases hjt : j = top
    · exact .inr hjt
    · exact .inl (h j ((List.mem_erase_of_ne hjt).2 hj))
  · intro h j hj
    refine (h j (List.mem_of_mem_erase hj)).resolve_right ?_
    rintro rfl
    exact hnd.1 hj

/-! ## Growth and cuts -/

theorem Grown.searchable_old {parent : Option NodeId} (h : Grown a b parent top) (ha : a.WellFormed)
    (hj : a.contains j = true) : b.Searchable j ↔ a.Searchable j := by
  obtain ⟨s, hs, hb⟩ := ha.grounded hj
  have hlive := ha.contains_of_below hb hj
  have hd : b.isDirectory s = a.isDirectory s := by
    rw [isDirectory, h.get?_old s hlive, isDirectory]
    cases a.get? s with
    | none => rfl
    | some n =>
      simp only [Option.map_some, Option.any_some]
      split <;> rfl
  rw [searchable_iff hj hs hb, searchable_iff (h.contains_old hj) (by rw [h.parent?_old hlive, hs])
    ((h.below_old ha hj).2 hb), hd]

theorem Cut.searchable_rest (h : Cut a b id) (ha : a.WellFormed) (hj : ¬a.Below id j) :
    b.Searchable j ↔ a.Searchable j := by
  by_cases hlive : a.contains j = true
  · obtain ⟨s, hs, hb⟩ := ha.grounded hlive
    have hns : ¬a.Below id s := fun hd => hj (hd.trans hb)
    have hd : b.isDirectory s = a.isDirectory s := by
      rw [isDirectory, h.get?_rest s hns, isDirectory]
      cases a.get? s <;> rfl
    rw [searchable_iff hlive hs hb, searchable_iff (h.contains_iff.2 ⟨hlive, hj⟩)
      (by rw [h.parent?_rest hns, hs]) ((h.below_rest hj).2 hb), hd]
  · exact ⟨fun hs => absurd (h.contains_iff.1 hs.live).1 hlive, fun hs => absurd hs.live hlive⟩

theorem Cut.searchable (h : Cut a b id) (ha : a.WellFormed) :
    b.Searchable j ↔ a.Searchable j ∧ ¬a.Below id j := by
  constructor
  · intro hs
    have hj := h.not_below hs.live
    exact ⟨(h.searchable_rest ha hj).1 hs, hj⟩
  · exact fun hs => (h.searchable_rest ha hs.2).2 hs.1

theorem Alike.searchable (h : Alike a b) (id : NodeId) : b.Searchable id ↔ a.Searchable id :=
  searchable_congr h.sameLinks fun top _ => isDirectory_of_core (h.core top)

/-- After a rename what can be searched is what could be, without the rival and what stood below it. -/
theorem searchable_renamed {c : Arena} {name : String} (h : a.WellFormed) (hal : Alike a b)
    (hc : Alike ((b.cleared id name).renamed id name) c) : c.Searchable j ↔
      a.Searchable j ∧ ∀ s, a.rival? id name = some s → ¬a.Below s j := by
  have hb := hal.sameLinks.wellFormed h
  have hren : ((b.cleared id name).renamed id name).Searchable j ↔ (b.cleared id name).Searchable j := by
    refine searchable_congr (sameLinks_renamed _ id name) fun top _ => ?_
    rw [isDirectory_eq_core, core?_renamed, isDirectory_eq_core]
    split
    · cases (b.cleared id name).core? top <;> rfl
    · rfl
  rw [hc.searchable, hren, Arena.cleared, hal.rival?]
  cases hs : a.rival? id name with
  | none => simp [hal.searchable]
  | some s => simp [(hb.cut_cutAt s).searchable hb, hal.searchable, hal.sameLinks.below]

end Arena

/-! ## The entries of a tree -/

namespace Tree

/-- The entries of a tree whose root is in the arena. -/
def entryIds (t : Tree) (a : Arena) : List NodeId :=
  match t.root with
  | none => []
  | some root => if a.isDirectory root then (a.subtree root).tail else [root]

theorem items_eq (h : ∀ r, t.root = some r → a.contains r = true) : t.items a = .ok (t.entryIds a) := by
  unfold items entryIds
  cases hr : t.root with
  | none => rfl
  | some r =>
    obtain ⟨n, hn⟩ := contains_iff.1 (h r hr)
    simp only [get_of_get? hn, ok_bind, isDirectory, hn, Option.any_some, pure_eq_ok]

theorem count_eq (h : ∀ r, t.root = some r → a.contains r = true) :
    t.count a = .ok (t.entryIds a).length := by
  unfold count entryIds
  cases hr : t.root with
  | none => rfl
  | some r =>
    obtain ⟨n, hn⟩ := contains_iff.1 (h r hr)
    simp only [get_of_get? hn, ok_bind, isDirectory, hn, Option.any_some, pure_eq_ok]
    split <;> simp [descendants]

theorem mem_tail_subtree (h : a.WellFormed) (hr : a.contains r = true) :
    j ∈ (a.subtree r).tail ↔ a.Below r j ∧ j ≠ r := by
  have hnd := h.nodup_subtree r
  have hmem := h.mem_subtree hr (j := j)
  rw [h.subtree_eq hr] at hnd hmem ⊢
  rw [List.tail_cons]
  constructor
  · intro hj
    refine ⟨hmem.1 (List.mem_cons_of_mem _ hj), ?_⟩
    rintro rfl
    exact (List.nodup_cons.1 hnd).1 hj
  · rintro ⟨hb, hne⟩
    exact (List.mem_cons.1 (hmem.2 hb)).resolve_left hne

theorem mem_entryIds (h : a.WellFormed) (hr : t.root = some r) (hlive : a.contains r = true) :
    j ∈ t.entryIds a ↔ a.Below r j ∧ (a.isDirectory r = true ↔ j ≠ r) := by
  unfold entryIds
  rw [hr]
  dsimp only
  split
  · rename_i hd
    rw [mem_tail_subtree h hlive]
    simp [hd]
  · rename_i hd
    simp only [hd, List.mem_singleton, Bool.false_eq_true, false_iff, not_not]
    constructor
    · rintro rfl
      exact ⟨.refl a j, rfl⟩
    · exact fun h => h.2

theorem nodup_entryIds (h : a.WellFormed) (t : Tree) : (t.entryIds a).Nodup := by
  unfold entryIds
  split
  · exact List.nodup_nil
  · split
    · exact (h.nodup_subtree _).tail
    · exact List.nodup_singleton _

end Tree

/-! ## The entries of an index -/

namespace Index

variable {x y : Index}

/-- The entries of an index whose roots are in the arena. -/
def entryIds (x : Index) : List NodeId := x.topTrees.flatMap fun t => t.entryIds x.arena

theorem itemsOf_eq (h : ∀ t ∈ ts, ∀ r, t.root = some r → a.contains r = true) :
    itemsOf a ts = .ok (ts.flatMap fun t => t.entryIds a) := by
  induction ts with
  | nil => rfl
  | cons t ts ih =>
    rw [itemsOf, Tree.items_eq (h t (by simp)), ih fun u hu => h u (by simp [hu])]
    rfl

theorem sumCounts_eq (h : ∀ t ∈ ts, ∀ r, t.root = some r → a.contains r = true) :
    sumCounts a ts = .ok (ts.flatMap fun t => t.entryIds a).length := by
  induction ts with
  | nil => rfl
  | cons t ts ih =>
    rw [sumCounts, Tree.count_eq (h t (by simp)), ih fun u hu => h u (by simp [hu]), List.flatMap_cons,
      List.length_append]
    rfl

theorem Sound.topTrees_live (h : x.Sound) :
    ∀ t ∈ x.topTrees, ∀ r, t.root = some r → x.arena.contains r = true := fun _ ht =>
  h.contains_root (List.mem_filter.1 ht).1

theorem Sound.entries_eq (h : x.Sound) : x.entries = .ok x.entryIds := itemsOf_eq h.topTrees_live

theorem Sound.sumCounts_eq (h : x.Sound) : sumCounts x.arena x.topTrees = .ok x.entryIds.length :=
  Index.sumCounts_eq h.topTrees_live

/-- The root of a tree that counts as no child has no parent. -/
theorem Sound.parent?_root (h : x.Sound) (ht : t ∈ x.trees) (hc : t.isChild = false)
    (hr : t.root = some r) : x.arena.parent? r = none := by
  cases hp : x.arena.parent? r with
  | none => rfl
  | some p =>
    rw [(h.forest.child_iff t ht).2 ⟨r, p, hr, hp⟩] at hc
    cases hc

/-- The entries are the nodes that a search goes over. -/
theorem Sound.mem_entryIds (h : x.Sound) : j ∈ x.entryIds ↔ x.arena.Searchable j := by
  unfold entryIds
  rw [List.mem_flatMap]
  constructor
  · rintro ⟨t, ht, hj⟩
    obtain ⟨ht, hc⟩ := List.mem_filter.1 ht
    cases hr : t.root with
    | none => simp [Tree.entryIds, hr] at hj
    | some r =>
      have hlive := h.forest.live_root ht hr
      obtain ⟨hb, hd⟩ := (Tree.mem_entryIds h.wellFormed hr hlive).1 hj
      exact ⟨hb.contains hlive, r, h.parent?_root ht (by simpa using hc) hr, hb, hd⟩
  · rintro ⟨hlive, top, ht, hb, hd⟩
    obtain ⟨t, hm, r, hr, hrp, hrb, hc⟩ := h.forest.exists_top hlive
    obtain rfl := hrb.eq_top hb hrp ht
    exact ⟨t, List.mem_filter.2 ⟨hm, by simp [hc]⟩,
      (Tree.mem_entryIds h.wellFormed hr (h.forest.live_root hm hr)).2 ⟨hb, hd⟩⟩

theorem Sound.nodup_entryIds (h : x.Sound) : x.entryIds.Nodup := by
  unfold entryIds topTrees
  have hsound : ∀ t ∈ x.trees.filter (!·.isChild), t ∈ x.trees ∧ t.isChild = false := fun t ht => by
    simpa using List.mem_filter.1 ht
  have hdist : (Tree.roots (x.trees.filter (!·.isChild))).Nodup :=
    h.forest.distinct.sublist (List.filter_sublist.filterMap _)
  generalize x.trees.filter (!·.isChild) = ts at hsound hdist
  induction ts with
  | nil => exact List.nodup_nil
  | cons t ts ih =>
    rw [Tree.roots_cons] at hdist
    obtain ⟨-, hrest, hdis⟩ := List.nodup_append'.1 hdist
    rw [List.flatMap_cons]
    refine List.nodup_append'.2 ⟨Tree.nodup_entryIds h.wellFormed t,
      ih (fun u hu => hsound u (by simp [hu])) hrest, ?_⟩
    -- An entry of two trees stands below the roots of both, so these are the same root.
    intro j hj hj'
    obtain ⟨u, hu, hju⟩ := List.mem_flatMap.1 hj'
    obtain ⟨ht, htc⟩ := hsound t (by simp)
    obtain ⟨hut, huc⟩ := hsound u (by simp [hu])
    cases hr : t.root with
    | none => simp [Tree.entryIds, hr] at hj
    | some r =>
      cases hs : u.root with
      | none => simp [Tree.entryIds, hs] at hju
      | some s =>
        have hb := ((Tree.mem_entryIds h.wellFormed hr (h.forest.live_root ht hr)).1 hj).1
        have hb' := ((Tree.mem_entryIds h.wellFormed hs (h.forest.live_root hut hs)).1 hju).1
        obtain rfl := hb.eq_top hb' (h.parent?_root ht htc hr) (h.parent?_root hut huc hs)
        exact hdis (by simp [hr]) (Tree.mem_roots_of_root hu hs)

/-- The entries in another order: any list of the nodes that a search goes over. -/
theorem Sound.entryIds_perm (h : x.Sound) {l : List NodeId} (hl : l.Nodup)
    (hm : ∀ j, j ∈ l ↔ x.arena.Searchable j) : x.entryIds.Perm l :=
  (List.perm_ext_iff_of_nodup h.nodup_entryIds hl).2 fun j => h.mem_entryIds.trans (hm j).symm

theorem perform_recount (h : x.Sound) :
    x.perform recount = (.ok x.entryIds.length, x.setSize x.entryIds.length) := by
  simp only [recount, perform_bind, perform_get, perform_lift, h.sumCounts_eq, perform_modify,
    perform_pure]

end Index

end FileIndex
