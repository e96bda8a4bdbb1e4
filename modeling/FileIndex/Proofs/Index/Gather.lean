/-
Collecting up to the point where trees adopt each other. The arena is then flat: its topmost nodes are the
roots of the trees and nothing else (`Flat`). Separating makes a forest flat, and releasing and building
trees keep it so.
-/
import FileIndex.Index.Collect
import FileIndex.Proofs.Arena.Collected
import FileIndex.Proofs.Index.Perform
import FileIndex.Proofs.Index.Sound
import FileIndex.Proofs.Tree.Stands

namespace FileIndex

open Arena

variable {a b : Arena} {ts us : List Tree} {t u : Tree} {roots others : List NodeId}
  {id j r top : NodeId}

/-! ## Flat arenas -/

/-- An arena in order whose topmost nodes are the given ones. -/
structure Flat (a : Arena) (roots : List NodeId) : Prop where
  wellFormed : a.WellFormed
  nodup : roots.Nodup
  mem_iff : ∀ j, j ∈ roots ↔ a.contains j = true ∧ a.parent? j = none

namespace Flat

theorem perm (h : Flat a roots) (hp : others.Perm roots) : Flat a others :=
  ⟨h.wellFormed, hp.nodup_iff.2 h.nodup, fun j => hp.mem_iff.trans (h.mem_iff j)⟩

theorem forest (h : Flat a (Tree.roots ts)) (hc : ∀ t ∈ ts, t.isChild = false) : Forest a ts where
  wellFormed := h.wellFormed
  live r hr := ((h.mem_iff r).1 hr).1
  distinct := h.nodup
  child_iff t ht := by
    rw [hc t ht]
    simp only [Bool.false_eq_true, false_iff]
    rintro ⟨r, p, hr, hp⟩
    rw [((h.mem_iff r).1 (Tree.mem_roots_of_root ht hr)).2] at hp
    cases hp
  owned j hj hp := (h.mem_iff j).2 ⟨hj, hp⟩
  merged r hr p hp := by
    rw [((h.mem_iff r).1 hr).2] at hp
    cases hp

theorem cut (h : Flat a (r :: roots)) : Flat (a.cutAt r) roots := by
  have hc := h.wellFormed.cut_cutAt r
  obtain ⟨hr, hnd⟩ := List.nodup_cons.1 h.nodup
  have htop := ((h.mem_iff r).1 (by simp)).2
  refine ⟨hc.wellFormed, hnd, fun j => ?_⟩
  constructor
  · intro hj
    obtain ⟨hl, hp⟩ := (h.mem_iff j).1 (List.mem_cons_of_mem _ hj)
    have hn : ¬a.Below r j := by
      intro hb
      obtain rfl := hb.eq_of_parent?_eq_none hp
      exact hr hj
    exact ⟨hc.contains_iff.2 ⟨hl, hn⟩, by rw [hc.parent?_rest hn, hp]⟩
  · rintro ⟨hl, hp⟩
    obtain ⟨hl, hn⟩ := hc.contains_iff.1 hl
    rw [hc.parent?_rest hn] at hp
    rcases List.mem_cons.1 ((h.mem_iff j).2 ⟨hl, hp⟩) with rfl | hj
    · exact absurd (.refl a j) hn
    · exact hj

theorem grown (h : Flat a roots) (hg : Grown a b none top) : Flat b (top :: roots) := by
  refine ⟨hg.wellFormed, List.nodup_cons.2 ⟨fun hm => ?_, h.nodup⟩, fun j => ?_⟩
  · exact hg.fresh top (.refl b top) ((h.mem_iff top).1 hm).1
  · rw [List.mem_cons]
    constructor
    · rintro (rfl | hj)
      · exact ⟨hg.contains_top, hg.parent?_top⟩
      · obtain ⟨hl, hp⟩ := (h.mem_iff j).1 hj
        exact ⟨hg.contains_old hl, by rw [hg.parent?_old hl, hp]⟩
    · rintro ⟨hl, hp⟩
      rcases (hg.contains_iff j).1 hl with ho | hn
      · exact .inr ((h.mem_iff j).2 ⟨ho, by rw [← hg.parent?_old ho, hp]⟩)
      · exact .inl (hn.eq_of_parent?_eq_none hp).symm

/-- The root of another tree has nothing to do with a cut at a topmost node. -/
theorem steadyBelow_cutAt (h : Flat a (s :: roots)) (hr : r ∈ roots) :
    SteadyBelow a (a.cutAt s) r := by
  have hne : s ≠ r := fun he => (List.nodup_cons.1 h.nodup).1 (he ▸ hr)
  exact (h.wellFormed.cut_cutAt s).steadyBelow h.wellFormed
    (fun hb => hne (hb.eq_of_parent?_eq_none ((h.mem_iff s).1 (by simp)).2).symm)
    fun hb => hne (hb.eq_of_parent?_eq_none ((h.mem_iff r).1 (by simp [hr])).2)

end Flat

namespace Index

/-! ## Separating -/

/-- Taking roots away from their parents leaves all nodes, and all other links. -/
theorem detachRoots_spec (h : a.WellFormed) (hk : a.PathsKnown) (us : List Tree) :
    (detachRoots a us).WellFormed ∧ (detachRoots a us).PathsKnown ∧
      (∀ j, (detachRoots a us).contains j = a.contains j) ∧
      ∀ j, (detachRoots a us).parent? j = if j ∈ Tree.roots us then none else a.parent? j := by
  induction us generalizing a with
  | nil => exact ⟨h, hk, fun _ => rfl, fun _ => by simp [detachRoots]⟩
  | cons u us ih =>
    rw [Tree.roots_cons]
    cases hr : u.root with
    | none =>
      have hfold : detachRoots a (u :: us) = detachRoots a us := by simp [detachRoots, hr]
      rw [hfold, Option.toList_none, List.nil_append]
      exact ih h hk
    | some r =>
      have hfold : detachRoots a (u :: us) = detachRoots (a.detach r).2 us := by simp [detachRoots, hr]
      have hu := (h.detached_detach r).unlinked h
      obtain ⟨hw, hk', hc, hp⟩ := ih (hu.wellFormed h) (hk.detach h r)
      rw [hfold]
      refine ⟨hw, hk', fun j => by rw [hc, hu.contains], fun j => ?_⟩
      rw [hp, hu.parent?]
      by_cases hj : j = r <;> by_cases hm : j ∈ Tree.roots us <;> simp [hj, hm]

/-- Once the children are separated, no root has a parent. -/
theorem flat_separate {x : Index} (h : x.Sound) :
    Flat x.separate.arena (Tree.roots x.trees) ∧ x.separate.arena.PathsKnown := by
  have hf := h.forest
  obtain ⟨hw, hk, hc, hp⟩ := detachRoots_spec hf.wellFormed h.paths (x.trees.filter (·.isChild))
  refine ⟨⟨hw, hf.distinct, fun j => ?_⟩, hk⟩
  change _ ↔ (detachRoots x.arena (x.trees.filter (·.isChild))).contains j = true ∧
    (detachRoots x.arena (x.trees.filter (·.isChild))).parent? j = none
  rw [hc, hp]
  constructor
  · intro hj
    refine ⟨hf.live j hj, ?_⟩
    obtain ⟨t, ht, hr⟩ := Tree.mem_roots.1 hj
    split
    · rfl
    · rename_i hn
      -- A root that was not separated belongs to a tree that is no child.
      cases hpar : x.arena.parent? j with
      | none => rfl
      | some p =>
        have hchild := (hf.child_iff t ht).2 ⟨j, p, hr, hpar⟩
        exact absurd (Tree.mem_roots.2 ⟨t, by simp [ht, hchild], hr⟩) hn
  · rintro ⟨hl, hn⟩
    split at hn
    · rename_i hm
      obtain ⟨t, ht, hr⟩ := Tree.mem_roots.1 hm
      exact Tree.mem_roots_of_root (List.mem_filter.1 ht).1 hr
    · exact hf.owned j hl hn

/-- Taking away roots that do not stand below a node leaves what does as it is. -/
theorem steadyBelow_detachRoots (h : a.WellFormed) (hk : a.PathsKnown)
    (hno : ∀ q ∈ Tree.roots us, a.Below r q → q = r) : SteadyBelow a (detachRoots a us) r := by
  induction us generalizing a with
  | nil => exact steadyBelow_of_get? fun _ _ => rfl
  | cons u us ih =>
    rw [Tree.roots_cons] at hno
    cases hq : u.root with
    | none =>
      have hfold : detachRoots a (u :: us) = detachRoots a us := by simp [detachRoots, hq]
      rw [hfold]
      exact ih h hk fun q hm => hno q (by simp [hm])
    | some q =>
      have hfold : detachRoots a (u :: us) = detachRoots (a.detach q).2 us := by simp [detachRoots, hq]
      have hd := h.detached_detach q
      have hu := hd.unlinked h
      rw [hfold]
      refine (hd.steadyBelow h (hno q (by simp [hq]))).trans ?_ h (hu.wellFormed h)
      exact ih (hu.wellFormed h) (hk.detach h q) fun i hm hb => hno i (by simp [hm]) (hu.below_of_below hb)

/-! ## Releasing -/

theorem release_arena (t : Tree) (a : Arena) : (t.release a).2.2 = t.root.elim a a.cutAt := by
  unfold Tree.release
  cases t.root <;> rfl

/-- Releasing trees leaves the other ones as they are. -/
theorem flat_releaseTrees (h : Flat a (Tree.roots us ++ roots)) (hk : a.PathsKnown) :
    Flat (releaseTrees a us) roots ∧ (releaseTrees a us).PathsKnown ∧
      ∀ r ∈ roots, SteadyBelow a (releaseTrees a us) r := by
  induction us generalizing a with
  | nil => exact ⟨h, hk, fun _ _ => steadyBelow_of_get? fun _ _ => rfl⟩
  | cons u us ih =>
    have hfold : releaseTrees a (u :: us) = releaseTrees (u.root.elim a a.cutAt) us := by
      rw [releaseTrees, List.foldl_cons, release_arena]
      rfl
    rw [hfold]
    rw [Tree.roots_cons] at h
    cases hr : u.root with
    | none =>
      rw [hr] at h
      exact ih h hk
    | some r =>
      rw [hr] at h
      obtain ⟨hflat, hk', hsteady⟩ := ih h.cut (hk.cut h.wellFormed (h.wellFormed.cut_cutAt r))
      refine ⟨hflat, hk', fun q hq => ?_⟩
      exact (h.steadyBelow_cutAt (List.mem_append_right _ hq)).trans (hsteady q hq) h.wellFormed h.cut.wellFormed

/-! ## Building -/

/-- What is left as it was while trees are built. -/
structure BuildFrame (x y : Index) : Prop where
  trees : y.trees = x.trees
  size : y.size = x.size
  counter : y.counter = x.counter
  feed : y.feed = x.feed
  includeHidden : y.includeHidden = x.includeHidden

theorem BuildFrame.trans {x y z : Index} (h : BuildFrame x y) (k : BuildFrame y z) : BuildFrame x z :=
  ⟨k.trees.trans h.trees, k.size.trans h.size, k.counter.trans h.counter, k.feed.trans h.feed,
    k.includeHidden.trans h.includeHidden⟩

/-- Watching a tree changes nothing of it but the watcher. -/
theorem perform_watchTree (d : Disk) (x : Index) (t : Tree)
    (hr : ∀ r, t.root = some r → x.arena.contains r = true) :
    ∃ t' y, x.perform (watchTree d t) = (.ok t', y) ∧ t'.area = t.area ∧ t'.root = t.root ∧
      t'.isChild = t.isChild ∧ t'.includeHidden = t.includeHidden ∧ y.arena = x.arena ∧ BuildFrame x y := by
  have hframe : BuildFrame x x := ⟨rfl, rfl, rfl, rfl, rfl⟩
  simp only [watchTree, perform_bind, perform_get]
  split
  · rename_i root _ hroot
    obtain ⟨n, hn⟩ := contains_iff.1 (hr root hroot)
    simp only [perform_bind, get_of_get? hn, perform_lift]
    split
    · simp only [perform_bind, perform_set, perform_pure]
      exact ⟨_, _, rfl, rfl, rfl, rfl, rfl, rfl, rfl, rfl, rfl, rfl, rfl⟩
    · exact ⟨t, x, rfl, rfl, rfl, rfl, rfl, rfl, hframe⟩
  · exact ⟨t, x, rfl, rfl, rfl, rfl, rfl, rfl, hframe⟩

/-- A tree that is built shows what was found, and all other nodes stay. -/
structure Built (a b : Arena) (wanted : Area) (hidden : Bool) (found : Option Collected) (t : Tree) : Prop where
  area : t.area = wanted
  includeHidden : t.includeHidden = hidden
  noChild : t.isChild = false
  found : Option.Rel b.Shows found t.root
  anchored : ∀ r n, t.root = some r → b.get? r = some n → n.anchor = wanted.path.parent?
  get?_old : ∀ j, a.contains j = true → b.get? j = a.get? j

theorem ofCollected_spec (area : Area) (includeHidden : Bool) (found : Option Collected)
    (h : Flat a roots) (hk : a.PathsKnown) :
    ∃ t b, Tree.ofCollected area includeHidden found a = .ok (t, b) ∧ Built a b area includeHidden found t ∧
      Flat b (t.root.toList ++ roots) ∧ b.PathsKnown := by
  cases found with
  | none =>
    exact ⟨{ area, root := none, includeHidden }, a, rfl, ⟨rfl, rfl, rfl, .none, by rintro _ _ ⟨⟩, fun _ _ => rfl⟩, h, hk⟩
  | some c =>
    obtain ⟨root, b, hb, ht⟩ := h.wellFormed.taken c
    have hs : Sprouted a (b.modify root (·.setAnchor area.path.parent?)) none root :=
      ht.toSprouted.modify [root] (by simpa using .refl b root) (fun _ => rfl) (fun _ => rfl) fun _ _ => rfl
    refine ⟨{ area, root := some root, includeHidden }, _, by rw [Tree.ofCollected, hb, ok_map],
      ⟨rfl, rfl, rfl, .some (Shows.congr ht.wellFormed c ht.shows fun j n _ hn => ?_), ?_, fun j hj => ?_⟩,
      h.grown hs.toGrown, hk.sprouted h.wellFormed hs⟩
    · rw [get?_modify, hn]
      split
      · exact ⟨n.setAnchor area.path.parent?, rfl, ⟨rfl, rfl, rfl⟩⟩
      · exact ⟨n, rfl, ⟨rfl, rfl, rfl⟩⟩
    · intro r n hr hn
      obtain rfl : root = r := Option.some.inj hr
      rw [get?_modify, if_pos rfl] at hn
      obtain ⟨m, -, rfl⟩ := Option.map_eq_some_iff.1 hn
      rfl
    · rw [hs.toGrown.get?_old j hj]
      simp

/-- Trees are built one for each area, with roots of their own. They stand if a walk found what is told. -/
theorem perform_build (d : Disk) (found : List (Area × Option Collected)) {x : Index}
    (h : Flat x.arena roots) (hk : x.arena.PathsKnown) :
    ∃ built y, x.perform (build d found) = (.ok built, y) ∧ built.map (·.area) = found.map (·.1) ∧
      (∀ t ∈ built, t.isChild = false) ∧ Flat y.arena (Tree.roots built ++ roots) ∧
      y.arena.PathsKnown ∧ BuildFrame x y ∧
      (∀ j, x.arena.contains j = true → y.arena.get? j = x.arena.get? j) ∧
      ((∀ f ∈ found, f.2 = Tree.found? d x.includeHidden f.1) →
        ∀ t ∈ built, t.Stands d x.includeHidden y.arena) := by
  induction found generalizing x roots with
  | nil => exact ⟨[], x, rfl, rfl, by simp, h, hk, ⟨rfl, rfl, rfl, rfl, rfl⟩, fun _ _ => rfl, by simp⟩
  | cons f found ih =>
    obtain ⟨area, f⟩ := f
    obtain ⟨t, b, hof, hbuilt, hflat, hk'⟩ := ofCollected_spec area x.includeHidden f h hk
    have harea := hbuilt.area
    have hchild := hbuilt.noChild
    have hroot : ∀ r, t.root = some r → (x.withArena b).arena.contains r = true := fun r hr =>
      ((hflat.mem_iff r).1 (by simp [hr])).1
    obtain ⟨t', y, hwatch, hta, htr, htc, hth, hya, hframe⟩ := perform_watchTree d (x.withArena b) t hroot
    have hfy : Flat y.arena (t.root.toList ++ roots) := by
      rw [hya]
      exact hflat
    have hky : y.arena.PathsKnown := by
      rw [hya]
      exact hk'
    obtain ⟨built, z, hbuild, hareas, hnone, hfz, hkz, hframe', hold, hstands⟩ := ih hfy hky
    have hx : BuildFrame x (x.withArena b) := ⟨rfl, rfl, rfl, rfl, rfl⟩
    refine ⟨t' :: built, z, ?_, ?_, ?_, ?_, hkz, (hx.trans hframe).trans hframe', fun j hj => ?_,
      fun hfound u hu => ?_⟩
    · simp only [build, perform_bind, perform_get, perform_lift, hof, perform_set, hwatch, hbuild,
        perform_pure]
    · rw [List.map_cons, List.map_cons, hareas, hta, harea]
    · intro u hu
      rcases List.mem_cons.1 hu with rfl | hu
      · rw [htc, hchild]
      · exact hnone u hu
    · refine hfz.perm ?_
      rw [Tree.roots_cons, htr, List.append_assoc]
      exact List.perm_append_comm_assoc _ _ _
    · have hjb := hbuilt.get?_old j hj
      rw [hold j (by rwa [hya, withArena, Arena.contains, hjb]), hya]
      exact hjb
    · rcases List.mem_cons.1 hu with rfl | hu
      · have hf : f = Tree.found? d x.includeHidden area := hfound (area, f) (by simp)
        have hstand : t.Stands d x.includeHidden b := by
          refine ⟨hbuilt.includeHidden, ?_, ?_⟩ <;> rw [harea]
          · exact hf ▸ hbuilt.found
          · exact hbuilt.anchored
        refine (hstand.congr hta htr hth).steady hflat.wellFormed fun r hr => steadyBelow_of_get? fun j hj => ?_
        rw [hold j (by rw [hya]; exact hj.contains (hroot r (htr ▸ hr))), hya]
        rfl
      · rw [← (hx.trans hframe).includeHidden] at hfound ⊢
        exact hstands (fun g hg => hfound g (by simp [hg])) u hu

/-! ## Areas -/

theorem mem_insertInto {known : List Area} {a b : Area} (h : b ∈ Area.insertInto known a) :
    b = a ∨ ∃ k ∈ known, k.path = b.path := by
  induction known with
  | nil => simpa [Area.insertInto] using h
  | cons k rest ih =>
    rw [Area.insertInto] at h
    split at h
    · rcases List.mem_cons.1 h with rfl | h
      · exact .inr ⟨k, by simp, rfl⟩
      · exact .inr ⟨b, by simp [h], rfl⟩
    · rcases List.mem_cons.1 h with rfl | h
      · exact .inr ⟨b, by simp, rfl⟩
      · rcases ih h with rfl | ⟨m, hm, hp⟩
        · exact .inl rfl
        · exact .inr ⟨m, by simp [hm], hp⟩

theorem apart_insertInto {known : List Area} (h : Apart known) (a : Area) :
    Apart (Area.insertInto known a) := by
  unfold Apart at h ⊢
  induction known with
  | nil => simp [Area.insertInto]
  | cons k rest ih =>
    obtain ⟨hk, hrest⟩ := List.nodup_cons.1 h
    rw [Area.insertInto]
    split
    · exact List.nodup_cons.2 ⟨hk, hrest⟩
    · rename_i hne
      refine List.nodup_cons.2 ⟨fun hm => ?_, ih hrest⟩
      obtain ⟨b, hb, he⟩ := List.mem_map.1 hm
      rcases mem_insertInto hb with rfl | ⟨m, hm, hp⟩
      · exact hne (same_iff.2 he.symm)
      · exact hk (List.mem_map.2 ⟨m, hm, by rw [hp, he]⟩)

theorem apart_dedup (areas : List Area) : Apart (Area.dedup areas) := by
  have key : ∀ known, Apart known → Apart (areas.foldl Area.insertInto known) := by
    induction areas with
    | nil => exact fun _ h => h
    | cons a areas ih => exact fun known h => ih _ (apart_insertInto h a)
  exact (key [] List.nodup_nil).sublist (List.filter_sublist.map _)

/-- The path of an area that is left is one that was given. -/
theorem exists_of_mem_dedup {areas : List Area} {a : Area} (h : a ∈ Area.dedup areas) : ∃ b ∈ areas, b.path = a.path := by
  have key : ∀ known, a ∈ areas.foldl Area.insertInto known → ∃ b ∈ known ++ areas, b.path = a.path := by
    clear h
    induction areas with
    | nil => exact fun known h => ⟨a, by simpa using h, rfl⟩
    | cons b areas ih =>
      intro known h
      obtain ⟨e, he, hp⟩ := ih _ h
      rcases List.mem_append.1 he with he | he
      · rcases mem_insertInto he with rfl | ⟨k, hk, hkp⟩
        · exact ⟨e, by simp, hp⟩
        · exact ⟨k, by simp [hk], hkp.trans hp⟩
      · exact ⟨e, by simp [he], hp⟩
  exact key [] (List.mem_of_mem_filter h)

theorem Apart.eq_of_same {areas : List Area} {a b : Area} (h : Apart areas) (ha : a ∈ areas)
    (hb : b ∈ areas) (he : a.path.components = b.path.components) : a = b :=
  List.inj_on_of_nodup_map h ha hb he

theorem sameArea_iff {a b : Area} :
    sameArea a b = true ↔ a.path.same b.path = true ∧ a.recursive = b.recursive := by
  simp [sameArea]

/-- Trees with wanted areas are put in another order, and none is lost or doubled. -/
theorem inOrder_perm {wanted : List Area} (hw : Apart wanted)
    (hall : ∀ t ∈ ts, ∃ a ∈ wanted, sameArea a t.area = true) : (inOrder wanted ts).Perm ts := by
  induction wanted generalizing ts with
  | nil =>
    cases ts with
    | nil => exact .nil
    | cons t ts =>
      obtain ⟨a, ha, -⟩ := hall t (by simp)
      simp at ha
  | cons a rest ih =>
    obtain ⟨ha, hrest⟩ := List.nodup_cons.1 hw
    -- The trees of another wanted area are among those that the first area leaves.
    have hleave : inOrder rest ts = inOrder rest (ts.filter fun t => !sameArea a t.area) := by
      refine List.flatMap_congr fun b hb => ?_
      rw [List.filter_filter]
      refine List.filter_congr fun t _ => ?_
      by_cases hbt : sameArea b t.area = true
      · have hat : sameArea a t.area = false := by
          by_contra hat
          have hb' := same_iff.1 (sameArea_iff.1 hbt).1
          have ha' := same_iff.1 (sameArea_iff.1 (by simpa using hat)).1
          exact ha (List.mem_map.2 ⟨b, hb, hb'.trans ha'.symm⟩)
        simp [hbt, hat]
      · simp [hbt]
    have hperm : (inOrder rest (ts.filter fun t => !sameArea a t.area)).Perm
        (ts.filter fun t => !sameArea a t.area) := ih hrest fun t ht => by
      obtain ⟨ht, hna⟩ := List.mem_filter.1 ht
      obtain ⟨b, hb, hbt⟩ := hall t ht
      rcases List.mem_cons.1 hb with rfl | hb
      · simp [hbt] at hna
      · exact ⟨b, hb, hbt⟩
    have : inOrder (a :: rest) ts = ts.filter (fun t => sameArea a t.area) ++ inOrder rest ts := rfl
    rw [this, hleave]
    exact (hperm.append_left _).trans (List.filter_append_perm _ ts)

theorem exists_mem_of_forall₂ {α β : Type} {r : α → β → Prop} {l : List α} {m : List β} {a : α}
    (h : List.Forall₂ r l m) (ha : a ∈ l) : ∃ b ∈ m, r a b := by
  induction h with
  | nil => cases ha
  | @cons first other l m hr _ ih =>
    rcases List.mem_cons.1 ha with rfl | ha
    · exact ⟨other, List.mem_cons_self .., hr⟩
    · obtain ⟨b, hb, hab⟩ := ih ha
      exact ⟨b, List.mem_cons_of_mem _ hb, hab⟩

/-- Where every wanted area has one tree, the trees are put in the order of the areas. -/
theorem inOrder_forall₂ {wanted : List Area} (hts : Apart (ts.map (·.area)))
    (hall : ∀ a ∈ wanted, ∃ t ∈ ts, sameArea a t.area = true) :
    List.Forall₂ (fun a t => sameArea a t.area = true) wanted (inOrder wanted ts) := by
  have hnodup : (ts.map fun t => t.area.path.components).Nodup := by simpa [Apart, Function.comp_def] using hts
  induction wanted with
  | nil => exact .nil
  | cons a rest ih =>
    obtain ⟨t, ht, hat⟩ := hall a (by simp)
    have hone : ts.filter (fun t => sameArea a t.area) = [t] := by
      have hn := (List.Nodup.of_map _ hnodup).filter fun t => sameArea a t.area
      refine List.perm_singleton.1 ((List.perm_ext_iff_of_nodup hn (List.nodup_singleton t)).2
        fun u => ⟨fun hu => ?_, fun hu => List.mem_singleton.1 hu ▸ List.mem_filter.2 ⟨ht, hat⟩⟩)
      obtain ⟨hu, hau⟩ := List.mem_filter.1 hu
      rw [List.mem_singleton]
      refine List.inj_on_of_nodup_map hnodup hu ht ?_
      exact (same_iff.1 (sameArea_iff.1 hau).1).symm.trans (same_iff.1 (sameArea_iff.1 hat).1)
    have hcons : inOrder (a :: rest) ts = ts.filter (fun t => sameArea a t.area) ++ inOrder rest ts := rfl
    rw [hcons, hone]
    exact .cons hat (ih fun b hb => hall b (by simp [hb]))

theorem walk_eq (d : Disk) (a : Area) (hidden : Bool) (c : Cancellation) :
    Tree.walk d a hidden c =
      if c.isActive then ((Tree.found? d hidden a).map .collected).getD .missing else .canceled := by
  rw [Tree.walk, walk, Tree.found?]
  cases c.isActive <;> cases d.find? false a.path <;> rfl

/-- Walks that are not canceled find what is there for each area. -/
theorem walkAll_eq (d : Disk) (hidden : Bool) {c : Cancellation} (hc : c.isActive = true) (areas : List Area) :
    walkAll d hidden c areas = some (areas.map fun a => (a, Tree.found? d hidden a)) := by
  induction areas with
  | nil => rfl
  | cons a areas ih =>
    rw [walkAll, walk_eq, if_pos hc]
    cases hf : Tree.found? d hidden a <;> simp [ih, hf]

/-- If any area was walked, the walks were not canceled. -/
theorem eq_map_of_walkAll {d : Disk} {hidden : Bool} {c : Cancellation} {areas : List Area}
    {found : List (Area × Option Collected)} (h : walkAll d hidden c areas = some found) :
    found = areas.map fun a => (a, Tree.found? d hidden a) := by
  cases areas with
  | nil => simpa [walkAll, eq_comm] using h
  | cons a areas =>
    cases hc : c.isActive with
    | true => exact (Option.some.inj (h.symm.trans (walkAll_eq d hidden hc _)))
    | false =>
      rw [walkAll, walk_eq, hc] at h
      cases h

/-- The areas of the trees that stay and of those that are missing have paths of their own. -/
theorem apart_kept_built {wanted : List Area} {kept built : List Tree} (hw : Apart wanted)
    (hk : Apart (kept.map (·.area))) (hkept : ∀ t ∈ kept, ∃ a ∈ wanted, sameArea a t.area = true)
    (hb : built.map (·.area) = wanted.filter fun a => !kept.any fun t => sameArea a t.area) :
    Apart ((kept ++ built).map (·.area)) := by
  unfold Apart at hw hk ⊢
  rw [List.map_append, List.map_append, hb]
  refine List.nodup_append'.2 ⟨hk, hw.sublist (List.filter_sublist.map _), ?_⟩
  intro cs hcs hcs'
  obtain ⟨_, hmem, rfl⟩ := List.mem_map.1 hcs
  obtain ⟨t, ht, rfl⟩ := List.mem_map.1 hmem
  obtain ⟨b, hbm, he⟩ := List.mem_map.1 hcs'
  obtain ⟨hbw, hnone⟩ := List.mem_filter.1 hbm
  obtain ⟨a, ha, hat⟩ := hkept t ht
  -- Both are the area that was wanted at that path.
  obtain rfl : a = b := Apart.eq_of_same hw ha hbw ((same_iff.1 (sameArea_iff.1 hat).1).trans he.symm)
  simp only [Bool.not_eq_true', List.any_eq_false] at hnone
  exact hnone t ht hat

/-! ## Gathering -/

/-- An index whose trees have adopted none of each other. -/
structure Gathering (y : Index) : Prop where
  flat : Flat y.arena (Tree.roots y.trees)
  noChild : ∀ t ∈ y.trees, t.isChild = false
  apart : Apart (y.trees.map (·.area))
  paths : y.arena.PathsKnown

theorem Gathering.sound {y : Index} (h : y.Gathering) : y.Sound :=
  ⟨h.flat.forest h.noChild, h.apart, h.paths⟩

/-- Whether every tree stands as the disk has its area, but for those that have adopted another one. -/
def Standing (d : Disk) (x : Index) : Prop :=
  ∀ t ∈ x.trees, (∃ u ∈ x.trees, u.isChild = true ∧ t.area.isParentOf u.area = true) ∨
    t.Stands d x.includeHidden x.arena ∧
      ∀ r, t.root = some r → ∀ q ∈ Tree.roots x.trees, x.arena.Below r q → q = r

/-- A tree that stays when an index is separated has adopted none. -/
theorem Standing.stands_separate {x : Index} (h : x.Standing d) (hx : x.Sound)
    (ht : t ∈ x.separate.trees) (hdirty : t.isDirty = false) :
    t.Stands d x.includeHidden x.separate.arena := by
  obtain ⟨v, hv, rfl⟩ := List.mem_map.1 ht
  obtain ⟨-, hclean⟩ := Bool.or_eq_false_iff.1 hdirty
  rcases h v hv with ⟨u, hu, hchild, habove⟩ | ⟨hstands, hno⟩
  · rw [List.any_eq_false] at hclean
    exact absurd habove (hclean u (List.mem_filter.2 ⟨hu, hchild⟩))
  · have hsteady : ∀ r, v.root = some r → SteadyBelow x.arena x.separate.arena r := fun r hr => by
      refine steadyBelow_detachRoots hx.wellFormed hx.paths fun q hq => hno r hr q ?_
      exact (List.filter_sublist.filterMap _).subset hq
    exact (hstands.steady hx.wellFormed hsteady).congr rfl rfl rfl

/-- What gathering comes to, besides an index whose trees have adopted none of each other. -/
structure Gathers (d : Disk) (x : Index) (areas : List Area) (c : Cancellation) (g : Gathered) (y : Index) :
    Prop where
  feed : y.feed = x.feed
  includeHidden : y.includeHidden = x.includeHidden
  stands : x.Standing d → ∀ t ∈ y.trees, t.Stands d x.includeHidden y.arena
  complete : c.isActive = true → g.complete = true
  /-- The trees are those of the wanted areas, in their order. -/
  ordered : g.complete = true →
    List.Forall₂ (fun a t => sameArea a t.area = true) (Area.dedup areas) y.trees
  wanted : ∀ t ∈ y.trees, ∃ a ∈ Area.dedup areas, sameArea a t.area = true
  areas : ∀ t ∈ y.trees, t.area ∈ x.trees.map (·.area) ∨ t.area ∈ Area.dedup areas

section

variable (x : Index) (areas : List Area)

/-- The trees that a collect keeps, once they are separated. -/
def keptTrees : List Tree := x.separate.trees.filter (stays (Area.dedup areas))

/-- The trees that it releases. -/
def disposedTrees : List Tree := x.separate.trees.filter fun t => !stays (Area.dedup areas) t

/-- The areas that it has to walk. -/
def missingAreas : List Area :=
  (Area.dedup areas).filter fun a => !(x.keptTrees areas).any fun t => sameArea a t.area

/-- The index in which it builds. -/
def emptied : Index :=
  { x.separate with trees := [], arena := releaseTrees x.separate.arena (x.disposedTrees areas) }

end

variable {x : Index} {areas : List Area} {c : Cancellation}

/-- How gathering goes: the walks are canceled and the kept trees are left, or trees are built of what they found. -/
theorem gather_cases (x : Index) (d : Disk) (areas : List Area) (c : Cancellation) :
    (c.isActive = false ∧ x.perform (gather d areas c) =
      (.ok { complete := false, changed := !(x.disposedTrees areas).isEmpty },
        (x.emptied areas).withTrees (x.keptTrees areas))) ∨
    ∀ built y, (x.emptied areas).perform (build d ((x.missingAreas areas).map fun a =>
        (a, Tree.found? d x.includeHidden a))) = (.ok built, y) →
      x.perform (gather d areas c) =
        (.ok { complete := true, changed := !(x.disposedTrees areas).isEmpty || !built.isEmpty },
          y.withTrees (inOrder (Area.dedup areas) (x.keptTrees areas ++ built))) := by
  have hpart : x.separate.trees.partition (stays (Area.dedup areas)) = (x.keptTrees areas, x.disposedTrees areas) :=
    List.partition_eq_filter_filter
  cases hwalk : walkAll d x.separate.includeHidden c (x.missingAreas areas) with
  | none =>
    refine .inl ⟨?_, ?_⟩
    · rw [← Bool.not_eq_true]
      intro hc
      rw [walkAll_eq _ _ hc] at hwalk
      cases hwalk
    · rw [missingAreas] at hwalk
      simp only [gather, perform_bind, perform_modify, perform_get, hpart, perform_set, hwalk, perform_pure]
      rfl
  | some found =>
    refine .inr fun built y hbuild => ?_
    have hfound : found = (x.missingAreas areas).map fun a => (a, Tree.found? d x.includeHidden a) :=
      eq_map_of_walkAll hwalk
    rw [missingAreas] at hwalk
    rw [← hfound, emptied] at hbuild
    simp only [gather, perform_bind, perform_modify, perform_get, hpart, perform_set, hwalk, hbuild, perform_pure]

/-- The trees that go and those that stay have the roots of all. -/
theorem roots_parted (x : Index) (areas : List Area) :
    (Tree.roots (x.disposedTrees areas) ++ Tree.roots (x.keptTrees areas)).Perm (Tree.roots x.trees) := by
  have hroots : Tree.roots x.separate.trees = Tree.roots x.trees := by
    simp only [separate, Tree.roots, List.filterMap_map]
    rfl
  rw [← hroots, ← Tree.roots_append]
  exact (List.perm_append_comm.trans (List.filter_append_perm _ _)).filterMap _

theorem keptTrees_sublist (x : Index) (areas : List Area) : (x.keptTrees areas).Sublist x.separate.trees :=
  List.filter_sublist

theorem wanted_of_kept {t : Tree} (ht : t ∈ x.keptTrees areas) : ∃ a ∈ Area.dedup areas, sameArea a t.area = true := by
  simpa [stays] using (Bool.and_eq_true_iff.1 (List.mem_filter.1 ht).2).2

theorem isDirty_of_kept {t : Tree} (ht : t ∈ x.keptTrees areas) : t.isDirty = false := by
  simpa using (Bool.and_eq_true_iff.1 (List.mem_filter.1 ht).2).1

/-- Once the disposed trees are gone, the roots of the kept ones are topmost, and what stands below them is what did. -/
theorem flat_emptied (h : x.Sound) (areas : List Area) :
    Flat (x.emptied areas).arena (Tree.roots (x.keptTrees areas)) ∧ (x.emptied areas).arena.PathsKnown ∧
      ∀ r ∈ Tree.roots (x.keptTrees areas), SteadyBelow x.separate.arena (x.emptied areas).arena r := by
  obtain ⟨hflat, hk⟩ := flat_separate h
  exact flat_releaseTrees (hflat.perm (roots_parted x areas)) hk

/-- **Gathering ends well**: no root has a parent, and every area has one tree. -/
theorem perform_gather (h : x.Sound) (d : Disk) (areas : List Area) (c : Cancellation) :
    ∃ g y, x.perform (gather d areas c) = (.ok g, y) ∧ y.Gathering ∧ Gathers d x areas c g y := by
  obtain ⟨hflat, hk, hsteady⟩ := flat_emptied h areas
  have hsub := keptTrees_sublist x areas
  have hareas : x.separate.trees.map (·.area) = x.trees.map (·.area) := by
    simp only [separate, List.map_map]
    rfl
  have hchild : ∀ t ∈ x.keptTrees areas, t.isChild = false := by
    intro t ht
    obtain ⟨u, -, rfl⟩ := List.mem_map.1 (hsub.subset ht)
    rfl
  have hkeptapart : Apart ((x.keptTrees areas).map (·.area)) := by
    refine List.Nodup.sublist ((hsub.map (·.area)).map _) ?_
    rw [hareas]
    exact h.apart
  have hkeptareas : ∀ t ∈ x.keptTrees areas, t.area ∈ x.trees.map (·.area) := fun t ht =>
    hareas ▸ List.mem_map_of_mem (hsub.subset ht)
  have hstands : x.Standing d →
      ∀ t ∈ x.keptTrees areas, t.Stands d x.includeHidden (x.emptied areas).arena := fun hx t ht =>
    (hx.stands_separate h (hsub.subset ht) (isDirty_of_kept ht)).steady (flat_separate h).1.wellFormed fun r hr =>
      hsteady r (Tree.mem_roots_of_root ht hr)
  rcases gather_cases x d areas c with ⟨hc, hrun⟩ | hrun
  · refine ⟨_, _, hrun, ⟨hflat, hchild, hkeptapart, hk⟩, ⟨rfl, rfl, hstands, fun hactive => ?_, nofun,
      fun t ht => wanted_of_kept ht, fun t ht => .inl (hkeptareas t ht)⟩⟩
    rw [hc] at hactive
    cases hactive
  · obtain ⟨built, y, hbuild, hba, hbc, hbf, hbk, hframe, hold, hbuilt⟩ := perform_build d ((x.missingAreas areas).map
      fun a => (a, Tree.found? d x.includeHidden a)) hflat hk
    rw [List.map_map, Function.comp_def, List.map_id'] at hba
    have happ := apart_kept_built (apart_dedup areas) hkeptapart (fun t ht => wanted_of_kept ht) hba
    have hwanted : ∀ t ∈ x.keptTrees areas ++ built, ∃ a ∈ Area.dedup areas, sameArea a t.area = true := by
      intro t ht
      rcases List.mem_append.1 ht with ht | ht
      · exact wanted_of_kept ht
      · have hmem : t.area ∈ built.map (·.area) := List.mem_map_of_mem ht
        rw [hba] at hmem
        exact ⟨t.area, (List.mem_filter.1 hmem).1, sameArea_iff.2 ⟨same_iff.2 rfl, rfl⟩⟩
    have horder := inOrder_perm (apart_dedup areas) hwanted
    refine ⟨_, _, hrun built y hbuild, ⟨?_, ?_, ?_, hbk⟩,
      ⟨hframe.feed, hframe.includeHidden, fun hx t ht => ?_, fun _ => rfl, fun _ => ?_,
        fun t ht => hwanted t (horder.mem_iff.1 ht), fun t ht => ?_⟩⟩
    · refine hbf.perm ((horder.filterMap _).trans ?_)
      change (Tree.roots (x.keptTrees areas ++ built)).Perm _
      rw [Tree.roots_append]
      exact List.perm_append_comm
    · intro t ht
      rcases List.mem_append.1 (horder.mem_iff.1 ht) with ht | ht
      · exact hchild t ht
      · exact hbc t ht
    · exact ((horder.map _).map _).nodup_iff.2 happ
    · rcases List.mem_append.1 (horder.mem_iff.1 ht) with ht | ht
      · refine (hstands hx t ht).steady hflat.wellFormed fun r hr => steadyBelow_of_get? fun j hj => ?_
        exact hold j (hj.contains ((hflat.mem_iff r).1 (Tree.mem_roots_of_root ht hr)).1)
      · refine hbuilt (fun f hf => ?_) t ht
        obtain ⟨a, -, rfl⟩ := List.mem_map.1 hf
        rfl
    · refine inOrder_forall₂ happ fun a ha => ?_
      by_cases hak : (x.keptTrees areas).any (fun t => sameArea a t.area) = true
      · obtain ⟨t, ht, hat⟩ := List.any_eq_true.1 hak
        exact ⟨t, by simp [ht], hat⟩
      · have hmem : a ∈ built.map (·.area) := by
          rw [hba]
          exact List.mem_filter.2 ⟨ha, by simpa using hak⟩
        obtain ⟨t, ht, rfl⟩ := List.mem_map.1 hmem
        exact ⟨t, by simp [ht], sameArea_iff.2 ⟨same_iff.2 rfl, rfl⟩⟩
    · rcases List.mem_append.1 (horder.mem_iff.1 ht) with ht | ht
      · exact .inl (hkeptareas t ht)
      · have hmem : t.area ∈ built.map (·.area) := List.mem_map_of_mem ht
        rw [hba] at hmem
        exact .inr (List.mem_filter.1 hmem).1

end Index

end FileIndex
