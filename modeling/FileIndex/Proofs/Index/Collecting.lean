/-
What a collect does to a sound index. It ends well, with all entries counted, as long as no tree takes the slot
of another tree's root when trees adopt each other (`CollectSpares`); otherwise it leaves a lost root.
-/
import FileIndex.Proofs.Index.Entries
import FileIndex.Proofs.Index.Merge

namespace FileIndex.Index

open Arena

variable {x y : Index} {ts : List Tree} {t : Tree} {a : Arena} {d : Disk} {areas : List Area}
  {c : Cancellation} {s : NodeId} {fault : Fault}

/-- Whether a collect lets no tree take the slot of another tree's root. -/
def CollectSpares (x : Index) (d : Disk) (areas : List Area) (c : Cancellation) : Prop :=
  match x.perform (gather d areas c) with
  | (.ok g, y) => g.complete = true → MergeSpares y (pairs y.trees.length)
  | (.error _, _) => True

/-- An index whose entries are all counted. -/
structure Tallied (x : Index) : Prop where
  size : x.size = x.entryIds.length
  counter : x.counter = x.size

/-! ## The end of a collect -/

theorem perform_publishReset (x : Index) (changed : Bool) :
    ∃ y, x.perform (publishReset changed) = (.ok ⟨⟩, y) ∧ y.arena = x.arena ∧ y.trees = x.trees ∧
      y.includeHidden = x.includeHidden ∧ y.size = x.size ∧ y.counter = x.counter ∧
      ∃ changes : List IndexChange, y.feed = changes.foldl Feed.publish x.feed := by
  unfold publishReset
  split
  · exact ⟨x.publish .reset, rfl, rfl, rfl, rfl, rfl, rfl, [.reset], rfl⟩
  · exact ⟨x, rfl, rfl, rfl, rfl, rfl, rfl, [], rfl⟩

theorem entryIds_congr (ha : y.arena = x.arena) (ht : y.trees = x.trees) : y.entryIds = x.entryIds := by
  unfold entryIds topTrees
  rw [ha, ht]

/-- What the end of a collect leaves as it is. -/
structure SameForest (x y : Index) : Prop where
  arena : y.arena = x.arena
  trees : y.trees = x.trees
  includeHidden : y.includeHidden = x.includeHidden

/-- What is done once all trees stand: entries are counted, subscribers told. -/
theorem perform_finish (h : x.Sound) (g : Gathered) :
    ∃ y, x.perform (do
      let n ← recount
      publishReset g.changed
      return if g.complete then some n else none) =
        (.ok (if g.complete then some x.entryIds.length else none), y) ∧ SameForest x y ∧ y.Tallied ∧
      ∃ changes : List IndexChange, y.feed = changes.foldl Feed.publish x.feed := by
  obtain ⟨y, hy, ha, ht, hh, hs, hc, hf⟩ := perform_publishReset (x.setSize x.entryIds.length) g.changed
  refine ⟨y, ?_, ⟨ha, ht, hh⟩, ⟨?_, ?_⟩, hf⟩
  · simp only [perform_bind, perform_recount h, hy, perform_pure]
  · rw [hs, entryIds_congr (x := x) ha ht]
    rfl
  · rw [hs, hc]
    rfl

/-- **A collect that spares the roots ends well.** -/
theorem perform_collect (h : x.Sound) (hs : CollectSpares x d areas c) :
    ∃ r y, x.perform (collect d areas c) = (.ok r, y) ∧ y.Sound ∧ y.Tallied ∧
      ∃ changes : List IndexChange, y.feed = changes.foldl Feed.publish x.feed := by
  obtain ⟨g, y, hg, hy, hgathers⟩ := perform_gather h d areas c
  have hf := hgathers.feed
  unfold CollectSpares at hs
  rw [hg] at hs
  unfold collect
  rw [perform_bind_ok hg]
  cases hc : g.complete with
  | false =>
    obtain ⟨z, hz, hsame, ht, hpub⟩ := perform_finish hy.sound g
    rw [hc] at hz
    rw [hf] at hpub
    exact ⟨_, z, hz, hy.sound.congr hsame.arena hsame.trees, ht, hpub⟩
  | true =>
    obtain ⟨m, hm, hms, hfm⟩ := perform_adoptAll hy.merging (hs hc)
    obtain ⟨z, hz, hsame, ht, hpub⟩ := perform_finish hms g
    rw [hc] at hz
    rw [hfm, hf] at hpub
    refine ⟨some m.entryIds.length, z, ?_, hms.congr hsame.arena hsame.trees, ht, hpub⟩
    rw [← perform_merge] at hm
    simp only [if_true, perform_bind_ok hm]
    exact hz

/-! ## A collect that loses a root -/

theorem stale_count (h : t.count a = .error fault) : fault.stale = true := by
  unfold Tree.count at h
  split at h
  · cases h
  · rename_i root _
    cases hg : a.get root with
    | error _ =>
      rw [hg] at h
      cases h
      exact stale_get hg
    | ok n =>
      rw [hg] at h
      cases h

theorem stale_sumCounts (h : sumCounts a ts = .error fault) : fault.stale = true := by
  induction ts with
  | nil => cases h
  | cons t ts ih =>
    rw [sumCounts] at h
    cases ht : t.count a with
    | error _ =>
      rw [ht] at h
      cases h
      exact stale_count ht
    | ok n =>
      cases hts : sumCounts a ts with
      | error _ =>
        rw [ht, hts] at h
        cases h
        exact ih hts
      | ok m =>
        rw [ht, hts] at h
        cases h

theorem lost_finish (hs : x.arena.get? s = none) (hr : s ∈ Tree.roots x.trees) (g : Gathered) :
    Lost s (x.perform (do
      let n ← recount
      publishReset g.changed
      return if g.complete then some n else none)) := by
  cases hc : sumCounts x.arena x.topTrees with
  | error fault =>
    simp only [recount, perform_bind, perform_get, perform_lift, hc]
    exact ⟨hs, hr, fun _ he => by cases he; exact stale_sumCounts hc⟩
  | ok n =>
    obtain ⟨y, hy, ha, ht, -⟩ := perform_publishReset (x.setSize n) g.changed
    simp only [recount, perform_bind, perform_get, perform_lift, hc, perform_modify, perform_pure, hy]
    exact ⟨by rw [ha]; exact hs, by rw [ht]; exact hr, fun _ he => by cases he⟩

/-- A collect that does not spare the roots leaves a tree without the root that it counts on. -/
theorem exists_lost_collect (h : x.Sound) (hs : ¬CollectSpares x d areas c) :
    ∃ s, Lost s (x.perform (collect d areas c)) := by
  obtain ⟨g, y, hg, hy, -⟩ := perform_gather h d areas c
  unfold CollectSpares at hs
  rw [hg] at hs
  push Not at hs
  obtain ⟨hc, hs⟩ := hs
  obtain ⟨s, hl⟩ := exists_lost_adoptAll hy.merging hs
  refine ⟨s, ?_⟩
  rw [← perform_merge] at hl
  unfold collect
  rw [perform_bind_ok hg]
  simp only [hc, if_true]
  rw [perform_bind]
  generalize y.perform merge = r at hl ⊢
  obtain ⟨fault | _, z⟩ := r
  · exact ⟨hl.gone, hl.root, fun _ he => by cases he; exact hl.stale fault rfl⟩
  · have := lost_finish hl.gone hl.root g
    rwa [hc] at this

/-! ## Watching -/

/-- What counts of a tree for the arena. -/
def key (t : Tree) : Area × Option NodeId × Bool := (t.area, t.root, t.isChild)

theorem roots_congr {us : List Tree} (h : us.map key = ts.map key) : Tree.roots us = Tree.roots ts := by
  have hroots : ∀ l : List Tree, Tree.roots l = (l.map key).filterMap (·.2.1) := fun l => by
    rw [List.filterMap_map]
    rfl
  rw [hroots, hroots, h]

theorem Sound.of_keys (h : x.Sound) (ha : y.arena = x.arena) (hk : y.trees.map key = x.trees.map key) :
    y.Sound := by
  have harea : y.trees.map (·.area) = x.trees.map (·.area) := by
    have := congrArg (List.map Prod.fst) hk
    rw [List.map_map, List.map_map] at this
    exact this
  refine ⟨?_, by rw [harea]; exact h.apart, by rw [ha]; exact h.paths⟩
  rw [ha]
  refine h.forest.of_perm (.of_eq (roots_congr hk)) fun u hu => ?_
  have hmem : key u ∈ x.trees.map key := by
    rw [← hk]
    exact List.mem_map_of_mem hu
  obtain ⟨t, ht, hkey⟩ := List.mem_map.1 hmem
  simp only [key, Prod.mk.injEq] at hkey
  exact ⟨t, ht, hkey.2.1.symm, hkey.2.2.symm⟩

theorem perform_watchTrees (d : Disk) (ts : List Tree) (x : Index)
    (hr : ∀ t ∈ ts, ∀ r, t.root = some r → x.arena.contains r = true) :
    ∃ us y, x.perform (watchTrees d ts) = (.ok us, y) ∧ us.map key = ts.map key ∧
      y.arena = x.arena ∧ BuildFrame x y := by
  induction ts generalizing x with
  | nil => exact ⟨[], x, rfl, rfl, rfl, rfl, rfl, rfl, rfl, rfl⟩
  | cons t ts ih =>
    -- A tree that is watched already stays as it is.
    obtain ⟨u, y, hkey, hya, hframe, hgo⟩ : ∃ u y, key u = key t ∧ y.arena = x.arena ∧ BuildFrame x y ∧
        x.perform (watchTrees d (t :: ts)) = y.perform (do return u :: (← watchTrees d ts)) := by
      rw [watchTrees]
      split
      · exact ⟨t, x, rfl, rfl, ⟨rfl, rfl, rfl, rfl, rfl⟩, rfl⟩
      · obtain ⟨u, y, hrun, ha, hroot, hc, -, hya, hframe⟩ := perform_watchTree d x t (hr t (by simp))
        exact ⟨u, y, by rw [key, ha, hroot, hc, key], hya, hframe, perform_bind_ok hrun⟩
    obtain ⟨us, z, hus, hkeys, hza, hframe'⟩ := ih y fun v hv r hvr => by
      rw [hya]
      exact hr v (by simp [hv]) r hvr
    refine ⟨u :: us, z, ?_, by rw [List.map_cons, List.map_cons, hkey, hkeys], hza.trans hya,
      hframe.trans hframe'⟩
    rw [hgo, perform_bind_ok hus, perform_pure]

/-- Watching changes nothing of an index that counts for its nodes. -/
theorem perform_setWatching (h : x.Sound) (d : Disk) (on : Bool) :
    ∃ y, x.perform (setWatching d on) = (.ok ⟨⟩, y) ∧ y.Sound ∧ y.arena = x.arena ∧ y.size = x.size ∧
      y.counter = x.counter ∧ y.feed = x.feed := by
  cases on with
  | false =>
    refine ⟨_, rfl, h.of_keys rfl ?_, rfl, rfl, rfl, rfl⟩
    simp only [withTrees, List.map_map]
    rfl
  | true =>
    obtain ⟨us, y, hus, hkeys, hya, hframe⟩ := perform_watchTrees d x.trees
      { x with isWatching := true, trees := [] } fun t ht r hr => h.contains_root ht r hr
    refine ⟨y.withTrees us, ?_, h.of_keys hya hkeys, hya, hframe.size, hframe.counter, hframe.feed⟩
    simp only [setWatching, perform_bind, perform_get, perform_modify, if_true, hus]

end FileIndex.Index
