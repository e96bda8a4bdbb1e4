/-
What is told of the nodes of an index. Where all nodes have a property that lasts, every operation leaves it so, whatever
the order of the arena and the roots of the trees, and every snapshot that is told is one of a node with the property:
as it is, or with the mark of what was taken out where it is told to be removed (`IndexChange.Told`). The one thing that is
told to be removed as it was is what a rename goes over (`GoesOver`).
-/
import FileIndex.Proofs.Index.Hearing
import FileIndex.Proofs.Index.Undotted
import FileIndex.Proofs.Tree.Every

namespace FileIndex

open Arena

variable {P : Node → Prop} {R : Prop} {x y : Index} {d : Disk} {a b : Arena} {id : NodeId} {old new : Path}
  {root : Option Path} {α β : Type} {c : Cancellation} {o : Operation} {k : Edit}

/-- Whether the snapshots of a change are those of nodes with a property: what is removed has the mark of what was taken
out, or, as far as another statement allows it, is as it was. -/
def IndexChange.Told (P : Node → Prop) (R : Prop) : IndexChange → Prop
  | .remove nodes => (∀ s ∈ nodes, s.Of (Node.Taken P)) ∨ R ∧ ∀ s ∈ nodes, s.Of P
  | .add nodes | .update nodes | .rename nodes _ => ∀ s ∈ nodes, s.Of P
  | .reset => True

namespace Index

/-! ## Nodes and changes -/

/-- Whether all nodes of an index have a property and all that waits to be read is told of such nodes. -/
structure Holding (P : Node → Prop) (R : Prop) (x : Index) : Prop where
  nodes : x.arena.Every P
  told : ∀ u ∈ x.feed.subscribers, ∀ c ∈ u.queue, c.Told P R

namespace Holding

theorem congr (h : x.Holding P R) (ha : y.arena = x.arena) (hf : y.feed = x.feed) : y.Holding P R :=
  ⟨ha ▸ h.nodes, hf ▸ h.told⟩

theorem withArena (h : x.Holding P R) (hb : b.Every P) : (x.withArena b).Holding P R := ⟨hb, h.told⟩

theorem publish {c : IndexChange} (h : x.Holding P R) (hc : c.Told P R) : (x.publish c).Holding P R := by
  refine ⟨h.nodes, fun u hu c' hc' => ?_⟩
  simp only [Index.publish, Feed.publish, List.mem_map, List.mem_filter] at hu
  obtain ⟨v, ⟨hv, -⟩, rfl⟩ := hu
  rcases List.mem_append.1 hc' with hc' | hc'
  · exact h.told v hv c' hc'
  · rwa [List.mem_singleton.1 hc']

theorem adjust (h : x.Holding P R) (added removed : Nat) : (x.adjust added removed).Holding P R := h.congr rfl rfl

theorem of_frame (h : x.Holding P R) (ha : y.arena = x.arena) (hf : BuildFrame x y) : y.Holding P R := h.congr ha hf.feed

end Holding

/-! ## Renames over another entry -/

/-- Whether a rename of the entry at a path goes over another one: its tree finds both, they are in one directory, and it
is not the tree's area that is renamed. -/
def Overwrites (x : Index) (root : Option Path) (old new : Path) : Prop := ∃ i t s e, x.owner? root old = some (i, t) ∧
  t.locate x.arena old = .ok (some s) ∧ t.locate x.arena new = .ok (some e) ∧ s ≠ e ∧ x.arena.contains s = true ∧
    x.arena.contains e = true ∧ old.sameParent new = true ∧ ¬old.same t.area.path = true

/-- Whether an edit is a rename that goes over an entry. -/
def Overwriting (x : Index) : Edit → Prop
  | .rename root old new => x.Overwrites root old new
  | .event r (.renamed old new) => x.Overwrites (some r) old new
  | _ => False

/-- Whether an operation is a rename that goes over an entry. -/
def GoesOver (x : Index) : Operation → Prop
  | .edit k => x.Overwriting k
  | .collect _ _ | .search _ _ | .live _ _ | .watch _ => False

/-- What is there of a subtree. -/
theorem contains_of_snapshots_ne_nil (h : (a.snapshots (a.subtree id)).1 ≠ []) : a.contains id = true := by
  obtain ⟨s, hs⟩ := List.exists_mem_of_ne_nil _ h
  obtain ⟨j, hj, -⟩ := exists_of_mem_snapshots hs
  by_contra hgone
  unfold Arena.subtree at hj
  cases hsize : a.slots.size with
  | zero =>
    rw [hsize] at hj
    cases hj
  | succ n =>
    rw [hsize, subtreeTo, get?_eq_none.2 hgone] at hj
    cases hj

theorem replacedBy_cases {source target : Option NodeId} {nodes : List Snapshot}
    (h : x.perform (replacedBy source target) = (.ok nodes, y)) : nodes = [] ∧ y = x ∨
      ∃ s e, source = some s ∧ target = some e ∧ s ≠ e ∧ x.perform (snapshotsBelow e) = (.ok nodes, y) := by
  unfold replacedBy at h
  split at h
  · rename_i s e
    split at h
    · cases h
      exact .inl ⟨rfl, rfl⟩
    · rename_i hne
      exact .inr ⟨s, e, rfl, rfl, hne, h⟩
  · cases h
    exact .inl ⟨rfl, rfl⟩

/-- Where a rename finds something to replace and is done, it goes over another entry. -/
theorem overwrites_of_replaced {i : Nat} {t : Tree} {source target : Option NodeId} {nodes : List Snapshot} {c : Arena}
    (ho : x.owner? root old = some (i, t)) (hs : t.locate x.arena old = .ok source)
    (he : t.locate x.arena new = .ok target) (hrun : x.perform (replacedBy source target) = (.ok nodes, y))
    (hsome : nodes ≠ []) (hren : t.rename y.arena old new = .ok (some id, c)) : x.Overwrites root old new := by
  rcases replacedBy_cases hrun with ⟨rfl, -⟩ | ⟨s, e, rfl, rfl, hne, hrun⟩
  · exact absurd rfl hsome
  rw [perform_snapshotsBelow, Prod.mk.injEq, Except.ok.injEq] at hrun
  obtain ⟨rfl, rfl⟩ := hrun
  have hal := alike_snapshots x.arena (x.arena.subtree e)
  obtain ⟨hmove, ⟨-, hnone, -⟩ | ⟨harea, id', c', hl, hclear, -⟩⟩ := Tree.rename_cases hren
  · cases hnone
  · obtain rfl : s = id' := by
      have hl' := (Tree.locate_alike hal t old).symm.trans hl
      simpa using hs.symm.trans hl'
    have hlive := (hal.contains s).symm.trans (Tree.contains_of_clearName hclear)
    exact ⟨i, t, s, e, ho, hs, he, hne, hlive, contains_of_snapshots_ne_nil hsome, hmove, harea⟩

/-! ## Snapshots -/

variable (hP : Node.Lasting P)
include hP

theorem Leaves.snapshotsBelow {f : List Snapshot → IndexM β} (h : x.Holding P R)
    (hf : ∀ nodes y, y.Holding P R → (∀ s ∈ nodes, s.Of P) → Leaves (Holding P R) y (f nodes)) :
    Leaves (Holding P R) x (Index.snapshotsBelow id >>= f) := by
  unfold Leaves at hf ⊢
  rw [perform_bind, perform_snapshotsBelow]
  have hal := alike_snapshots x.arena (x.arena.subtree id)
  exact hf _ _ (h.withArena (h.nodes.alike hP hal)) fun s hs => h.nodes.of_mem_snapshots hP hs

/-! ## Adding and removing -/

theorem leaves_addPath (h : x.Holding P R) (root : Option Path) (p : Path) :
    Leaves (Holding P R) x (addPath d root p) := by
  unfold addPath
  refine .get ?_
  split
  · exact h
  · rename_i i t _
    refine .lift h fun v hadd => .set ?_
    obtain ⟨made, t', b⟩ := v
    have hb : ({ x with arena := b }.setTree i t').Holding P R := ⟨Tree.every_add hP h.nodes hadd, h.told⟩
    cases made with
    | none => exact hb
    | some id =>
      refine .snapshotsBelow hP hb fun nodes y hy hnodes => .lift hy fun bare _ => .modify ?_
      exact (hy.adjust _ _).publish hnodes

theorem leaves_removePath (h : x.Holding P R) (root : Option Path) (p : Path) :
    Leaves (Holding P R) x (removePath root p) := by
  unfold removePath
  refine .get ?_
  split
  · exact h
  · rename_i i t _
    refine .lift h fun found _ => ?_
    cases found with
    | none => exact h
    | some id =>
      refine .lift h fun bare _ => .modify (.lift (h.congr rfl rfl) fun b htake => ?_)
      -- Between the mark and the release the nodes are not as they have to be, and so these are one step.
      obtain ⟨htold, hleft⟩ := Tree.takeOut_told hP h.nodes htake
      unfold Leaves
      simp only [perform_bind, perform_modify, perform_snapshotsBelow, perform_pure]
      exact Holding.publish ⟨hleft, h.told⟩ (.inl htold)

/-! ## Renaming -/

theorem holding_replacedBy {source target : Option NodeId} {nodes : List Snapshot} (h : x.Holding P R)
    (hrun : x.perform (replacedBy source target) = (.ok nodes, y)) : y.Holding P R ∧ ∀ s ∈ nodes, s.Of P := by
  rcases replacedBy_cases hrun with ⟨rfl, rfl⟩ | ⟨s, e, -, -, -, hrun⟩
  · exact ⟨h, nofun⟩
  · rw [perform_snapshotsBelow, Prod.mk.injEq, Except.ok.injEq] at hrun
    obtain ⟨rfl, rfl⟩ := hrun
    exact ⟨h.withArena (h.nodes.alike hP (alike_snapshots _ _)), fun s hs => h.nodes.of_mem_snapshots hP hs⟩

theorem leaves_renamePath (h : x.Holding P R) (hR : x.Overwrites root old new → R) :
    Leaves (Holding P R) x (renamePath d root old new) := by
  unfold renamePath
  refine .get ?_
  split
  · exact h
  · rename_i i t ho
    refine .lift h fun source hs => .lift h fun target he => ?_
    obtain ⟨replaced, c, hrun, -⟩ := perform_replacedBy_ok x source target
    obtain ⟨hc, hnodes⟩ := holding_replacedBy hP h hrun
    rw [Leaves, perform_bind_ok hrun]
    change Leaves (Holding P R) (x.withArena c) _
    refine .get (.lift hc fun v hren => ?_)
    obtain ⟨renamed, b⟩ := v
    have hb : ((x.withArena c).withArena b).Holding P R := hc.withArena (Tree.every_rename hP hc.nodes hren)
    refine .modify ?_
    cases renamed with
    | none => exact leaves_addPath hP hb root new
    | some id =>
      have hfinish : ∀ z : Index, z.Holding P R → Leaves (Holding P R) z (do
          let nodes ← snapshotsBelow id
          modify (·.publish (.rename nodes old))
          return nodes.head?) := fun z hz =>
        .snapshotsBelow hP hz fun nodes y hy hnodes => .modify (hy.publish hnodes)
      dsimp only
      split
      · rename_i hsome
        have hno : replaced ≠ [] := by
          rintro rfl
          cases hsome
        refine .modify (hfinish _ ?_)
        exact (hb.adjust _ _).publish (.inr ⟨hR (overwrites_of_replaced ho hs he hrun hno hren), hnodes⟩)
      · exact hfinish _ hb

/-! ## Changes in place -/

theorem leaves_publishUpdate (h : x.Holding P R) (id : NodeId) : Leaves (Holding P R) x (publishUpdate id) := by
  have hs : x.perform (snapshot id) = (.ok (x.arena.snapshot id).1, x.withArena (x.arena.snapshot id).2) := rfl
  have hal := alike_snapshot x.arena id
  have hy := h.withArena (h.nodes.alike hP hal)
  rw [publishUpdate, Leaves, perform_bind_ok hs]
  cases hsome : (x.arena.snapshot id).1 with
  | none => exact hy
  | some s =>
    obtain ⟨n, p, hn, rfl⟩ := snapshot_eq_some hsome
    refine hy.publish (c := .update [.ofNode id n p]) ?_
    exact List.forall_mem_singleton.2 ⟨id, n, p, h.nodes id n hn, rfl⟩

theorem leaves_refreshPath (h : x.Holding P R) (root : Option Path) (p : Path) :
    Leaves (Holding P R) x (refreshPath d root p) := by
  unfold refreshPath
  refine .get ?_
  split
  · exact h
  · rename_i i t _
    refine .lift h fun v href => .set ?_
    obtain ⟨found, b⟩ := v
    have hb := h.withArena (Tree.every_refresh hP h.nodes href)
    cases found with
    | none => exact hb
    | some id => exact leaves_publishUpdate hP hb id

theorem leaves_setPinned (h : x.Holding P R) (p : Path) (on : Bool) : Leaves (Holding P R) x (setPinned p on) := by
  unfold setPinned
  refine .get ?_
  split
  · exact h
  · rename_i i t _
    refine .lift h fun v hpin => .set ?_
    obtain ⟨found, b⟩ := v
    have hb := h.withArena (Tree.every_setPinned hP h.nodes hpin)
    cases found with
    | none => exact hb
    | some id => exact leaves_publishUpdate hP hb id

theorem leaves_applyChange {r : Path} {change : PathChange} (h : x.Holding P R)
    (hR : x.Overwriting (.event r change) → R) : Leaves (Holding P R) x (applyChange d r change) := by
  unfold applyChange
  refine .get ?_
  split
  · exact h
  · cases change with
    | created p =>
      refine .bind (leaves_addPath hP h (some r) p) fun found y _ hy => ?_
      split
      · exact .bind (leaves_refreshPath hP hy (some r) p) fun _ _ _ hz => hz
      · exact hy
    | deleted p => exact .bind (leaves_removePath hP h (some r) p) fun _ _ _ hy => hy
    | renamed old new => exact .bind (leaves_renamePath hP h hR) fun _ _ _ hy => hy
    | changed p =>
      refine .bind (leaves_refreshPath hP h (some r) p) fun found y _ hy => ?_
      split
      · exact .bind (leaves_addPath hP hy (some r) p) fun _ _ _ hz => hz
      · exact hy

theorem leaves_edit (h : x.Holding P R) (hR : x.Overwriting k → R) : Leaves (Holding P R) x (k.work d) := by
  cases k with
  | add root p => exact .bind (leaves_addPath hP h root p) fun _ _ _ hy => hy
  | remove root p => exact .bind (leaves_removePath hP h root p) fun _ _ _ hy => hy
  | rename root old new => exact .bind (leaves_renamePath hP h hR) fun _ _ _ hy => hy
  | refresh root p => exact .bind (leaves_refreshPath hP h root p) fun _ _ _ hy => hy
  | pin p on => exact .bind (leaves_setPinned hP h p on) fun _ _ _ hy => hy
  | event r change => exact leaves_applyChange hP h hR

/-! ## Searches and watching -/

theorem every_clearAdded (h : x.arena.Every P) : x.clearAdded.arena.Every P := by
  unfold clearAdded
  generalize x.topTrees.filterMap (·.root) = roots
  dsimp only
  induction roots generalizing x with
  | nil => exact h
  | cons r roots ih =>
    refine ih (x := x.withArena _) (h.modifyAll (fun n hn => hP.akin n _ ?_ hn) _)
    exact ⟨rfl, rfl, rfl, rfl⟩

/-- What is found is a snapshot of a node with the property. -/
theorem of_mem_evaluateAll {items : List (NodeId × Item)} {queries : List CompiledQuery} {results : List (List Snapshot)}
    {found : List Snapshot} {s : Snapshot} (h : a.Every P)
    (he : evaluateAll items c a queries = .ok (some (results, b))) (hfound : found ∈ results) (hs : s ∈ found) :
    s.Of P := by
  induction queries generalizing a results with
  | nil =>
    cases he
    cases hfound
  | cons q queries ih =>
    obtain ⟨hits, -, he⟩ := bind_eq_ok.1 he
    cases hits with
    | none => cases he
    | some hits =>
      obtain ⟨rest, hrest, he⟩ := bind_eq_ok.1 he
      cases rest with
      | none => cases he
      | some rest =>
        obtain ⟨others, c'⟩ := rest
        cases he
        rcases List.mem_cons.1 hfound with rfl | hfound
        · exact h.of_mem_snapshots hP hs
        · exact ih (h.alike hP (alike_snapshots _ _)) hrest hfound

theorem of_mem_multiSearch {queries : List CompiledQuery} {results : List (List Snapshot)} {found : List Snapshot}
    {s : Snapshot} (h : x.arena.Every P) (hrun : (x.perform (multiSearch queries c)).1 = .ok (some results))
    (hfound : found ∈ results) (hs : s ∈ found) : s.Of P := by
  simp only [multiSearch, perform_bind, perform_get, perform_lift] at hrun
  cases hitems : x.searched with
  | error fault =>
    rw [hitems] at hrun
    cases hrun
  | ok items =>
    rw [hitems] at hrun
    dsimp only at hrun
    cases he : evaluateAll items c x.arena queries with
    | error fault =>
      rw [he] at hrun
      cases hrun
    | ok v =>
      rw [he] at hrun
      cases v with
      | none => cases hrun
      | some v =>
        obtain ⟨results', b⟩ := v
        cases hrun
        exact of_mem_evaluateAll hP h he hfound hs

theorem leaves_multiSearch (h : x.Holding P R) (queries : List CompiledQuery) (c : Cancellation) :
    Leaves (Holding P R) x (multiSearch queries c) := by
  unfold multiSearch
  refine .get (.lift h fun items _ => .lift h fun v he => ?_)
  cases v with
  | none => exact h
  | some v =>
    obtain ⟨results, b⟩ := v
    exact .set ⟨every_clearAdded hP (h.nodes.alike hP (alike_evaluateAll he)), h.told⟩

theorem leaves_subscribedSearch (h : x.Holding P R) (q : CompiledQuery) (c : Cancellation) :
    Leaves (Holding P R) x (subscribedSearch q c) := by
  have hsearch : Leaves (Holding P R) x (search q c) := .bind (leaves_multiSearch hP h [q] c) fun _ _ _ hy => hy
  refine .bind hsearch fun found y _ hy => ?_
  cases found with
  | none => exact hy
  | some found =>
    refine ⟨hy.nodes, fun u hu c hc => ?_⟩
    rcases List.mem_append.1 hu with hu | hu
    · exact hy.told u hu c hc
    · -- Who has just subscribed has nothing to read.
      rw [List.mem_singleton.1 hu] at hc
      cases hc

omit hP in
theorem leaves_setWatching (h : x.Holding P R) (on : Bool) : Leaves (Holding P R) x (setWatching d on) := by
  unfold setWatching
  refine .get (.modify ?_)
  cases on with
  | false => exact h.congr rfl rfl
  | true =>
    have hw := h.of_frame (arena_watchTrees d x.trees x) (frame_watchTrees d x.trees x)
    refine .bind ?_ fun _ y _ hy => hy.congr rfl rfl
    have hstart : ({ x with isWatching := true, trees := [] } : Index).Holding P R := h.congr rfl rfl
    exact hstart.of_frame (arena_watchTrees d x.trees _) (frame_watchTrees d x.trees _)

/-! ## Collecting -/

theorem every_detachRoots (h : a.Every P) (ts : List Tree) : (detachRoots a ts).Every P := by
  induction ts generalizing a with
  | nil => exact h
  | cons t ts ih =>
    rw [detachRoots, List.foldl_cons]
    cases t.root with
    | none => exact ih h
    | some r => exact ih (h.detach hP r)

theorem every_releaseTrees (h : a.Every P) (ts : List Tree) : (releaseTrees a ts).Every P := by
  induction ts generalizing a with
  | nil => exact h
  | cons t ts ih => exact ih (Tree.every_release hP h t)

theorem leaves_build (h : x.Holding P R) (found : List (Area × Option Collected)) :
    Leaves (Holding P R) x (build d found) := by
  induction found generalizing x with
  | nil => exact h
  | cons entry found ih =>
    obtain ⟨area, entry⟩ := entry
    refine .get (.lift h fun v hof => .set ?_)
    have hb := h.withArena (Tree.every_ofCollected hP h.nodes hof)
    refine .bind (hb.of_frame (arena_watchTree d _ _) (frame_watchTree d _ _)) fun t y _ hy => ?_
    exact .bind (ih hy) fun _ _ _ hz => hz

theorem leaves_gather (h : x.Holding P R) (areas : List Area) (c : Cancellation) :
    Leaves (Holding P R) x (gather d areas c) := by
  unfold gather
  have hs := every_detachRoots hP h.nodes (x.trees.filter (·.isChild))
  have hr := every_releaseTrees hP hs (x.separate.trees.partition (stays (Area.dedup areas))).2
  refine .modify (.get ?_)
  dsimp only
  refine .set ?_
  split
  · exact ⟨hr, h.told⟩
  · refine .bind (leaves_build hP ?_ _) fun _ _ _ hy => hy.congr rfl rfl
    exact ⟨hr, h.told⟩

theorem leaves_adopt (h : x.Holding P R) (p c : Nat) : Leaves (Holding P R) x (adopt p c) := by
  unfold adopt
  refine .get ?_
  split
  · split
    · exact h
    · split
      · refine .lift h fun node _ => .lift h fun found _ => ?_
        cases found with
        | none => exact h
        | some shallow =>
          dsimp only
          split
          · exact h
          · split
            · exact h
            · have hcut := (h.nodes.detach hP shallow).release shallow
              refine .set (.lift (h.withArena hcut) fun b hattach => ?_)
              exact ⟨hcut.attach hP hattach, h.told⟩
      · exact h
  · exact h

theorem leaves_adoptAll (h : x.Holding P R) (rest : List (Nat × Nat)) : Leaves (Holding P R) x (adoptAll rest) := by
  induction rest generalizing x with
  | nil => exact h
  | cons pc rest ih => exact .bind (leaves_adopt hP h pc.1 pc.2) fun _ _ _ hy => ih hy

theorem leaves_collect (h : x.Holding P R) (areas : List Area) (c : Cancellation) :
    Leaves (Holding P R) x (collect d areas c) := by
  refine .bind (leaves_gather hP h areas c) fun g y _ hy => ?_
  have hfinish : ∀ z : Index, z.Holding P R → Leaves (Holding P R) z (do
      let n ← recount
      publishReset g.changed
      return if g.complete then some n else none) := fun z hz => by
    refine .bind (.get (.lift hz fun n _ => hz.congr rfl rfl)) fun n w _ hw => ?_
    unfold publishReset
    split
    · exact hw.publish trivial
    · exact hw
  cases hc : g.complete with
  | false => simpa [hc] using hfinish y hy
  | true =>
    have hm : Leaves (Holding P R) y merge := .get (leaves_adoptAll hP hy _)
    simp only [if_true]
    refine .bind hm fun _ z _ hz => ?_
    simpa [hc] using hfinish z hz

/-! ## Operations -/

/-- Every operation leaves all nodes with a property that lasts, and tells of such nodes. -/
theorem Holding.after (h : x.Holding P R) (hR : x.GoesOver o → R) : (x.after d o).Holding P R := by
  have hwork : Leaves (Holding P R) x (o.work d) := by
    cases o with
    | collect areas c => exact .bind (leaves_collect hP h areas c) fun _ _ _ hy => hy
    | edit k => exact leaves_edit hP h hR
    | search queries c => exact .bind (leaves_multiSearch hP h queries c) fun _ _ _ hy => hy
    | live q c => exact .bind (leaves_subscribedSearch hP h q c) fun _ _ _ hy => hy
    | watch on => exact leaves_setWatching h on
  exact hwork

/-- All that is heard of an operation is told of nodes with a property that all nodes have and that lasts. -/
theorem told_of_mem_heard {change : IndexChange} (h : x.arena.Every P) (hc : change ∈ x.heard d o) :
    change.Told P (x.GoesOver o) := by
  have hstart : (x.withFeed loneFeed).Holding P (x.GoesOver o) := by
    refine ⟨h, fun u hu c hc => ?_⟩
    rw [List.mem_singleton.1 hu] at hc
    cases hc
  have hend := hstart.after hP (d := d) (o := o) id
  unfold heard at hc
  rw [Feed.read_fst] at hc
  cases hfind : ((x.withFeed loneFeed).after d o).feed.subscribers.find? fun s => s.number == 0 && s.isOpen with
  | none =>
    rw [hfind] at hc
    cases hc
  | some u =>
    rw [hfind] at hc
    exact hend.told u (List.mem_of_find?_eq_some hfind) change hc

end Index

end FileIndex
