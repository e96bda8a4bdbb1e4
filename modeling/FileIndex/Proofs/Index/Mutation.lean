/-
What the changes of single entries do to a sound index. Each operation is given by its outcome: the arena and
the trees behind it, and what it told (`Tells`), to the counters in numbers and to the feed in changes.
-/
import FileIndex.Proofs.Index.Perform
import FileIndex.Proofs.Index.Sound
import FileIndex.Proofs.Tree.Add
import FileIndex.Proofs.Tree.Change

namespace FileIndex

open Arena

namespace Index

variable {x y z : Index} {t t' : Tree} {i : Nat} {root : Option Path} {p old new : Path} {d : Disk}
  {a b : Arena} {id top : NodeId} {made : Option NodeId}

/-! ## What is told -/

/-- What an operation told: numbers to the counters, changes to the feed. -/
structure Tells (x y : Index) (changes : List IndexChange) (added removed : Nat) : Prop where
  size : y.size = x.size + added - removed
  counter : x.counter = x.size → y.counter = y.size
  feed : y.feed = changes.foldl Feed.publish x.feed

/-- An operation that told nothing. -/
theorem tells_nothing (hs : y.size = x.size) (hc : y.counter = x.counter) (hf : y.feed = x.feed) :
    Tells x y [] 0 0 := ⟨hs, fun h => by rw [hc, hs, h], hf⟩

/-- Whether a node is an entry of no search: a directory at the root of a tree that stands below no
other. -/
def isBare (a : Arena) (t : Tree) (id : NodeId) : Bool :=
  decide (t.root = some id) && !t.isChild && (a.get? id).any (·.isDirectory)

theorem isBareRoot_eq (hid : a.contains id = true) : isBareRoot a t id = .ok (isBare a t id) := by
  obtain ⟨n, hn⟩ := contains_iff.1 hid
  unfold isBareRoot isBare
  split
  · rename_i h
    rw [get_of_get? hn, ok_bind, hn, pure_eq_ok]
    simp_all
  · rename_i h
    rw [pure_eq_ok]
    simp_all

@[simp] theorem perform_snapshotsBelow (x : Index) (id : NodeId) :
    x.perform (snapshotsBelow id) = (.ok (x.arena.snapshots (x.arena.subtree id)).1,
      { x with arena := (x.arena.snapshots (x.arena.subtree id)).2 }) := rfl

/-! ## Paths that no tree owns -/

theorem perform_addPath_unowned (ho : x.owner? root p = none) : x.perform (addPath d root p) = (.ok none, x) := by
  simp only [addPath, perform_bind, perform_get, ho, perform_pure]

theorem perform_removePath_unowned (ho : x.owner? root p = none) : x.perform (removePath root p) = (.ok none, x) := by
  simp only [removePath, perform_bind, perform_get, ho, perform_pure]

theorem perform_renamePath_unowned (ho : x.owner? root old = none) :
    x.perform (renamePath d root old new) = (.ok none, x) := by
  simp only [renamePath, perform_bind, perform_get, ho, perform_pure]

theorem perform_refreshPath_unowned (ho : x.owner? root p = none) :
    x.perform (refreshPath d root p) = (.ok none, x) := by
  simp only [refreshPath, perform_bind, perform_get, ho, perform_pure]

theorem perform_setPinned_unowned {on : Bool} (ho : x.owner? none p = none) :
    x.perform (setPinned p on) = (.ok none, x) := by
  simp only [setPinned, perform_bind, perform_get, ho, perform_pure]

/-! ## Adding -/

theorem addOutcome_area (h : Tree.AddOutcome t a p made t' b) : t'.area = t.area := by
  cases h <;> rfl

theorem Sound.add (h : x.Sound) (hi : x.trees[i]? = some t)
    (ho : Tree.AddOutcome t x.arena p made t' b) (hal : Alike b y.arena) (hk : y.arena.PathsKnown)
    (ht : y.trees = x.trees.set i t') : y.Sound := by
  refine ⟨?_, ?_, hk⟩
  · rw [ht]
    refine Forest.sameLinks ?_ hal.sameLinks
    obtain ⟨before, after, hts, hset⟩ := set_eq_append hi t'
    have hf := h.forest
    cases ho with
    | unchanged =>
      rw [hset, ← hts]
      exact hf
    | root hr hs _ =>
      rw [hset]
      rw [hts] at hf
      exact hf.grown_root hr hs.toGrown
    | below _ _ hs _ =>
      rw [hset, ← hts]
      exact hf.grown_below hs.toGrown
  · rw [ht, map_area_set hi (addOutcome_area ho)]
    exact h.apart

theorem addOutcome_pathsKnown (ha : a.WellFormed) (hk : a.PathsKnown)
    (h : Tree.AddOutcome t a p made t' b) : b.WellFormed ∧ b.PathsKnown := by
  cases h with
  | unchanged => exact ⟨ha, hk⟩
  | root _ hs _ | below _ _ hs _ => exact ⟨hs.wellFormed, hk.sprouted ha hs⟩

theorem addOutcome_contains (h : Tree.AddOutcome t a p (some top) t' b) : b.contains top = true := by
  cases h with
  | root _ hs hm | below _ _ hs hm =>
    obtain rfl : top = _ := by simpa using hm
    exact hs.contains_top

/-- What an addition does: the tree's addition, told as far as it has an answer. -/
theorem perform_addPath (h : x.Sound) (ho : x.owner? root p = some (i, t)) (d : Disk) :
    ∃ made t' b y, t.add x.arena d p = .ok (made, t', b) ∧ Tree.AddOutcome t x.arena p made t' b ∧
      x.perform (addPath d root p) = (.ok (made.bind b.view?), y) ∧ y.Sound ∧ Alike b y.arena ∧
      y.trees = x.trees.set i t' ∧ (made = none → Tells x y [] 0 0) ∧
      ∀ top, made = some top → Tells x y [.add (b.views (b.subtree top))] (b.subtree top).length
        (if isBare b t' top then 1 else 0) := by
  have hi := get_of_owner? ho
  obtain ⟨made, t', b, hadd, hout⟩ := Tree.add_spec h.wellFormed (h.contains_root (mem_of_owner? ho)) d p
  obtain ⟨hb, hk⟩ := addOutcome_pathsKnown h.wellFormed h.paths hout
  cases made with
  | none =>
    refine ⟨none, t', b, { x with arena := b, trees := x.trees.set i t' }, hadd, hout, ?_, ?_, .refl b,
      rfl, fun _ => tells_nothing rfl rfl rfl, fun _ hm => by cases hm⟩
    · simp only [addPath, perform_bind, perform_get, ho, perform_lift, hadd, perform_set, perform_pure]
      rfl
    · exact h.add hi hout (.refl b) hk rfl
  | some top =>
    have htop := addOutcome_contains hout
    obtain ⟨hviews, hk'⟩ := hk.snapshots hb (b.subtree top)
    have hlive := hb.contains_of_mem_subtree htop
    have hlen := hb.length_views hlive
    obtain ⟨s, hs⟩ := Option.isSome_iff_exists.1 (hb.view?_isSome htop)
    have hhead : (b.views (b.subtree top)).head? = some s := by
      rw [views, hb.subtree_eq htop, List.filterMap_cons_some hs]
      rfl
    have hrun : x.perform (addPath d root p) = (.ok (some s), Index.publish
        (adjust { x with arena := (b.snapshots (b.subtree top)).2, trees := x.trees.set i t' }
          (b.subtree top).length (if isBare b t' top then 1 else 0)) (.add (b.views (b.subtree top)))) := by
      rw [← hhead, ← hlen]
      unfold views
      rw [← hviews]
      simp only [addPath, perform_bind, perform_get, ho, perform_lift, hadd, perform_set, perform_pure,
        perform_snapshotsBelow, isBareRoot_eq htop, perform_modify]
      rfl
    refine ⟨some top, t', b, (x.perform (addPath d root p)).2, hadd, hout, ?_⟩
    rw [hrun, Option.bind_some, hs]
    refine ⟨rfl, h.add hi hout (alike_snapshots b _) hk' rfl, alike_snapshots b _, rfl,
      by simp, fun top' ht => ?_⟩
    obtain rfl : top = top' := Option.some.inj ht
    exact ⟨rfl, fun _ => rfl, rfl⟩

/-! ## Removing -/

theorem forgetRoots_forget {gone : List NodeId} (hid : id ∈ gone) (t : Tree) :
    forgetRoots gone (t.forget id) = forgetRoots gone t := by
  unfold Tree.forget
  split
  · rename_i hr
    rw [forgetRoots_of_mem hr hid]
    rfl
  · rfl

theorem map_forgetRoots_set {gone : List NodeId} {ts : List Tree} (hid : id ∈ gone)
    (hi : ts[i]? = some t) :
    (ts.set i (t.forget id)).map (forgetRoots gone) = ts.map (forgetRoots gone) := by
  obtain ⟨before, after, hts, hset⟩ := set_eq_append hi (t.forget id)
  rw [hset, hts]
  simp [forgetRoots_forget hid]

theorem map_area_forgetRoots (gone : List NodeId) (ts : List Tree) :
    (ts.map (forgetRoots gone)).map (·.area) = ts.map (·.area) := by
  rw [List.map_map]
  refine List.map_congr_left fun t _ => ?_
  unfold Function.comp forgetRoots
  split <;> rfl

theorem Sound.cut (h : x.Sound) (hid : x.arena.contains id = true) (hc : Cut x.arena y.arena id)
    (ht : y.trees = x.trees.map (forgetRoots (x.arena.subtree id))) : y.Sound where
  forest := by
    rw [ht]
    exact h.forest.cut hc fun j _ => h.wellFormed.mem_subtree hid
  apart := by
    rw [ht, map_area_forgetRoots]
    exact h.apart
  paths := h.paths.cut h.wellFormed hc

/-- A node that was taken out, looked at and released is cut off. -/
theorem cut_takeOut (h : a.WellFormed) (hid : a.contains id = true) (hl : SameLinks (a.detach id).2 b)
    (hrest : ∀ j, ¬a.Below id j → b.get? j = (a.detach id).2.get? j) :
    Cut a ((b.snapshots (b.subtree id)).2.release id).2 id := by
  have hd := h.detached_detach id
  have hal := alike_snapshots b (b.subtree id)
  refine hd.trans_sameLinks h (hl.trans hal.sameLinks) fun j hj => ?_
  rw [get?_snapshots_of_not_mem, hrest j hj]
  rw [hl.subtree, hd.subtree_self h hid]
  exact fun hm => hj (h.below_of_mem_subtree hm)

/-- What is looked at of a node that was taken out is all that stood at and below it. -/
theorem ids_takeOut (h : a.WellFormed) (hid : a.contains id = true) (hl : SameLinks (a.detach id).2 b) :
    (b.snapshots (b.subtree id)).1.map Snapshot.id = a.subtree id := by
  have hd := h.detached_detach id
  have hb : b.WellFormed := hl.wellFormed ((hd.unlinked h).wellFormed h)
  have hsub : b.subtree id = a.subtree id := by rw [hl.subtree, hd.subtree_self h hid]
  rw [hb.snapshots_ids, List.filter_eq_self.2, hsub]
  intro j hj
  rw [hl.contains, (hd.unlinked h).contains]
  exact h.contains_of_mem_subtree hid j (by rwa [hsub] at hj)

/-- **What a removal does**: it cuts the node off and tells of all that stood at and below it. -/
theorem perform_removePath (h : x.Sound) (ho : x.owner? root p = some (i, t))
    (hl : t.located? x.arena p = some id) :
    ∃ y nodes, x.perform (removePath root p) = (.ok nodes.head?, y) ∧ y.Sound ∧
      Cut x.arena y.arena id ∧ y.trees = x.trees.map (forgetRoots (x.arena.subtree id)) ∧
      nodes.map Snapshot.id = x.arena.subtree id ∧
      Tells x y [.remove nodes] (if isBare x.arena t id then 1 else 0) (x.arena.subtree id).length := by
  have ha := h.wellFormed
  have hi := get_of_owner? ho
  have hroot := h.contains_root (mem_of_owner? ho)
  obtain ⟨r, hr, hbr⟩ := Tree.below_of_located? ha hl
  have hid := hbr.contains (hroot r hr)
  have hlocate : t.locate x.arena p = .ok (some id) := by rw [Tree.locate_eq ha hroot, hl]
  obtain ⟨b, htake, hsame, hrest⟩ := Tree.takeOut_spec ha hid p.parent?
  have hids := ids_takeOut ha hid hsame
  have hlen : (b.snapshots (b.subtree id)).1.length = (x.arena.subtree id).length := by
    rw [← hids, List.length_map]
  have hcut := cut_takeOut ha hid hsame hrest
  have htrees : (x.trees.set i (t.forget id)).map
      (forgetRoots ((b.snapshots (b.subtree id)).1.map Snapshot.id)) =
      x.trees.map (forgetRoots (x.arena.subtree id)) := by
    rw [hids]
    exact map_forgetRoots_set (ha.self_mem_subtree hid) hi
  have hrun : x.perform (removePath root p) = (.ok (b.snapshots (b.subtree id)).1.head?, publish
      (adjust { x with
        trees := x.trees.map (forgetRoots (x.arena.subtree id))
        arena := ((b.snapshots (b.subtree id)).2.release id).2 }
        (if isBare x.arena t id then 1 else 0) (x.arena.subtree id).length)
      (.remove (b.snapshots (b.subtree id)).1)) := by
    rw [← hlen, ← htrees]
    simp only [removePath, perform_bind, perform_get, ho, perform_lift, hlocate, isBareRoot_eq hid,
      perform_modify, htake, perform_snapshotsBelow, perform_pure]
    rfl
  refine ⟨(x.perform (removePath root p)).2, (b.snapshots (b.subtree id)).1, ?_⟩
  rw [hrun]
  exact ⟨rfl, h.cut hid hcut rfl, hcut, rfl, hids, rfl, fun _ => rfl, rfl⟩

theorem perform_removePath_none (h : x.Sound) (ho : x.owner? root p = some (i, t))
    (hl : t.located? x.arena p = none) : x.perform (removePath root p) = (.ok none, x) := by
  have hlocate : t.locate x.arena p = .ok none := by
    rw [Tree.locate_eq h.wellFormed (h.contains_root (mem_of_owner? ho)), hl]
  simp only [removePath, perform_bind, perform_get, ho, perform_lift, hlocate, perform_pure]

/-! ## Renaming -/

/-- The nodes whose place a rename takes, as far as it knows: those at and below another node at the new
path. -/
def replacedNodes (t : Tree) (a : Arena) (old new : Path) : List NodeId :=
  match t.located? a old, t.located? a new with
  | some s, some e => if s = e then [] else a.subtree e
  | _, _ => []

/-- The index that a rename works on, once it has looked at what it replaces. -/
def looked (x : Index) (t : Tree) (old new : Path) : Index :=
  { x with arena := (x.arena.snapshots (replacedNodes t x.arena old new)).2 }

/-- What is told of the nodes whose place a rename takes. -/
def toldReplaced (nodes : List Snapshot) : List IndexChange :=
  if nodes.isEmpty then [] else [.remove nodes]

theorem perform_replacedBy (x : Index) (t : Tree) (old new : Path) :
    x.perform (replacedBy (t.located? x.arena old) (t.located? x.arena new)) =
      (.ok (x.arena.snapshots (replacedNodes t x.arena old new)).1, x.looked t old new) := by
  unfold replacedBy looked replacedNodes
  cases t.located? x.arena old with
  | none => rfl
  | some s =>
    cases t.located? x.arena new with
    | none => rfl
    | some e =>
      by_cases hse : s = e
      · simp only [hse, if_true]
        rfl
      · simp only [hse, if_false]
        rfl

theorem replacedNodes_live (h : a.WellFormed) (hroot : ∀ r, t.root = some r → a.contains r = true) :
    ∀ j ∈ replacedNodes t a old new, a.contains j = true := by
  intro j hj
  unfold replacedNodes at hj
  split at hj
  · rename_i s e _ he
    split at hj
    · simp at hj
    · obtain ⟨r, hr, hb⟩ := Tree.below_of_located? h he
      exact h.contains_of_mem_subtree (hb.contains (hroot r hr)) j hj
  · simp at hj

theorem alike_looked (x : Index) (t : Tree) (old new : Path) : Alike x.arena (x.looked t old new).arena :=
  alike_snapshots _ _

theorem Sound.looked (h : x.Sound) (t : Tree) (old new : Path) : (x.looked t old new).Sound :=
  h.of_alike (alike_looked x t old new) (h.paths.snapshots h.wellFormed _).2 rfl

theorem perform_renamePath_moves (h : x.Sound) (ho : x.owner? root old = some (i, t))
    (hmove : ¬old.sameParent new) : x.perform (renamePath d root old new) =
      (.error (.renameMoves old.spelling new.spelling), x.looked t old new) := by
  have hroot := h.contains_root (mem_of_owner? ho)
  simp only [renamePath, perform_bind, perform_get, ho, perform_lift, Tree.locate_eq h.wellFormed hroot,
    perform_replacedBy, Tree.rename_moves hmove]

/-- Where there is nothing to rename, the new path is added. -/
theorem perform_renamePath_absent (h : x.Sound) (ho : x.owner? root old = some (i, t))
    (hmove : old.sameParent new) (hn : t.renames? x.arena old new = none) :
    x.perform (renamePath d root old new) = (x.looked t old new).perform (addPath d root new) := by
  have hroot := h.contains_root (mem_of_owner? ho)
  have hx := h.looked t old new
  have hren : t.rename (x.looked t old new).arena old new = .ok (none, (x.looked t old new).arena) := by
    rw [Tree.rename_eq hx.wellFormed (hx.contains_root (mem_of_owner? ho)) hmove,
      Tree.renames?_alike (alike_looked x t old new), hn]
  simp only [renamePath, perform_bind, perform_get, ho, perform_lift, Tree.locate_eq h.wellFormed hroot,
    perform_replacedBy, hren, perform_modify]
  rfl

/-- **What a rename does**: it cuts off the rival, gives the node its name and tells of the nodes that it knew
to be replaced and of those that have another path now. -/
theorem perform_renamePath (h : x.Sound) (ho : x.owner? root old = some (i, t))
    (hmove : old.sameParent new) (hn : t.renames? x.arena old new = some id) :
    ∃ y, x.perform (renamePath d root old new) = (.ok (y.arena.view? id), y) ∧ y.trees = x.trees ∧
      Alike (((x.looked t old new).arena.cleared id new.entryName).renamed id new.entryName) y.arena ∧
      y.arena.PathsKnown ∧
      Tells x y (toldReplaced (x.arena.views (replacedNodes t x.arena old new)) ++
        [.rename (y.arena.views (y.arena.subtree id)) old]) 0
        (replacedNodes t x.arena old new).length := by
  have ha := h.wellFormed
  have hroot := h.contains_root (mem_of_owner? ho)
  have hx := h.looked t old new
  have hal := alike_looked x t old new
  obtain ⟨r, hr, hbr⟩ := Tree.below_of_located? ha (Tree.located?_of_renames? hn)
  have hid : (x.looked t old new).arena.contains id = true := by
    rw [hal.contains, hbr.contains (hroot r hr)]
  have hren : t.rename (x.looked t old new).arena old new = .ok (some id,
      ((x.looked t old new).arena.cleared id new.entryName).renamed id new.entryName) := by
    rw [Tree.rename_eq hx.wellFormed (hx.contains_root (mem_of_owner? ho)) hmove,
      Tree.renames?_alike hal, hn]
  have hreplaced : (x.arena.snapshots (replacedNodes t x.arena old new)).1 =
      x.arena.views (replacedNodes t x.arena old new) := (h.paths.snapshots ha _).1
  have hlen : (x.arena.views (replacedNodes t x.arena old new)).length =
      (replacedNodes t x.arena old new).length := ha.length_views (replacedNodes_live ha hroot)
  generalize hnodes : (x.arena.snapshots (replacedNodes t x.arena old new)).1 = replaced at hreplaced
  have hcwf := (sameLinks_renamed ((x.looked t old new).arena.cleared id new.entryName) id
    new.entryName).wellFormed (hx.wellFormed.cleared id new.entryName)
  have hck := (hx.paths.cleared hx.wellFormed id new.entryName).renamed (hx.wellFormed.cleared id _)
    (contains_cleared hx.wellFormed hid new.entryName) new.entryName
  have hcid : (((x.looked t old new).arena.cleared id new.entryName).renamed id
      new.entryName).contains id = true := by
    rw [(sameLinks_renamed _ id _).contains, contains_cleared hx.wellFormed hid]
  generalize ((x.looked t old new).arena.cleared id new.entryName).renamed id new.entryName = c
    at hren hcwf hck hcid ⊢
  obtain ⟨hviews, hk⟩ := hck.snapshots hcwf (c.subtree id)
  have halc := alike_snapshots c (c.subtree id)
  have hrun : x.perform (renamePath d root old new) = (.ok (c.snapshots (c.subtree id)).1.head?,
      (if replaced.isEmpty then ({ x with arena := (c.snapshots (c.subtree id)).2 } : Index)
        else (adjust { x with arena := (c.snapshots (c.subtree id)).2 } 0 replaced.length).publish
          (.remove replaced)).publish (.rename (c.snapshots (c.subtree id)).1 old)) := by
    simp only [renamePath, perform_bind, perform_get, ho, perform_lift, Tree.locate_eq h.wellFormed hroot,
      perform_replacedBy, hren, perform_modify, hnodes]
    cases hr : replaced.isEmpty with
    | true =>
      simp only [Bool.not_true, Bool.false_eq_true, if_false, perform_bind, perform_snapshotsBelow,
        perform_modify, perform_pure, if_true]
      rfl
    | false =>
      simp only [Bool.not_false, Bool.false_eq_true, if_false, perform_bind, perform_snapshotsBelow,
        perform_modify, perform_pure, if_true]
      rfl
  obtain ⟨s, hs⟩ := Option.isSome_iff_exists.1 (hcwf.view?_isSome hcid)
  have hhead : (c.views (c.subtree id)).head? = some s := by
    rw [views, hcwf.subtree_eq hcid, List.filterMap_cons_some hs]
    rfl
  have hs' : (c.snapshots (c.subtree id)).2.view? id = some s := by rw [halc.view? hcwf, hs]
  have hv : (c.snapshots (c.subtree id)).2.views ((c.snapshots (c.subtree id)).2.subtree id) =
      (c.snapshots (c.subtree id)).1 := by
    rw [halc.views hcwf, halc.sameLinks.subtree, hviews]
    rfl
  refine ⟨(x.perform (renamePath d root old new)).2, ?_⟩
  rw [hrun, ← hreplaced, ← hlen, ← hreplaced]
  unfold views at hhead
  rw [← hviews] at hhead
  rw [hhead]
  unfold toldReplaced
  cases hr : replaced with
  | nil => exact ⟨by rw [← hs']; rfl, rfl, halc, hk, rfl, fun hc => hc, by rw [← hv]; rfl⟩
  | cons u us => exact ⟨by rw [← hs']; rfl, rfl, halc, hk, rfl, fun _ => rfl, by rw [← hv]; rfl⟩

/-! ## Changes in place -/

/-- A change of a node that touches neither links nor paths. -/
structure InPlace (f : Node → Node) : Prop where
  parent : ∀ n, (f n).parent = n.parent
  children : ∀ n, (f n).children = n.children
  name : ∀ n, (f n).name = n.name
  anchor : ∀ n, (f n).anchor = n.anchor
  knownPath : ∀ n, (f n).knownPath = n.knownPath

/-- What a change in place leaves: the changed node is looked at and published. -/
structure Updated (x y : Index) (f : Node → Node) (id : NodeId) : Prop where
  sound : y.Sound
  alike : Alike (x.arena.modify id f) y.arena
  trees : y.trees = x.trees
  tells : ∃ s, y.arena.view? id = some s ∧ Tells x y [.update [s]] 0 0

theorem perform_publishUpdate {f : Node → Node} (h : x.Sound) (hf : InPlace f)
    (hid : x.arena.contains id = true) :
    ∃ y, (x.withArena (x.arena.modify id f)).perform (publishUpdate id) = (.ok (y.arena.view? id), y) ∧
      Updated x y f id := by
  have hl : SameLinks x.arena (x.arena.modify id f) := sameLinks_modify hf.parent hf.children
  have hwf := hl.wellFormed h.wellFormed
  have hk : (x.arena.modify id f).PathsKnown :=
    h.paths.modify h.wellFormed hf.parent hf.children hf.name hf.anchor hf.knownPath
  obtain ⟨s, hs⟩ := Option.isSome_iff_exists.1 (hwf.view?_isSome (by rw [hl.contains, hid]))
  obtain ⟨hview, hk'⟩ := hk.snapshot hwf id
  have hal := alike_snapshot (x.arena.modify id f) id
  have hs' : ((x.arena.modify id f).snapshot id).2.view? id = some s := by rw [hal.view? hwf, hs]
  have hsnap : (x.withArena (x.arena.modify id f)).perform (snapshot id) =
      (.ok (some s), { x with arena := ((x.arena.modify id f).snapshot id).2 }) := by
    rw [← hs, ← hview]
    rfl
  have hrun : (x.withArena (x.arena.modify id f)).perform (publishUpdate id) = (.ok (some s),
      publish { x with arena := ((x.arena.modify id f).snapshot id).2 } (.update [s])) := by
    simp only [publishUpdate, perform_bind, hsnap, perform_modify, perform_pure]
  refine ⟨((x.withArena (x.arena.modify id f)).perform (publishUpdate id)).2, ?_⟩
  rw [hrun]
  exact ⟨by rw [← hs']; rfl, ⟨(h.forest.sameLinks hl).sameLinks hal.sameLinks, h.apart, hk'⟩, hal, rfl, s,
    hs', rfl, fun hc => hc, rfl⟩

theorem inPlace_metadata (metadata : Metadata) : InPlace fun n => { n with metadata } :=
  ⟨fun _ => rfl, fun _ => rfl, fun _ => rfl, fun _ => rfl, fun _ => rfl⟩

theorem inPlace_pinned (on : Bool) :
    InPlace fun n => { n with flags := { n.flags with pinned := on } } :=
  ⟨fun _ => rfl, fun _ => rfl, fun _ => rfl, fun _ => rfl, fun _ => rfl⟩

theorem contains_of_located? (h : x.Sound) (ho : x.owner? root p = some (i, t))
    (hl : t.located? x.arena p = some id) : x.arena.contains id = true := by
  obtain ⟨r, hr, hb⟩ := Tree.below_of_located? h.wellFormed hl
  exact hb.contains (h.contains_root (mem_of_owner? ho) r hr)

theorem perform_refreshPath {metadata : Metadata} (h : x.Sound) (ho : x.owner? root p = some (i, t))
    (hl : t.located? x.arena p = some id) (hm : d.metadata? p = some metadata) :
    ∃ y, x.perform (refreshPath d root p) = (.ok (y.arena.view? id), y) ∧
      Updated x y (fun n => { n with metadata }) id := by
  obtain ⟨y, hrun, hu⟩ := perform_publishUpdate h (inPlace_metadata metadata) (contains_of_located? h ho hl)
  refine ⟨y, ?_, hu⟩
  simp only [refreshPath, perform_bind, perform_get, ho, perform_lift,
    Tree.refresh_eq h.wellFormed (h.contains_root (mem_of_owner? ho)), hl, hm, perform_set]
  exact hrun

theorem perform_refreshPath_absent (h : x.Sound) (ho : x.owner? root p = some (i, t))
    (hn : t.located? x.arena p = none ∨ d.metadata? p = none) :
    x.perform (refreshPath d root p) = (.ok none, x) := by
  have hre : t.refresh x.arena d p = .ok (none, x.arena) := by
    rw [Tree.refresh_eq h.wellFormed (h.contains_root (mem_of_owner? ho))]
    rcases hn with hn | hn
    · rw [hn]
    · rw [hn]
      cases t.located? x.arena p <;> rfl
  simp only [refreshPath, perform_bind, perform_get, ho, perform_lift, hre, perform_set, perform_pure]
  rfl

theorem perform_setPinned (h : x.Sound) (ho : x.owner? none p = some (i, t))
    (hl : t.located? x.arena p = some id) (on : Bool) :
    ∃ y, x.perform (setPinned p on) = (.ok (y.arena.view? id), y) ∧
      Updated x y (fun n => { n with flags := { n.flags with pinned := on } }) id := by
  obtain ⟨y, hrun, hu⟩ := perform_publishUpdate h (inPlace_pinned on) (contains_of_located? h ho hl)
  refine ⟨y, ?_, hu⟩
  simp only [setPinned, perform_bind, perform_get, ho, perform_lift,
    Tree.setPinned_eq h.wellFormed (h.contains_root (mem_of_owner? ho)), hl, perform_set]
  exact hrun

theorem perform_setPinned_absent (h : x.Sound) (ho : x.owner? none p = some (i, t))
    (hn : t.located? x.arena p = none) (on : Bool) : x.perform (setPinned p on) = (.ok none, x) := by
  simp only [setPinned, perform_bind, perform_get, ho, perform_lift,
    Tree.setPinned_eq h.wellFormed (h.contains_root (mem_of_owner? ho)), hn, perform_set, perform_pure]
  rfl

end Index

end FileIndex
