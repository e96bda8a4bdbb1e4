/-
Arenas in order in every run, also in one that has lost roots. A tree whose root was lost points to an empty slot, or to
whatever was put there since; still every operation detaches what it releases and hangs up only what has no parent, so
the links of the arena agree and, on disks as there can be, siblings have names of their own (`Maintains`). The one
exception is an adoption that would put a root below itself (`ClosesCircle`): there the program follows the circle
without an end, and no index comes out of it (`Returns`). What all else does to an arena in order are a few changes; a
property that lasts through these lasts in every run (`Durable`).
-/
import FileIndex.Proofs.Index.Count
import FileIndex.Proofs.Index.Level

namespace FileIndex

open Arena

variable {x y z : Index} {d : Disk} {a b c : Arena} {t t' : Tree} {i : Nat} {id j parent top : NodeId} {p old new : Path}
  {root : Option Path} {made : Option NodeId} {fault : Fault} {f : Node → Node} {name : String} {α : Type}
  {areas : List Area} {cancellation : Cancellation} {rest : List (Nat × Nat)} {o : Operation}
  {run : List (Disk × Operation)}

/-! ## What is kept -/

/-- What an operation keeps of an arena in order: its order, and the distinct names of siblings. -/
structure Maintains (d : Disk) (a b : Arena) : Prop where
  wellFormed : b.WellFormed
  distinct : d.Valid → a.Distinct → b.Distinct

namespace Maintains

theorem refl (h : a.WellFormed) : Maintains d a a := ⟨h, fun _ => id⟩

theorem trans (h : Maintains d a b) (k : Maintains d b c) : Maintains d a c :=
  ⟨k.wellFormed, fun hv ha => k.distinct hv (h.distinct hv ha)⟩

theorem of_names (h : a.WellFormed) (hl : SameLinks a b) (hn : ∀ j, b.name? j = a.name? j) : Maintains d a b :=
  ⟨hl.wellFormed h, fun _ ha => ha.congr hl.children hn⟩

theorem alike (h : a.WellFormed) (hal : Alike a b) : Maintains d a b := of_names h hal.sameLinks hal.name?

theorem cut (h : a.WellFormed) (hc : Cut a b id) : Maintains d a b := ⟨hc.wellFormed, fun _ => hc.distinct h⟩

theorem detach (h : a.WellFormed) (id : NodeId) : Maintains d a (a.detach id).2 :=
  have hd := h.detached_detach id
  ⟨(hd.unlinked h).wellFormed h, fun _ => hd.distinct h⟩

theorem inPlace (h : a.WellFormed) (hf : Index.InPlace f) (id : NodeId) : Maintains d a (a.modify id f) :=
  of_names h (sameLinks_modify hf.parent hf.children) (name?_modify hf.name a id)

theorem renamed (h : a.WellFormed) (hid : a.contains id = true) (name : String) :
    Maintains d a ((a.cleared id name).renamed id name) :=
  ⟨(sameLinks_renamed _ id name).wellFormed (h.cleared id name), fun _ ha => ha.renamed h hid name⟩

end Maintains

/-! ## Trees with any roots -/

namespace Tree

/-- Where a look-up comes to an end, it ends at the node that the names lead to. -/
theorem locate_eq_ok {q : Path} {found : Option NodeId} (h : a.WellFormed) (hl : t.locate a q = .ok found) :
    found = t.located? a q := by
  by_cases hlive : ∀ r, t.root = some r → a.contains r = true
  · rw [locate_eq h hlive, Except.ok.injEq] at hl
    exact hl.symm
  · push Not at hlive
    obtain ⟨r, hr, hstale⟩ := hlive
    unfold locate at hl
    rw [hr] at hl
    rw [located?, hr, Option.bind_some, names?]
    cases hb : q.below? t.area.path with
    | none =>
      rw [hb] at hl
      cases hl
      rfl
    | some rest =>
      rw [hb] at hl
      cases rest with
      | nil =>
        cases hl
        rfl
      | cons k rest =>
        cases k with
        | name n =>
          simp only [locateBelow, findChild, Arena.get, get?_eq_none.2 hstale] at hl
          cases hl
        | root | here | up =>
          cases hl
          rfl

/-- A tree whose root is not there adds nothing. -/
theorem add_of_stale {r : NodeId} (hr : t.root = some r) (hstale : ¬a.contains r = true)
    (hadd : t.add a d p = .ok (made, t', b)) : made = none ∧ t' = t ∧ b = a := by
  unfold add at hadd
  split at hadd
  · rename_i rest metadata _ _
    split at hadd
    · cases hadd
      exact ⟨rfl, rfl, rfl⟩
    · have hensure : t.ensureRoot a d p metadata rest = .ok (r, none, a) := by
        rw [ensureRoot, hr]
        rfl
      have ht : { t with root := some r } = t := by rw [← hr]
      rw [hensure, ok_bind] at hadd
      dsimp only at hadd
      rw [ht] at hadd
      cases rest with
      | nil =>
        cases hadd
        exact ⟨rfl, rfl, rfl⟩
      | cons k rest =>
        cases k with
        | name n =>
          simp only [addBelow, findChild, Arena.get, get?_eq_none.2 hstale] at hadd
          cases hadd
        | root | here | up =>
          cases hadd
          exact ⟨rfl, rfl, rfl⟩
  · cases hadd
    exact ⟨rfl, rfl, rfl⟩

/-- Whatever the root of a tree, an addition that comes to an end has an outcome. -/
theorem addOutcome_of_ok (h : a.WellFormed) (hadd : t.add a d p = .ok (made, t', b)) : AddOutcome t a p made t' b := by
  by_cases hlive : ∀ r, t.root = some r → a.contains r = true
  · obtain ⟨made', u, c, hrun, hout⟩ := add_spec h hlive d p
    rw [hadd, Except.ok.injEq, Prod.mk.injEq, Prod.mk.injEq] at hrun
    obtain ⟨rfl, rfl, rfl⟩ := hrun
    exact hout
  · push Not at hlive
    obtain ⟨r, hr, hstale⟩ := hlive
    obtain ⟨rfl, rfl, rfl⟩ := add_of_stale hr hstale hadd
    exact .unchanged

theorem maintains_add (h : a.WellFormed) (hadd : t.add a d p = .ok (made, t', b)) : Maintains d a b := by
  have hb : b.WellFormed := by
    cases addOutcome_of_ok h hadd with
    | unchanged => exact h
    | root _ hs _ | below _ _ hs _ => exact hs.wellFormed
  refine ⟨hb, fun hv ha => ?_⟩
  by_cases hlive : ∀ r, t.root = some r → a.contains r = true
  · exact (add_distinct hv h ha hlive hadd).1
  · push Not at hlive
    obtain ⟨r, hr, hstale⟩ := hlive
    obtain ⟨-, -, rfl⟩ := add_of_stale hr hstale hadd
    exact ha

/-- A rename that comes to an end gives a node that is there its name, or changes nothing. -/
theorem rename_eq_ok {found : Option NodeId} (h : a.WellFormed) (hren : t.rename a old new = .ok (found, b)) :
    old.sameParent new = true ∧ found = t.renames? a old new ∧ (found = none → b = a) ∧
      ∀ id, found = some id → a.contains id = true ∧ b = (a.cleared id new.entryName).renamed id new.entryName := by
  obtain ⟨hmove, ⟨hnothing, rfl, rfl⟩ | ⟨harea, id, c, hl, hc, rfl, rfl⟩⟩ := rename_cases hren
  · refine ⟨hmove, ?_, fun _ => rfl, by simp⟩
    unfold renames?
    split
    · rename_i hcond
      exact locate_eq_ok h (hnothing.resolve_left hcond.2)
    · rfl
  · have hid := contains_of_clearName hc
    rw [clearName_eq h hid, Except.ok.injEq] at hc
    refine ⟨hmove, ?_, by simp, fun j hj => ?_⟩
    · rw [renames?, if_pos ⟨hmove, harea⟩, locate_eq_ok h hl]
    · obtain rfl := Option.some.inj hj
      exact ⟨hid, by rw [hc]⟩

end Tree

/-! ## What lasts -/

/-- Whether a property of arenas in order lasts through all that operations do to an arena: what is looked at is remembered
or settled, one node changes in place, entries are added, whole trees are built, taken away from their parents, cut off or
renamed, and a tree is adopted. -/
structure Durable (d : Disk) (I : Arena → Prop) : Prop where
  wellFormed : ∀ {a}, I a → a.WellFormed
  snapshots : ∀ {a} ids, I a → I (a.snapshots ids).2
  settled : ∀ {a b}, I a → Settled a b → I b
  change : ∀ {a b id f}, I a → Index.InPlace f → a.change id f = .ok b → I b
  add : ∀ {a b t p made t'}, I a → Tree.add t a d p = .ok (made, t', b) → I b
  ofCollected : ∀ {a b t area hidden includeHidden}, I a →
    Tree.ofCollected area includeHidden (Tree.found? d hidden area) a = .ok (t, b) → I b
  detach : ∀ {a} id, I a → I (a.detach id).2
  cut : ∀ {a b id}, I a → Cut a b id → I b
  renamed : ∀ {a id} name, I a → a.contains id = true → I ((a.cleared id name).renamed id name)
  adopted : ∀ {a j parent top}, I a → a.parent? j = some parent → j ≠ top → a.contains top = true → a.parent? top = none →
    ¬a.Below top parent → a.name? j = a.name? top → I ((a.cutAt j).attached parent top)

namespace Index

/-- Whether the arena of an index has a property. -/
def OfArena (I : Arena → Prop) (x : Index) : Prop := I x.arena

variable {I : Arena → Prop} (hI : Durable d I)

theorem leaves_of_arena {w : IndexM α} (h : I x.arena) (ha : (x.perform w).2.arena = x.arena) : Leaves (OfArena I) x w := by
  rw [Leaves, OfArena, ha]
  exact h

include hI

theorem upholds_snapshotsBelow (h : I x.arena) (id : NodeId) : Leaves (OfArena I) x (snapshotsBelow id) :=
  hI.snapshots _ h

/-! ## Edits -/

theorem upholds_addPath (h : I x.arena) (root : Option Path) (p : Path) : Leaves (OfArena I) x (addPath d root p) := by
  unfold addPath
  refine .get ?_
  split
  · exact h
  · rename_i i t _
    refine .lift h fun v hadd => .set ?_
    obtain ⟨made, t', b⟩ := v
    have hb : OfArena I ({ x with arena := b }.setTree i t') := hI.add h hadd
    cases made with
    | none => exact hb
    | some id =>
      exact .bind (upholds_snapshotsBelow hI hb id) fun nodes y _ hy => .lift hy fun bare _ => .modify hy

theorem upholds_removePath (h : I x.arena) (root : Option Path) (p : Path) :
    Leaves (OfArena I) x (removePath root p) := by
  unfold removePath
  refine .get ?_
  split
  · exact h
  · rename_i i t _
    refine .lift h fun found _ => ?_
    cases found with
    | none => exact h
    | some id =>
      refine .lift h fun bare _ => .modify (.lift h fun b htake => ?_)
      have hid : x.arena.contains id = true := by
        by_contra hgone
        rw [Tree.takeOut, if_pos (by simpa using hgone)] at htake
        cases htake
      obtain ⟨c, hc, hl, hrest⟩ := Tree.takeOut_spec (hI.wellFormed h) hid p.parent?
      obtain rfl : b = c := Except.ok.inj (htake.symm.trans hc)
      -- The node goes in several steps, but the arena is one without it in the end.
      have hcut := hI.cut h (cut_takeOut (hI.wellFormed h) hid hl hrest)
      unfold Leaves
      simp only [perform_bind, perform_modify, perform_snapshotsBelow, perform_pure]
      exact hcut

theorem upholds_replacedBy (h : I x.arena) (source target : Option NodeId) :
    Leaves (OfArena I) x (replacedBy source target) := by
  unfold replacedBy
  split
  · split
    · exact h
    · exact upholds_snapshotsBelow hI h _
  · exact h

theorem upholds_renamePath (h : I x.arena) (root : Option Path) (old new : Path) :
    Leaves (OfArena I) x (renamePath d root old new) := by
  unfold renamePath
  refine .get ?_
  split
  · exact h
  · rename_i i t _
    refine .lift h fun source _ => .lift h fun target _ => ?_
    refine .bind (upholds_replacedBy hI h source target) fun replaced y _ hy => .get (.lift hy fun v hren => ?_)
    obtain ⟨found, b⟩ := v
    obtain ⟨-, -, hnone, hsome⟩ := Tree.rename_eq_ok (hI.wellFormed hy) hren
    cases found with
    | none =>
      obtain rfl := hnone rfl
      exact .modify (upholds_addPath hI hy root new)
    | some id =>
      obtain ⟨hid, rfl⟩ := hsome id rfl
      have hb := hI.renamed new.entryName hy hid
      have hfinish : ∀ z : Index, I z.arena → Leaves (OfArena I) z (do
          let nodes ← snapshotsBelow id
          modify (·.publish (.rename nodes old))
          return nodes.head?) := fun z hz =>
        .bind (upholds_snapshotsBelow hI hz id) fun nodes w _ hw => .modify hw
      refine .modify ?_
      dsimp only
      split
      · exact .modify (hfinish _ hb)
      · exact hfinish (y.withArena _) hb

theorem upholds_publishUpdate (h : I x.arena) (id : NodeId) : Leaves (OfArena I) x (publishUpdate id) := by
  unfold publishUpdate
  refine .bind (show Leaves (OfArena I) x (snapshot id) from hI.snapshots [id] h) fun s y _ hy => ?_
  cases s with
  | none => exact hy
  | some s => exact .modify hy

theorem upholds_refreshPath (h : I x.arena) (root : Option Path) (p : Path) :
    Leaves (OfArena I) x (refreshPath d root p) := by
  unfold refreshPath
  refine .get ?_
  split
  · exact h
  · rename_i i t _
    refine .lift h fun v href => .set ?_
    obtain ⟨found, b⟩ := v
    have hb : I b := by
      unfold Tree.refresh at href
      obtain ⟨o, -, href⟩ := bind_eq_ok.1 href
      split at href
      · rename_i id metadata _
        obtain ⟨c, hc, href⟩ := bind_eq_ok.1 href
        cases href
        exact hI.change h (inPlace_metadata metadata) hc
      · cases href
        exact h
    cases found with
    | none => exact hb
    | some id => exact upholds_publishUpdate hI (x := x.withArena b) hb id

theorem upholds_setPinned (h : I x.arena) (p : Path) (on : Bool) : Leaves (OfArena I) x (setPinned p on) := by
  unfold setPinned
  refine .get ?_
  split
  · exact h
  · rename_i i t _
    refine .lift h fun v hpin => .set ?_
    obtain ⟨found, b⟩ := v
    have hb : I b := by
      unfold Tree.setPinned at hpin
      obtain ⟨o, -, hpin⟩ := bind_eq_ok.1 hpin
      split at hpin
      · obtain ⟨c, hc, hpin⟩ := bind_eq_ok.1 hpin
        cases hpin
        exact hI.change h (inPlace_pinned on) hc
      · cases hpin
        exact h
    cases found with
    | none => exact hb
    | some id => exact upholds_publishUpdate hI (x := x.withArena b) hb id

theorem upholds_applyChange (h : I x.arena) (r : Path) (change : PathChange) :
    Leaves (OfArena I) x (applyChange d r change) := by
  unfold applyChange
  refine .get ?_
  split
  · exact h
  · cases change with
    | created p =>
      refine .bind (upholds_addPath hI h (some r) p) fun found y _ hy => ?_
      split
      · exact .bind (upholds_refreshPath hI hy (some r) p) fun _ _ _ hz => hz
      · exact hy
    | deleted p => exact .bind (upholds_removePath hI h (some r) p) fun _ _ _ hy => hy
    | renamed old new => exact .bind (upholds_renamePath hI h (some r) old new) fun _ _ _ hy => hy
    | changed p =>
      refine .bind (upholds_refreshPath hI h (some r) p) fun found y _ hy => ?_
      split
      · exact .bind (upholds_addPath hI hy (some r) p) fun _ _ _ hz => hz
      · exact hy

theorem upholds_edit (h : I x.arena) (e : Edit) : Leaves (OfArena I) x (e.work d) := by
  cases e with
  | add root p => exact .bind (upholds_addPath hI h root p) fun _ _ _ hy => hy
  | remove root p => exact .bind (upholds_removePath hI h root p) fun _ _ _ hy => hy
  | rename root old new => exact .bind (upholds_renamePath hI h root old new) fun _ _ _ hy => hy
  | refresh root p => exact .bind (upholds_refreshPath hI h root p) fun _ _ _ hy => hy
  | pin p on => exact .bind (upholds_setPinned hI h p on) fun _ _ _ hy => hy
  | event r change => exact upholds_applyChange hI h r change

/-! ## Searches -/

theorem upholds_evaluateAll {items : List (NodeId × Item)} {queries : List CompiledQuery} {results : List (List Snapshot)}
    (h : I a) (he : evaluateAll items cancellation a queries = .ok (some (results, b))) : I b := by
  induction queries generalizing a results with
  | nil =>
    cases he
    exact h
  | cons q queries ih =>
    obtain ⟨found, -, he⟩ := bind_eq_ok.1 he
    cases found with
    | none => cases he
    | some found =>
      obtain ⟨rest, hrest, he⟩ := bind_eq_ok.1 he
      cases rest with
      | none => cases he
      | some rest =>
        obtain ⟨others, c⟩ := rest
        cases he
        exact ih (hI.snapshots _ h) hrest

theorem upholds_multiSearch (h : I x.arena) (queries : List CompiledQuery) (c : Cancellation) :
    Leaves (OfArena I) x (multiSearch queries c) := by
  unfold multiSearch
  refine .get (.lift h fun items _ => .lift h fun v he => ?_)
  cases v with
  | none => exact h
  | some v =>
    obtain ⟨results, b⟩ := v
    exact .set (hI.settled (upholds_evaluateAll hI h he) (settled_clearAdded { x with arena := b }))

theorem upholds_subscribedSearch (h : I x.arena) (q : CompiledQuery) (c : Cancellation) :
    Leaves (OfArena I) x (subscribedSearch q c) := by
  refine .bind (.bind (upholds_multiSearch hI h [q] c) fun _ _ _ hy => hy) fun found y _ hy => ?_
  cases found with
  | none => exact hy
  | some found => exact hy

/-! ## Watching -/

omit hI

theorem arena_watchTree (d : Disk) (x : Index) (t : Tree) : (x.perform (watchTree d t)).2.arena = x.arena := by
  simp only [watchTree, perform_bind, perform_get]
  split
  · rename_i root _ _
    simp only [perform_bind, perform_lift]
    cases x.arena.get root with
    | error fault => rfl
    | ok n =>
      dsimp only
      split <;> rfl
  · rfl

theorem arena_watchTrees (d : Disk) (ts : List Tree) (x : Index) :
    (x.perform (watchTrees d ts)).2.arena = x.arena := by
  induction ts generalizing x with
  | nil => rfl
  | cons t ts ih =>
    have hrest : ∀ (u : Tree) (y : Index), (y.perform (do return u :: (← watchTrees d ts))).2.arena = y.arena := by
      intro u y
      have hy := ih y
      rw [perform_bind]
      generalize y.perform (watchTrees d ts) = r at hy ⊢
      obtain ⟨fault | us, z⟩ := r <;> exact hy
    rw [watchTrees]
    split
    · exact hrest t x
    · have hone := arena_watchTree d x t
      rw [perform_bind]
      generalize x.perform (watchTree d t) = r at hone ⊢
      obtain ⟨fault | u, y⟩ := r
      · exact hone
      · exact (hrest u y).trans hone

theorem upholds_setWatching (h : I x.arena) (on : Bool) : Leaves (OfArena I) x (setWatching d on) := by
  unfold setWatching
  refine .get (.modify ?_)
  cases on with
  | true =>
    refine .bind (leaves_of_arena ?_ (arena_watchTrees d _ _)) fun _ _ _ hy => hy
    exact h
  | false => exact h

/-! ## Collecting -/

include hI

theorem upholds_detachRoots (h : I a) (ts : List Tree) : I (detachRoots a ts) := by
  induction ts generalizing a with
  | nil => exact h
  | cons t ts ih =>
    rw [detachRoots, List.foldl_cons]
    cases t.root with
    | none => exact ih h
    | some r => exact ih (hI.detach r h)

theorem upholds_releaseTrees (h : I a) (ts : List Tree) : I (releaseTrees a ts) := by
  induction ts generalizing a with
  | nil => exact h
  | cons t ts ih =>
    rw [releaseTrees, List.foldl_cons, release_arena]
    cases t.root with
    | none => exact ih h
    | some r => exact ih (hI.cut h ((hI.wellFormed h).cut_cutAt r))

theorem upholds_build (h : I x.arena) (hidden : Bool) (areas : List Area) :
    Leaves (OfArena I) x (build d (areas.map fun a => (a, Tree.found? d hidden a))) := by
  induction areas generalizing x with
  | nil => exact h
  | cons area areas ih =>
    rw [List.map_cons, build]
    refine .get (.lift h fun v hof => .set ?_)
    obtain ⟨t, b⟩ := v
    have hb : I (x.withArena b).arena := hI.ofCollected h hof
    exact .bind (leaves_of_arena hb (arena_watchTree d _ t)) fun u y _ hy => .bind (ih hy) fun _ _ _ hz => hz

theorem upholds_gather (h : I x.arena) (areas : List Area) (c : Cancellation) :
    Leaves (OfArena I) x (gather d areas c) := by
  unfold gather
  have hs : I x.separate.arena := upholds_detachRoots hI h _
  have hr := upholds_releaseTrees hI hs (x.separate.trees.partition (stays (Area.dedup areas))).2
  refine .modify (.get (.set ?_))
  dsimp only
  split
  · exact .modify hr
  · rename_i found hwalk
    rw [eq_map_of_walkAll hwalk]
    refine .bind (upholds_build hI ?_ _ _) fun built y _ hy => .modify hy
    exact hr

/-! ## Adopting -/

omit hI

/-- Whether adopting a tree would put its root below itself: the root that is to adopt it stands below it. -/
def ClosesCircle (x : Index) (p c : Nat) : Prop :=
  ∃ parent child parentRoot childRoot s, Adoption x p c parent child parentRoot childRoot s ∧
    x.arena.Below childRoot parentRoot

/-- Whether the adoptions of a merge close no circle, as far as it comes. -/
def MergeReturns (x : Index) : List (Nat × Nat) → Prop
  | [] => True
  | (p, c) :: rest => ¬ClosesCircle x p c ∧
      ∀ y, x.perform (adopt p c) = (.ok ⟨⟩, y) → MergeReturns y rest

/-- Whether a collect closes no circle of nodes. -/
def CollectReturns (x : Index) (d : Disk) (areas : List Area) (c : Cancellation) : Prop :=
  ∀ g y, x.perform (gather d areas c) = (.ok g, y) → g.complete = true → MergeReturns y (pairs y.trees.length)

/-- Whether an operation comes back: all do but collects that close a circle. -/
def Returns (x : Index) (d : Disk) : Operation → Prop
  | .collect areas c => CollectReturns x d areas c
  | .edit _ | .search _ _ | .live _ _ | .watch _ => True

/-- A root that has no parent, and does not stand above the tree that adopts it, is hung up where a node was cut off. -/
theorem linked_adopted (h : a.WellFormed) (hs : a.parent? j = some parent) (hne : j ≠ top)
    (htop : a.contains top = true) (hpar : a.parent? top = none) (hb : ¬a.Below top parent) :
    (a.cutAt j).contains parent = true ∧ (a.cutAt j).contains top = true ∧ (a.cutAt j).parent? top = none ∧
      Linked (a.cutAt j) ((a.cutAt j).attached parent top) parent top ∧
      ((a.cutAt j).attached parent top).WellFormed := by
  have hc := h.cut_cutAt j
  have hp : (a.cutAt j).contains parent = true := hc.contains_iff.2 ⟨h.contains_parent hs, h.acyclic hs⟩
  have hnj : ¬a.Below j top := fun hb => hne (hb.eq_of_parent?_eq_none hpar)
  have ht : (a.cutAt j).contains top = true := hc.contains_iff.2 ⟨htop, hnj⟩
  have hpar' : (a.cutAt j).parent? top = none := by rw [hc.parent?_rest hnj, hpar]
  have hpt : parent ≠ top := by
    rintro rfl
    exact hb (.refl a parent)
  have hb' : ¬(a.cutAt j).Below top parent := by rwa [hc.below_rest (hc.not_below hp)]
  have hl := hc.wellFormed.linked_attached hpar' hpt hp ht
  exact ⟨hp, ht, hpar', hl, hl.wellFormed hc.wellFormed ht hp hpar' hb'⟩

/-- What an adoption comes to: nothing, or a node goes and a root that has its name and no parent is hung up there. -/
theorem adopt_cases {p c : Nat} (h : x.arena.WellFormed) (hc : ¬ClosesCircle x p c) : (x.perform (adopt p c)).2 = x ∨
    ∃ parent child parentRoot childRoot s, Adoption x p c parent child parentRoot childRoot s ∧
      x.arena.parent? s = some parentRoot ∧ x.arena.contains childRoot = true ∧ x.arena.parent? childRoot = none ∧
      ¬x.arena.Below childRoot parentRoot ∧ x.arena.name? s = x.arena.name? childRoot ∧
      (x.perform (adopt p c)).2 = x.adopted c s parentRoot childRoot := by
  unfold adopt
  simp only [perform_bind, perform_get]
  split
  · rename_i parent child hp hch
    split
    · exact .inl rfl
    · rename_i hcond
      split
      · rename_i parentRoot childRoot hpr hcr
        simp only [perform_bind, perform_lift]
        cases hnode : x.arena.get childRoot with
        | error fault => exact .inl rfl
        | ok node =>
          dsimp only
          cases hfound : Tree.findChild x.arena parentRoot node.name with
          | error fault => exact .inl rfl
          | ok found =>
            cases found with
            | none => exact .inl rfl
            | some s =>
              dsimp only
              split
              · exact .inl rfl
              · rename_i hne
                split
                · exact .inl rfl
                · rename_i htop
                  have htop : node.parent = none := by simpa using htop
                  have hget : x.arena.get? childRoot = some node := by
                    unfold Arena.get at hnode
                    split at hnode <;> simp_all
                  have hlive : x.arena.contains parentRoot = true := by
                    by_contra hgone
                    rw [Tree.findChild, Arena.get, get?_eq_none.2 hgone] at hfound
                    cases hfound
                  rw [Tree.findChild_eq h hlive, Except.ok.injEq] at hfound
                  have htopmost : x.arena.contains childRoot = true := contains_iff.2 ⟨node, hget⟩
                  have hpar : x.arena.parent? childRoot = none := by rw [parent?_of_get? hget, htop]
                  have hs := h.parent?_of_child? hfound
                  have hcond : (parent.area.recursive = false ∧ p ≠ c) ∧ parent.area.isParentOf child.area = true := by
                    simpa using hcond
                  have ha : Adoption x p c parent child parentRoot childRoot s := ⟨hp, hch, hcond.1.2, hcond.1.1, hcond.2,
                    hpr, hcr, ⟨node.name, name?_of_get? hget, hfound⟩, hne⟩
                  have hb : ¬x.arena.Below childRoot parentRoot := fun hb =>
                    hc ⟨parent, child, parentRoot, childRoot, s, ha, hb⟩
                  obtain ⟨hcp, hct, -⟩ := linked_adopted h hs hne htopmost hpar hb
                  refine .inr ⟨parent, child, parentRoot, childRoot, s, ha, hs, htopmost, hpar, hb,
                    by rw [name?_of_child? hfound, name?_of_get? hget], ?_⟩
                  have hattach := attach_eq hcp hct
                  unfold cutAt at hattach
                  simp only [perform_bind, perform_set, perform_lift, hattach]
                  rfl
      · exact .inl rfl
  · exact .inl rfl

include hI

theorem upholds_adopt {p c : Nat} (h : I x.arena) (hc : ¬ClosesCircle x p c) : Leaves (OfArena I) x (adopt p c) := by
  unfold Leaves
  rcases adopt_cases (hI.wellFormed h) hc with hsame | ⟨parent, child, parentRoot, childRoot, s, ha, hs, htop, hpar, hb, hname, hy⟩
  · rw [hsame]
    exact h
  · rw [hy]
    exact hI.adopted h hs ha.other htop hpar hb hname

theorem upholds_adoptAll (h : I x.arena) (hr : MergeReturns x rest) : Leaves (OfArena I) x (adoptAll rest) := by
  induction rest generalizing x with
  | nil => exact h
  | cons pc rest ih => exact .bind (upholds_adopt hI h hr.1) fun _ y hy hI' => ih hI' (hr.2 y hy)

theorem upholds_collect {c : Cancellation} (h : I x.arena) (hr : CollectReturns x d areas c) :
    Leaves (OfArena I) x (collect d areas c) := by
  refine .bind (upholds_gather hI h areas c) fun g y hy hg => ?_
  have hfinish : ∀ z : Index, I z.arena → Leaves (OfArena I) z (do
      let n ← recount
      publishReset g.changed
      return if g.complete then some n else none) := fun z hz => by
    refine .bind (.get (.lift hz fun n _ => hz)) fun n w _ hw => ?_
    unfold publishReset
    split <;> exact hw
  cases hc : g.complete with
  | false => simpa [hc] using hfinish y hg
  | true =>
    have hm : Leaves (OfArena I) y merge := upholds_adoptAll hI hg (hr g y hy hc)
    simp only [if_true]
    refine .bind hm fun _ z _ hz => ?_
    simpa [hc] using hfinish z hz

/-! ## Runs -/

/-- **What is durable lasts through every operation that comes back**, whatever the trees have for roots. -/
theorem upholds_after (h : I x.arena) (hr : Returns x d o) : I (x.after d o).arena := by
  have hwork : Leaves (OfArena I) x (o.work d) := by
    cases o with
    | collect areas c => exact .bind (upholds_collect hI h hr) fun _ _ _ hy => hy
    | edit e => exact upholds_edit hI h e
    | search queries c => exact .bind (upholds_multiSearch hI h queries c) fun _ _ _ hy => hy
    | live q c => exact .bind (upholds_subscribedSearch hI h q c) fun _ _ _ hy => hy
    | watch on => exact upholds_setWatching h on
  exact hwork

omit hI

/-! ## Order and names -/

theorem alike_evaluateAll {items : List (NodeId × Item)} {queries : List CompiledQuery}
    {results : List (List Snapshot)} (he : evaluateAll items cancellation a queries = .ok (some (results, b))) :
    Alike a b := by
  induction queries generalizing a results with
  | nil =>
    cases he
    exact .refl _
  | cons q queries ih =>
    obtain ⟨found, -, he⟩ := bind_eq_ok.1 he
    cases found with
    | none => cases he
    | some found =>
      obtain ⟨rest, hrest, he⟩ := bind_eq_ok.1 he
      cases rest with
      | none => cases he
      | some rest =>
        obtain ⟨others, c⟩ := rest
        cases he
        exact (alike_snapshots _ _).trans (ih hrest)

/-- Looking up a node and changing it in place. -/
theorem maintains_change (h : a.WellFormed) (hf : InPlace f) (hc : a.change id f = .ok b) : Maintains d a b := by
  unfold Arena.change at hc
  split at hc <;> cases hc
  exact .inPlace h hf id

theorem maintains_ofCollected {area : Area} {hidden includeHidden : Bool} (h : a.WellFormed)
    (hof : Tree.ofCollected area includeHidden (Tree.found? d hidden area) a = .ok (t, b)) : Maintains d a b := by
  cases hf : d.find? false area.path with
  | none =>
    rw [Tree.found?, hf] at hof
    cases hof
    exact .refl h
  | some e =>
    rw [Tree.found?, hf, Option.map_some, Tree.ofCollected] at hof
    obtain ⟨⟨r, c⟩, hc, hof⟩ := map_eq_ok.1 hof
    cases hof
    have hl := sameLinks_setAnchor c r area.path.parent?
    have hn := name?_setAnchor c r area.path.parent?
    obtain ⟨id, c', hc', ht⟩ := h.taken (walkEntry (Tree.scope area hidden) true area.path.entryName e)
    obtain ⟨rfl, rfl⟩ : r = id ∧ c = c' := by simpa using hc.symm.trans hc'
    refine ⟨hl.wellFormed ht.wellFormed, fun hv ha => ?_⟩
    obtain ⟨id, c', hc', hs, -⟩ := h.sown_walkEntry (hv.find? hf).1 (Tree.scope area hidden) area.path.entryName
    obtain ⟨rfl, rfl⟩ : r = id ∧ c = c' := by simpa using hc.symm.trans hc'
    exact (hs.keeps h ha (by simp)).congr hl.children hn

theorem name?_attached (a : Arena) (parent top k : NodeId) : (a.attached parent top).name? k = a.name? k := by
  have hadd : ∀ n : Node, (n.addChild top).name = n.name := by
    intro n
    unfold Node.addChild
    split <;> rfl
  rw [attached, (alike_forgetPaths _ top).name?, linked, name?_modify hadd]
  exact name?_modify (f := fun n => { n with parent := some parent }) (fun _ => rfl) a top k

/-- Such a root gets a place in the tree. -/
theorem maintains_adopted (h : a.WellFormed) (hs : a.parent? j = some parent) (hne : j ≠ top)
    (htop : a.contains top = true) (hpar : a.parent? top = none) (hb : ¬a.Below top parent)
    (hname : a.name? j = a.name? top) : Maintains d a ((a.cutAt j).attached parent top) := by
  obtain ⟨hp, ht, -, hl, hwf⟩ := linked_adopted h hs hne htop hpar hb
  have hc := h.cut_cutAt j
  refine ⟨hwf, fun _ hd q => ?_⟩
  have hcut := hc.distinct h hd
  rw [funext (name?_attached (a.cutAt j) parent top), hl.children]
  split
  · rename_i hq
    subst hq
    rw [List.map_append, List.map_singleton]
    refine List.nodup_append'.2 ⟨hcut q, List.nodup_singleton _, List.disjoint_singleton.2 fun hm => ?_⟩
    -- Only the node that gave way had the name.
    obtain ⟨k, hk, hkn⟩ := List.mem_map.1 hm
    have hkl := hc.not_below (contains_of_parent? (hc.wellFormed.mem_children.1 hk))
    rw [hc.name?_rest hkl, hc.name?_rest (hc.not_below ht), ← hname] at hkn
    rw [hc.children_rest (hc.not_below hp)] at hk
    have hsame := hd.eq_of_name? h (h.mem_children.1 (List.mem_of_mem_erase hk)) hs hkn
    exact (h.children_nodup q).not_mem_erase (hsame ▸ hk)
  · exact hcut q

theorem durable_maintains (d : Disk) (a : Arena) : Durable d (Maintains d a) where
  wellFormed h := h.wellFormed
  snapshots ids h := h.trans (.alike h.wellFormed (alike_snapshots _ ids))
  settled h hs := h.trans (.of_names h.wellFormed hs.sameLinks fun j => name?_of_stage? (hs.stage? j))
  change h hf hc := h.trans (maintains_change h.wellFormed hf hc)
  add h hadd := h.trans (Tree.maintains_add h.wellFormed hadd)
  ofCollected h hof := h.trans (maintains_ofCollected h.wellFormed hof)
  detach id h := h.trans (.detach h.wellFormed id)
  cut h hc := h.trans (.cut h.wellFormed hc)
  renamed name h hid := h.trans (.renamed h.wellFormed hid name)
  adopted h hs hne htop hpar hb hname := h.trans (maintains_adopted h.wellFormed hs hne htop hpar hb hname)

/-- **An operation that comes back leaves the arena in order**, whatever the trees have for roots. -/
theorem maintains_after (h : x.arena.WellFormed) (hr : Returns x d o) : Maintains d x.arena (x.after d o).arena :=
  upholds_after (durable_maintains d x.arena) (.refl h) hr

theorem wellFormed_behind (h : x.arena.WellFormed) (hr : Throughout Returns x run) :
    (x.behind run).arena.WellFormed :=
  hr.invariant (I := fun x => x.arena.WellFormed) h fun _ _ hx hi => (maintains_after hx hi).wellFormed

/-- Where no root was lost, no adoption closes a circle. -/
theorem Merging.returns (h : x.Merging rest) (hs : MergeSpares x rest) : MergeReturns x rest := by
  induction rest generalizing x with
  | nil => trivial
  | cons pc rest ih =>
    obtain ⟨y, hy, hm, -⟩ := perform_adopt h hs.1
    refine ⟨?_, fun z hz => ?_⟩
    · rintro ⟨parent, child, parentRoot, childRoot, s, ha, hb⟩
      exact h.not_below ha hb
    · obtain rfl : y = z := congrArg Prod.snd (hy.symm.trans hz)
      exact ih hm (by simpa [hy] using hs.2)

theorem Sound.returns (h : x.Sound) (hs : SparesRoots x d o) : Returns x d o := by
  cases o with
  | collect areas c =>
    intro g y hg hc
    obtain ⟨g', y', hrun, hy, -⟩ := perform_gather h d areas c
    obtain ⟨rfl, rfl⟩ : g = g' ∧ y = y' := by simpa using hg.symm.trans hrun
    rw [SparesRoots, CollectSpares, hg] at hs
    exact hy.merging.returns (hs hc)
  | edit _ | search _ _ | live _ _ | watch _ => trivial

theorem Sound.throughout_returns (h : x.Sound) (hs : Throughout SparesRoots x run) : Throughout Returns x run := by
  induction run generalizing x with
  | nil => trivial
  | cons i run ih => exact ⟨h.returns hs.1, ih (h.after hs.1).1 hs.2⟩

theorem valid_rootDisk (k l : Nat) :
    (rootDisk (.directory [("x", .file (.zeros k) 0 false), ("y", .file (.zeros l) 0 false)])).Valid where
  isDirectory := rfl
  proper := by simp [rootDisk, Entry.Proper, Entry.AllProper]
  named := by
    have hname : ∀ name ∈ ["a", "x", "y"], Path.IsFileName name := by
      rintro name (_ | ⟨_, _ | ⟨_, _ | ⟨_, ⟨⟩⟩⟩⟩) <;> constructor <;> decide
    refine Entry.named_directory fun c hc => List.mem_singleton.1 hc ▸ ⟨hname "a" (by simp), ?_⟩
    refine Entry.named_directory fun c hc => ?_
    rcases List.mem_cons.1 hc with rfl | hc
    · exact ⟨hname "x" (by simp), Entry.named_leaf rfl⟩
    · exact List.mem_singleton.1 hc ▸ ⟨hname "y" (by simp), Entry.named_leaf rfl⟩

/-- One area is adopted by none. -/
theorem perform_gather_filled : (ofSettings {}).perform (gather (rootDisk filled) [⟨⟨"a"⟩, true⟩] {}) =
    (.ok { complete := true, changed := true }, { filledIndex with size := 0, counter := 0 }) := by
  cbv

theorem returns_collect_filled :
    Throughout Returns (ofSettings {}) [(rootDisk filled, .collect [⟨⟨"a"⟩, true⟩] {})] := by
  refine ⟨fun g y hg _ => ?_, trivial⟩
  obtain rfl : _ = y := congrArg Prod.snd (perform_gather_filled.symm.trans hg)
  refine ⟨?_, fun _ _ => trivial⟩
  rintro ⟨parent, child, parentRoot, childRoot, s, ha, -⟩
  exact ha.ne rfl

end Index

end FileIndex
