/-
Known paths in every run. A node remembers its path once it was asked for, and renames, merges, removals and new
directories change the paths of whole trees. Whatever was done to an index and whatever was asked of it, a path that a node
remembers is the one that leads to it now (`pathsTrue_behind`): what changes a path has it forgotten, at the node and at all
below it (`durable_current`).
-/
import FileIndex.Proofs.Index.Intact

namespace FileIndex

open Arena

namespace Arena

variable {a b : Arena} {id : NodeId} {n : Node} {anchor anchor' : Option Path} {names names' : List String}
  {f : Node → Node} {q q' : Path} {k : Nat}

/-! ## The path that leads to a node -/

/-- The way down to a node: the directory that the topmost node above it lies in, and the names from that node on. -/
inductive Descent (a : Arena) : NodeId → Option Path → List String → Prop
  | top {id : NodeId} {n : Node} (hn : a.get? id = some n) (hp : n.parent = none) : Descent a id n.anchor [n.name]
  | under {id p : NodeId} {n : Node} {anchor : Option Path} {names : List String} (hn : a.get? id = some n)
    (hp : n.parent = some p) (h : Descent a p anchor names) : Descent a id anchor (names ++ [n.name])

theorem Descent.unique (h : a.Descent id anchor names) (k : a.Descent id anchor' names') :
    anchor' = anchor ∧ names' = names := by
  induction h generalizing anchor' names' with
  | top hn hp =>
    cases k with
    | top hm _ => cases hn.symm.trans hm; exact ⟨rfl, rfl⟩
    | under hm hq _ => cases hn.symm.trans hm; cases hp.symm.trans hq
  | under hn hp _ ih =>
    cases k with
    | top hm hq => cases hn.symm.trans hm; cases hp.symm.trans hq
    | under hm hq hup =>
      cases hn.symm.trans hm
      cases hp.symm.trans hq
      obtain ⟨rfl, rfl⟩ := ih hup
      exact ⟨rfl, rfl⟩

/-- Going up from a node finds the way down to it. -/
theorem descent_of_lineage (h : a.lineage k id = some (anchor, names)) : a.Descent id anchor names := by
  induction k generalizing id anchor names with
  | zero => cases h
  | succ k ih =>
    rw [lineage] at h
    cases hn : a.get? id with
    | none =>
      rw [hn] at h
      cases h
    | some n =>
      simp only [hn] at h
      cases hp : n.parent with
      | none =>
        simp only [hp] at h
        cases h
        exact .top hn hp
      | some p =>
        simp only [hp] at h
        obtain ⟨⟨anchor, names⟩, hup, h⟩ := Option.map_eq_some_iff.1 h
        cases h
        exact .under hn hp (ih hup)

/-- A path is what the way down to a node spells. -/
def IsPath (a : Arena) (id : NodeId) (q : Path) : Prop :=
  ∃ anchor names, a.Descent id anchor names ∧ q = names.foldl Path.child (anchor.getD ⟨""⟩)

theorem IsPath.unique (h : a.IsPath id q) (k : a.IsPath id q') : q' = q := by
  obtain ⟨anchor, names, hd, rfl⟩ := h
  obtain ⟨anchor', names', hd', rfl⟩ := k
  obtain ⟨rfl, rfl⟩ := hd.unique hd'
  rfl

theorem isPath_of_workedPath? (h : a.workedPath? id = some q) : a.IsPath id q := by
  obtain ⟨⟨anchor, names⟩, hl, rfl⟩ := Option.map_eq_some_iff.1 h
  exact ⟨anchor, names, descent_of_lineage hl, rfl⟩

/-! ## Arenas that remember no other path -/

/-- An arena in order, in which the paths that nodes remember are those that would be worked out. -/
structure Current (a : Arena) : Prop where
  wellFormed : a.WellFormed
  paths : a.PathsKnown

namespace Current

theorem snapshots (h : a.Current) (ids : List NodeId) : (a.snapshots ids).2.Current :=
  ⟨(alike_snapshots a ids).sameLinks.wellFormed h.wellFormed, (h.paths.snapshots h.wellFormed ids).2⟩

theorem path? (h : a.Current) (id : NodeId) : (a.path? id).2.Current :=
  ⟨(alike_path? a id).sameLinks.wellFormed h.wellFormed, h.paths.path? h.wellFormed id⟩

theorem cut (h : a.Current) (hc : Cut a b id) : b.Current := ⟨hc.wellFormed, h.paths.cut h.wellFormed hc⟩

theorem detach (h : a.Current) (id : NodeId) : (a.detach id).2.Current :=
  ⟨((h.wellFormed.detached_detach id).unlinked h.wellFormed).wellFormed h.wellFormed, h.paths.detach h.wellFormed id⟩

theorem sprouted {parent : Option NodeId} {top : NodeId} (h : a.Current) (hs : Sprouted a b parent top) : b.Current :=
  ⟨hs.wellFormed, h.paths.sprouted h.wellFormed hs⟩

theorem settled (h : a.Current) (hs : Settled a b) : b.Current :=
  ⟨hs.sameLinks.wellFormed h.wellFormed, hs.pathsKnown h.wellFormed h.paths⟩

theorem inPlace (h : a.Current) (hf : Index.InPlace f) (id : NodeId) : (a.modify id f).Current :=
  ⟨(sameLinks_modify hf.parent hf.children).wellFormed h.wellFormed,
    h.paths.modify h.wellFormed hf.parent hf.children hf.name hf.anchor hf.knownPath⟩

theorem change (h : a.Current) (hf : Index.InPlace f) (hc : a.change id f = .ok b) : b.Current := by
  unfold Arena.change at hc
  split at hc <;> cases hc
  exact h.inPlace hf id

theorem renamed (h : a.Current) (hid : a.contains id = true) (name : String) :
    ((a.cleared id name).renamed id name).Current :=
  have hw := h.wellFormed.cleared id name
  ⟨(sameLinks_renamed _ id name).wellFormed hw,
    (h.paths.cleared h.wellFormed id name).renamed hw (contains_cleared h.wellFormed hid name) name⟩

end Current

/-- What an arena in order remembers and works out is what leads to the node. -/
theorem Current.path?_fst (h : a.Current) (hn : a.get? id = some n) : ∃ q, (a.path? id).1 = some q ∧ a.IsPath id q := by
  obtain ⟨q, hq⟩ := Option.isSome_iff_exists.1 (h.wellFormed.workedPath?_isSome (contains_iff.2 ⟨n, hn⟩))
  exact ⟨q, by rw [h.paths.path?_fst, hq], isPath_of_workedPath? hq⟩

end Arena

variable {x : Index} {a b : Arena} {t t' : Tree} {p : Path} {d : Disk} {made : Option NodeId}

theorem Tree.current_add (h : a.Current) (hadd : t.add a d p = .ok (made, t', b)) : b.Current :=
  have hb := Index.addOutcome_pathsKnown h.wellFormed h.paths (addOutcome_of_ok h.wellFormed hadd)
  ⟨hb.1, hb.2⟩

theorem Tree.current_ofCollected {area : Area} {includeHidden : Bool} {found : Option Collected} (h : a.Current)
    (hof : Tree.ofCollected area includeHidden found a = .ok (t, b)) : b.Current := by
  cases found with
  | none =>
    cases hof
    exact h
  | some found =>
    rw [Tree.ofCollected] at hof
    obtain ⟨⟨root, c⟩, hc, hof⟩ := map_eq_ok.1 hof
    cases hof
    obtain ⟨root', c', hc', ht⟩ := h.wellFormed.taken found
    obtain ⟨rfl, rfl⟩ : root = root' ∧ c = c' := by simpa using hc.symm.trans hc'
    exact h.sprouted (ht.toSprouted.modify [root] (by simpa using .refl c root) (fun _ => rfl) (fun _ => rfl) fun _ _ => rfl)

theorem Arena.Current.adopted {j parent top : NodeId} (h : a.Current) (hs : a.parent? j = some parent) (hne : j ≠ top)
    (htop : a.contains top = true) (hpar : a.parent? top = none) (hb : ¬a.Below top parent) :
    ((a.cutAt j).attached parent top).Current := by
  have hc := h.wellFormed.cut_cutAt j
  obtain ⟨hp, ht, hpar', -, hwf⟩ := Index.linked_adopted h.wellFormed hs hne htop hpar hb
  have hb' : ¬(a.cutAt j).Below top parent := by rwa [hc.below_rest (hc.not_below hp)]
  exact ⟨hwf, (h.paths.cut h.wellFormed hc).attached hc.wellFormed hpar' hb' hp ht⟩

/-- No change of an arena makes a path stale that is remembered. -/
theorem durable_current (d : Disk) : Durable d Current where
  wellFormed h := h.wellFormed
  snapshots ids h := h.snapshots ids
  settled h hs := h.settled hs
  change h hf hc := h.change hf hc
  add h hadd := Tree.current_add h hadd
  ofCollected h hof := Tree.current_ofCollected h hof
  detach id h := h.detach id
  cut h hc := h.cut hc
  renamed name h hid := h.renamed hid name
  adopted h hs hne htop hpar hb _ := h.adopted hs hne htop hpar hb

namespace Index

/-! ## Runs -/

/-- What an index is used for: an operation on a disk, or a question for the path of a node. -/
inductive Visit where
  | operate (d : Disk) (o : Operation)
  | look (id : NodeId)

/-- The index behind a visit. -/
def visit (x : Index) : Visit → Index
  | .operate d o => x.after d o
  | .look id => x.withArena (x.arena.path? id).2

/-- Whether a visit comes back. -/
def Comes (x : Index) : Visit → Prop
  | .operate d o => Returns x d o
  | .look _ => True

/-- Whether an index tells of every node the path that leads to it: as what the node remembers, as the answer to a question,
as the property that a search reads, and in entries that are handed out. -/
structure PathsTrue (x : Index) : Prop where
  known : ∀ id n q, x.arena.get? id = some n → n.knownPath = some q → x.arena.IsPath id q
  asked : ∀ id, x.arena.contains id = true → ∃ q, (x.arena.path? id).1 = some q ∧ x.arena.IsPath id q
  read : ∀ id n, x.arena.get? id = some n →
    ∃ q, Property.path.read (x.arena.item id n) = q.spelling ∧ x.arena.IsPath id q
  handed : ∀ ids, ∀ s ∈ (x.arena.snapshots ids).1, x.arena.IsPath s.id s.path

theorem pathsTrue_of_current (h : x.arena.Current) : x.PathsTrue where
  known id n q hn hq := isPath_of_workedPath? (h.paths id n q hn hq)
  asked id hid :=
    have ⟨_, hn⟩ := contains_iff.1 hid
    Current.path?_fst h hn
  read id n hn := by
    obtain ⟨q, hq, hpath⟩ := Current.path?_fst h hn
    exact ⟨q, by rw [Property.read, Arena.item, hq]; rfl, hpath⟩
  handed ids s hs := by
    rw [(h.paths.snapshots h.wellFormed ids).1, List.mem_filterMap] at hs
    obtain ⟨id, -, hs⟩ := hs
    obtain ⟨n, -, hs⟩ := Option.bind_eq_some_iff.1 hs
    obtain ⟨q, hq, rfl⟩ := Option.map_eq_some_iff.1 hs
    exact isPath_of_workedPath? hq

/-- **No path is stale**: whatever was done to an index and asked of it, the path of a node is the one that leads to it. -/
theorem pathsTrue_behind (s : Settings) (visits : List Visit) (h : Along visit Comes (ofSettings s) visits) :
    (visits.foldl visit (ofSettings s)).PathsTrue := by
  have hstart := sound_ofSettings s
  refine pathsTrue_of_current (h.invariant (I := fun x => x.arena.Current) ⟨hstart.wellFormed, hstart.paths⟩ ?_)
  intro x i hx hi
  cases i with
  | operate d o => exact upholds_after (durable_current d) hx hi
  | look id => exact hx.path? id

/-- A file whose path is asked for before and after it gets another name. -/
def renamedVisits : List Visit :=
  [.operate (rootDisk filled) (.collect [⟨⟨"a"⟩, true⟩] {}), .look ⟨1⟩,
    .operate (rootDisk filled) (.edit (.rename none ⟨"a/x"⟩ ⟨"a/z"⟩)), .look ⟨1⟩]

theorem pathsTrue_behind_renamed : Along visit Comes (ofSettings {}) renamedVisits ∧
    (renamedVisits.foldl visit (ofSettings {})).PathsTrue :=
  have h : Along visit Comes (ofSettings {}) renamedVisits := ⟨returns_collect_filled.1, trivial, trivial, trivial, trivial⟩
  ⟨h, pathsTrue_behind {} renamedVisits h⟩

end Index

end FileIndex
