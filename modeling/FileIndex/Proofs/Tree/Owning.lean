/-
A tree that has its arena to itself. Collected into an empty arena and then worked on, it owns every slot that is in
use (`Tree.Owns`): both directions of the links agree, no chain of parents closes a circle, and each chain ends at the
root. What a walk takes in and what an addition makes joins the tree; what is removed or replaced leaves the arena.
-/
import FileIndex.Proofs.Index.Run
import FileIndex.Proofs.Index.Reach
import FileIndex.Proofs.Tree.Growing

namespace FileIndex

open Arena

variable {a b : Arena} {t t' : Tree} {d : Disk} {p old new : Path} {id j r : NodeId} {made : Option NodeId}

theorem Arena.wellFormed_empty : ({} : Arena).WellFormed := (Index.sound_ofSettings {}).wellFormed

theorem Arena.distinct_empty : ({} : Arena).Distinct := fun _ => List.nodup_nil

namespace Tree

/-! ## Work on one tree -/

/-- What can be done to a tree. A rename stays within a directory, and what is removed is released at once. -/
inductive Task
  | add (p : Path)
  | rename (old new : Path) (within : old.sameParent new = true)
  | refresh (p : Path)
  | pin (p : Path) (on : Bool)
  | remove (p : Path)
  | release

/-- The tree and its arena after a task. -/
def Task.work (d : Disk) (t : Tree) (a : Arena) : Task → Except Fault (Tree × Arena)
  | .add p => (t.add a d p).map fun (_, t, a) => (t, a)
  | .rename old new _ => (t.rename a old new).map fun (_, a) => (t, a)
  | .refresh p => (t.refresh a d p).map fun (_, a) => (t, a)
  | .pin p on => (t.setPinned a p on).map fun (_, a) => (t, a)
  | .remove p => (t.remove a p).map fun (id, t, a) => (t, id.elim a fun id => (a.release id).2)
  | .release => .ok (t.release a).2

/-- The tree and its arena after tasks, each on the disk as it is by then. -/
def workAll (t : Tree) (a : Arena) : List (Disk × Task) → Except Fault (Tree × Arena)
  | [] => .ok (t, a)
  | (d, task) :: rest => (task.work d t a).bind fun (t, a) => t.workAll a rest

/-! ## Owning an arena -/

/-- Whether a tree owns its arena: parents and children know each other, no node is listed twice and no name is given
twice in a directory, whoever goes up from a node comes to the root and in no circle, the slots in use are those of
the root and of what is below it, and all others wait to be used again. -/
structure Owns (t : Tree) (a : Arena) : Prop extends a.WellFormed where
  distinct : a.Distinct
  acyclic : ∀ p c, a.parent? c = some p → ¬a.Below c p
  contains_root : ∀ r, t.root = some r → a.contains r = true
  rooted : ∀ j, a.contains j = true → ∃ r, t.root = some r ∧ a.parent? r = none ∧ a.Below r j
  contains_iff : ∀ j, a.contains j = true ↔ ∃ r, t.root = some r ∧ j ∈ a.subtree r

/-- A root without a parent owns the arena if all nodes stand below it. -/
theorem Owns.of_root (ha : a.WellFormed) (hd : a.Distinct) (hr : t.root = some r) (hlive : a.contains r = true)
    (htop : a.parent? r = none) (hall : ∀ j, a.contains j = true → a.Below r j) : t.Owns a where
  toWellFormed := ha
  distinct := hd
  acyclic _ _ := ha.acyclic
  contains_root s hs := Option.some.inj (hr.symm.trans hs) ▸ hlive
  rooted j hj := ⟨r, hr, htop, hall j hj⟩
  contains_iff j := by
    refine ⟨fun hj => ⟨r, hr, (ha.mem_subtree hlive).2 (hall j hj)⟩, fun ⟨s, hs, hj⟩ => ?_⟩
    obtain rfl := Option.some.inj (hr.symm.trans hs)
    exact (ha.below_of_mem_subtree hj).contains hlive

/-- A tree without a root owns an arena that holds nothing. -/
theorem Owns.of_empty (ha : a.WellFormed) (hr : t.root = none) (hnone : ∀ j, ¬a.contains j = true) : t.Owns a where
  toWellFormed := ha
  distinct q := by
    rw [children_of_not_contains (hnone q)]
    exact List.nodup_nil
  acyclic _ _ := ha.acyclic
  contains_root := by simp [hr]
  rooted j hj := absurd hj (hnone j)
  contains_iff j := by simp [hnone, hr]

namespace Owns

/-- All nodes stand below the root. -/
theorem below (h : t.Owns a) (hr : t.root = some r) (hj : a.contains j = true) : a.Below r j := by
  obtain ⟨s, hs, -, hb⟩ := h.rooted j hj
  obtain rfl := Option.some.inj (hr.symm.trans hs)
  exact hb

theorem parent?_root (h : t.Owns a) (hr : t.root = some r) : a.parent? r = none := by
  obtain ⟨s, hs, htop, -⟩ := h.rooted r (h.contains_root r hr)
  obtain rfl := Option.some.inj (hr.symm.trans hs)
  exact htop

theorem not_contains (h : t.Owns a) (hr : t.root = none) (j : NodeId) : ¬a.contains j = true := fun hj => by
  obtain ⟨s, hs, -⟩ := h.rooted j hj
  rw [hr] at hs
  cases hs

/-- Nodes may change as long as links and names stay as they are in their directories. -/
theorem sameLinks (h : t.Owns a) (hl : SameLinks a b) (hd : b.Distinct) : t.Owns b := by
  cases hr : t.root with
  | none =>
    refine .of_empty (hl.wellFormed h.toWellFormed) hr fun j => ?_
    rw [hl.contains]
    exact h.not_contains hr j
  | some r =>
    refine .of_root (hl.wellFormed h.toWellFormed) hd hr ?_ ?_ fun j hj => ?_
    · rw [hl.contains, h.contains_root r hr]
    · rw [hl.parent?, h.parent?_root hr]
    · rw [hl.contains] at hj
      rw [hl.below]
      exact h.below hr hj

/-- A cut leaves the tree what is left of the arena; a cut at the root leaves nothing. -/
theorem cut (h : t.Owns a) (hc : Cut a b id) (hforget : t' = t.forget id) : t'.Owns b := by
  have hd := hc.distinct h.toWellFormed h.distinct
  subst hforget
  unfold forget
  split
  · rename_i hr
    exact .of_empty hc.wellFormed rfl fun j hj => hc.not_below hj (h.below hr (hc.contains_iff.1 hj).1)
  · rename_i hne
    cases hr : t.root with
    | none => exact .of_empty hc.wellFormed hr fun j hj => h.not_contains hr j (hc.contains_iff.1 hj).1
    | some r =>
      have hrest : ¬a.Below id r := fun hb =>
        hne (hr.trans (congrArg some (hb.eq_of_parent?_eq_none (h.parent?_root hr)).symm))
      refine .of_root hc.wellFormed hd hr ?_ ?_ fun j hj => ?_
      · exact hc.contains_iff.2 ⟨h.contains_root r hr, hrest⟩
      · rw [hc.parent?_rest hrest, h.parent?_root hr]
      · obtain ⟨hj, hnot⟩ := hc.contains_iff.1 hj
        exact (hc.below_rest hnot).2 (h.below hr hj)

/-! ## Each task -/

/-- What an addition makes stands below the root that is there or is the root. -/
theorem add (h : t.Owns a) (hv : d.Valid) (p : Path) : ∃ made t' b, t.add a d p = .ok (made, t', b) ∧ t'.Owns b := by
  obtain ⟨made, t', b, hadd, ho⟩ := add_spec h.toWellFormed h.contains_root d p
  have hd := (add_distinct hv h.toWellFormed h.distinct h.contains_root hadd).1
  refine ⟨made, t', b, hadd, ?_⟩
  cases ho with
  | unchanged => exact h
  | root hr hs _ =>
    exact .of_root hs.wellFormed hd rfl hs.contains_top hs.parent?_top fun j hj =>
      ((hs.contains_iff j).1 hj).resolve_left (h.not_contains hr j)
  | below hr hq hs _ =>
    have hlive := h.contains_root _ hr
    have hq := (hs.below_old h.toWellFormed (hs.contains_parent _ rfl)).2 hq
    refine .of_root hs.wellFormed hd hr (hs.contains_old hlive) ?_ fun j hj => ?_
    · rw [hs.parent?_old hlive, h.parent?_root hr]
    · rcases (hs.contains_iff j).1 hj with hj | hj
      · exact (hs.below_old h.toWellFormed hj).2 (h.below hr hj)
      · exact (hq.tail hs.parent?_top).trans hj

/-- A rename cuts the sibling that had the name. The root has none, so it stays. -/
theorem rename (h : t.Owns a) (within : old.sameParent new = true) :
    ∃ id b, t.rename a old new = .ok (id, b) ∧ t.Owns b := by
  rw [rename_eq h.toWellFormed h.contains_root within]
  cases hn : t.renames? a old new with
  | none => exact ⟨none, a, rfl, h⟩
  | some id =>
    refine ⟨some id, _, rfl, ?_⟩
    obtain ⟨r, hr, hb⟩ := below_of_located? h.toWellFormed (located?_of_renames? hn)
    have hcleared : t.Owns (a.cleared id new.entryName) := by
      unfold cleared
      split
      · rename_i s hs
        have hforget : t.forget s = t := by
          rw [forget, if_neg]
          intro hs'
          obtain ⟨-, -, p, -, hp, -⟩ := rival?_spec h.toWellFormed hs
          rw [h.parent?_root hs'] at hp
          cases hp
        exact h.cut (h.cut_cutAt s) hforget.symm
      · exact h
    exact hcleared.sameLinks (sameLinks_renamed _ _ _)
      (h.distinct.renamed h.toWellFormed (hb.contains (h.contains_root r hr)) new.entryName)

/-- A change of one node that touches neither its links nor its name. -/
theorem modify (h : t.Owns a) {f : Node → Node} (hp : ∀ n, (f n).parent = n.parent)
    (hc : ∀ n, (f n).children = n.children) (hn : ∀ n, (f n).name = n.name) (id : NodeId) : t.Owns (a.modify id f) := by
  have hl : SameLinks a (a.modify id f) := sameLinks_modify hp hc
  exact h.sameLinks hl (h.distinct.congr hl.children fun j => name?_modify hn a id j)

theorem refresh (h : t.Owns a) (d : Disk) (p : Path) : ∃ id b, t.refresh a d p = .ok (id, b) ∧ t.Owns b := by
  rw [refresh_eq h.toWellFormed h.contains_root]
  split
  · refine ⟨_, _, rfl, h.modify ?_ ?_ ?_ _⟩ <;> exact fun _ => rfl
  · exact ⟨_, _, rfl, h⟩

theorem setPinned (h : t.Owns a) (p : Path) (on : Bool) : ∃ id b, t.setPinned a p on = .ok (id, b) ∧ t.Owns b := by
  rw [setPinned_eq h.toWellFormed h.contains_root]
  split
  · refine ⟨_, _, rfl, h.modify ?_ ?_ ?_ _⟩ <;> exact fun _ => rfl
  · exact ⟨_, _, rfl, h⟩

/-- What is taken out and released is cut. -/
theorem remove (h : t.Owns a) (p : Path) : ∃ id t' b, t.remove a p = .ok (id, t', b) ∧
    t'.Owns (id.elim b fun id => (b.release id).2) := by
  rw [Tree.remove, locate_eq h.toWellFormed h.contains_root, ok_bind]
  cases hl : t.located? a p with
  | none => exact ⟨none, t, a, rfl, h⟩
  | some id =>
    obtain ⟨r, hr, hb⟩ := below_of_located? h.toWellFormed hl
    obtain ⟨b, hout, hlinks, hrest⟩ := takeOut_spec h.toWellFormed (hb.contains (h.contains_root r hr)) p.parent?
    refine ⟨some id, t.forget id, b, by simp only [hout, ok_bind, pure_eq_ok], ?_⟩
    exact h.cut ((h.detached_detach id).trans_sameLinks h.toWellFormed hlinks hrest) rfl

/-- A tree that is released leaves an arena that holds nothing. -/
theorem release (h : t.Owns a) : (t.release a).2.1.Owns (t.release a).2.2 := by
  unfold Tree.release
  cases hr : t.root with
  | none => exact .of_empty h.toWellFormed rfl (h.not_contains hr)
  | some r =>
    have hc := h.cut_cutAt r
    exact .of_empty hc.wellFormed rfl fun j hj => hc.not_below hj (h.below hr (hc.contains_iff.1 hj).1)

/-- Every task comes back, and the tree owns its arena after it. -/
theorem work (h : t.Owns a) (hv : d.Valid) (task : Task) : ∃ t' b, task.work d t a = .ok (t', b) ∧ t'.Owns b := by
  cases task with
  | add p =>
    obtain ⟨made, t', b, hadd, ho⟩ := h.add hv p
    exact ⟨t', b, by rw [Task.work, hadd, ok_map], ho⟩
  | rename old new within =>
    obtain ⟨id, b, hrename, ho⟩ := h.rename within
    exact ⟨t, b, by rw [Task.work, hrename, ok_map], ho⟩
  | refresh p =>
    obtain ⟨id, b, hrefresh, ho⟩ := h.refresh d p
    exact ⟨t, b, by rw [Task.work, hrefresh, ok_map], ho⟩
  | pin p on =>
    obtain ⟨id, b, hpin, ho⟩ := h.setPinned p on
    exact ⟨t, b, by rw [Task.work, hpin, ok_map], ho⟩
  | remove p =>
    obtain ⟨id, t', b, hremove, ho⟩ := h.remove p
    exact ⟨t', _, by rw [Task.work, hremove, ok_map], ho⟩
  | release => exact ⟨_, _, rfl, h.release⟩

/-- **A tree keeps its arena in order**, task after task. -/
theorem workAll (h : t.Owns a) (tasks : List (Disk × Task)) (hv : ∀ x ∈ tasks, x.1.Valid) :
    ∃ t' b, t.workAll a tasks = .ok (t', b) ∧ t'.Owns b := by
  induction tasks generalizing t a with
  | nil => exact ⟨t, a, rfl, h⟩
  | cons x rest ih =>
    obtain ⟨t', b, hwork, ho⟩ := h.work (hv x List.mem_cons_self) x.2
    obtain ⟨u, c, hrest, hend⟩ := ih ho fun y hy => hv y (List.mem_cons_of_mem x hy)
    exact ⟨u, c, by rw [Tree.workAll, hwork]; exact hrest, hend⟩

end Owns

/-! ## From the walk on -/

/-- What is collected into an empty arena owns it. Only a canceled walk gives no tree. -/
theorem collect_owns (hv : d.Valid) (area : Area) (hidden : Bool) (cancellation : Cancellation) :
    ∃ found, Tree.collect d area hidden cancellation {} = .ok found ∧
      (found = none ↔ cancellation.isActive = false) ∧ ∀ t a, found = some (t, a) → t.Owns a := by
  cases hactive : cancellation.isActive with
  | false => exact ⟨none, by simp [Tree.collect, walk, FileIndex.walk, hactive], by simp, by simp⟩
  | true =>
    cases he : d.find? false area.path with
    | none =>
      refine ⟨some ({ area, root := none, includeHidden := hidden }, {}), ?_, by simp, fun t a hf => ?_⟩
      · simp [Tree.collect, walk, FileIndex.walk, hactive, he, ofCollected, ok_map]
      · cases hf
        exact .of_empty wellFormed_empty rfl fun _ => Bool.false_ne_true
    | some e =>
      obtain ⟨root, b, hb, hs, -⟩ := wellFormed_empty.sown_walkEntry (hv.find? he).1 (scope area hidden) area.path.entryName
      have hl := sameLinks_setAnchor b root area.path.parent?
      refine ⟨some ({ area, root := some root, includeHidden := hidden }, b.modify root (·.setAnchor area.path.parent?)),
        ?_, by simp, fun t a hf => ?_⟩
      · simp [Tree.collect, walk, FileIndex.walk, hactive, he, ofCollected, hb, ok_map]
      cases hf
      refine .of_root (hl.wellFormed hs.wellFormed) ?_ rfl ?_ ?_ fun j hj => ?_
      · exact (hs.keeps wellFormed_empty distinct_empty (by simp)).congr hl.children (name?_setAnchor b root _)
      · rw [hl.contains, hs.contains_top]
      · rw [hl.parent?, hs.parent?_top]
      · rw [hl.contains] at hj
        rw [hl.below]
        exact ((hs.contains_iff j).1 hj).resolve_left Bool.false_ne_true

end Tree

end FileIndex
