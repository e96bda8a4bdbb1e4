/-
Trees that stand as a walk over their area finds it (`Tree.Stands`). What stands at and below a root stays steady
through whatever happens elsewhere in the arena: through cuts and new links that do not reach below it, and also
when the root itself gets a parent or loses it.
-/
import FileIndex.Proofs.Arena.Collected
import FileIndex.Proofs.Tree.Change
import FileIndex.Proofs.Tree.Mirrors

namespace FileIndex

open Arena

/-- Two nodes that stand for the same finding in the same directory. -/
structure Node.Steady (n m : Node) : Prop extends n.SameFinding m where
  anchor : m.anchor = n.anchor

theorem Node.Steady.trans {n m k : Node} (h : n.Steady m) (g : m.Steady k) : n.Steady k :=
  ⟨⟨g.name.trans h.name, g.metadata.trans h.metadata, g.children.trans h.children⟩, g.anchor.trans h.anchor⟩

namespace Arena

variable {a b c : Arena} {id j p r s top : NodeId} {n : Node}

/-! ## Nodes that stay steady -/

/-- Whether all that stands at and below a node stays, but for links and known paths. -/
def SteadyBelow (a b : Arena) (r : NodeId) : Prop :=
  ∀ j n, a.Below r j → a.get? j = some n → ∃ m, b.get? j = some m ∧ n.Steady m

theorem steadyBelow_of_get? (h : ∀ j, a.Below r j → b.get? j = a.get? j) : SteadyBelow a b r :=
  fun j n hj hn => ⟨n, (h j hj).trans hn, ⟨⟨rfl, rfl, rfl⟩, rfl⟩⟩

namespace SteadyBelow

theorem below (h : SteadyBelow a b r) (ha : a.WellFormed) (hb : b.WellFormed) (hj : a.Below r j) :
    b.Below r j := by
  induction hj with
  | refl => exact .refl b r
  | @tail i j hi hp ih =>
    obtain ⟨n, hn⟩ := contains_iff.1 (ha.contains_parent hp)
    obtain ⟨m, hm, hnm⟩ := h i n hi hn
    have hmem := ha.mem_children.2 hp
    rw [children_of_get? hn, ← hnm.children, ← children_of_get? hm] at hmem
    exact ih.tail (hb.mem_children.1 hmem)

theorem trans (h : SteadyBelow a b r) (g : SteadyBelow b c r) (ha : a.WellFormed) (hb : b.WellFormed) :
    SteadyBelow a c r := by
  intro j n hj hn
  obtain ⟨m, hm, hnm⟩ := h j n hj hn
  obtain ⟨k, hk, hmk⟩ := g j m (h.below ha hb hj) hm
  exact ⟨k, hk, hnm.trans hmk⟩

/-- No more stands below the node than did. -/
theorem of_below (h : SteadyBelow a b r) (ha : a.WellFormed) (hb : b.WellFormed) (hr : a.contains r = true)
    (hj : b.Below r j) : a.Below r j := by
  induction hj with
  | refl => exact .refl a r
  | @tail i j _ hp ih =>
    obtain ⟨n, hn⟩ := contains_iff.1 (ih.contains hr)
    obtain ⟨m, hm, hnm⟩ := h i n ih hn
    have hmem := hb.mem_children.2 hp
    rw [children_of_get? hm, hnm.children, ← children_of_get? hn] at hmem
    exact ih.tail (ha.mem_children.1 hmem)

end SteadyBelow

theorem Cut.steadyBelow (h : Cut a b s) (ha : a.WellFormed) (hrs : ¬a.Below r s) (hsr : ¬a.Below s r) :
    SteadyBelow a b r := by
  refine steadyBelow_of_get? fun j hj => ?_
  have hsj : ¬a.Below s j := fun hs => (hj.total hs).elim hrs hsr
  rw [h.get?_rest j hsj]
  cases hn : a.get? j with
  | none => rfl
  | some n =>
    rw [Option.map_some, Node.removeChild_of_not_mem]
    intro hc
    rw [← children_of_get? hn] at hc
    exact hrs (hj.tail (ha.mem_children.1 hc))

theorem Detached.steadyBelow (h : Detached a b s) (ha : a.WellFormed) (hs : a.Below r s → s = r) :
    SteadyBelow a b r := by
  intro j n hj hn
  have hc := h.core j
  rw [core?_of_get? hn, Option.map_some] at hc
  obtain ⟨m, hm, he⟩ := Option.map_eq_some_iff.1 hc
  refine ⟨m, hm, ?_⟩
  split at he
  · exact ⟨⟨(congrArg Node.name he :), (congrArg Node.metadata he :), (congrArg Node.children he :)⟩,
      (congrArg Node.anchor he :)⟩
  · -- The detached node is no child here, or it would stand below the root that it is.
    have hnot : s ∉ n.forgetPath.children := by
      intro hmem
      rw [Node.forgetPath_children, ← children_of_get? hn] at hmem
      have hp := ha.mem_children.1 hmem
      have hsr := hs (hj.tail hp)
      exact ha.acyclic hp (hsr ▸ hj)
    rw [Node.removeChild_of_not_mem hnot] at he
    exact ⟨⟨(congrArg Node.name he :), (congrArg Node.metadata he :), (congrArg Node.children he :)⟩,
      (congrArg Node.anchor he :)⟩

theorem WellFormed.steadyBelow_attached (ha : a.WellFormed) (hpar : a.parent? top = none) (hne : p ≠ top)
    (hrp : ¬a.Below r p) : SteadyBelow a (a.attached p top) r := by
  intro j n hj hn
  have hjp : j ≠ p := by
    rintro rfl
    exact hrp hj
  have hcore : (a.attached p top).core? j = (a.linked p top (·.addChild top)).core? j :=
    (alike_forgetPaths _ top).core j
  rw [core?, core?, ha.get?_linked hpar hne (fun _ => Node.addChild_of_not_mem), if_neg hjp, hn] at hcore
  split at hcore
  all_goals
    obtain ⟨m, hm, he⟩ := Option.map_eq_some_iff.1 hcore
    exact ⟨m, hm, ⟨⟨(congrArg Node.name he :), (congrArg Node.metadata he :), (congrArg Node.children he :)⟩,
      (congrArg Node.anchor he :)⟩⟩

end Arena

/-! ## Trees as the disk has them -/

namespace Tree

variable {a b : Arena} {d : Disk} {hidden : Bool} {t u : Tree} {r : NodeId}

/-- What a walk over an area finds, if there is anything at its path. -/
def found? (d : Disk) (hidden : Bool) (area : Area) : Option Collected :=
  (d.find? false area.path).map (walkEntry (scope area hidden) true area.path.entryName)

/-- Whether a tree is what a walk over its area finds, and takes what the walk takes. -/
structure Stands (d : Disk) (hidden : Bool) (a : Arena) (t : Tree) : Prop where
  includeHidden : t.includeHidden = hidden
  found : Option.Rel a.Shows (found? d hidden t.area) t.root
  anchored : ∀ r n, t.root = some r → a.get? r = some n → n.anchor = t.area.path.parent?

theorem Stands.congr (h : t.Stands d hidden a) (ha : u.area = t.area) (hr : u.root = t.root)
    (hh : u.includeHidden = t.includeHidden) : u.Stands d hidden a where
  includeHidden := hh.trans h.includeHidden
  found := by
    rw [ha, hr]
    exact h.found
  anchored := by
    rw [ha, hr]
    exact h.anchored

theorem Stands.steady (h : t.Stands d hidden a) (ha : a.WellFormed)
    (hs : ∀ r, t.root = some r → SteadyBelow a b r) : t.Stands d hidden b where
  includeHidden := h.includeHidden
  found := by
    have hf := h.found
    cases hc : found? d hidden t.area <;> cases hr : t.root <;> rw [hc, hr] at hf <;> cases hf
    · exact .none
    · rename_i c r hshows
      refine .some (Shows.congr ha c hshows fun j n hj hn => ?_)
      obtain ⟨m, hm, hnm⟩ := hs r hr j n hj hn
      exact ⟨m, hm, hnm.toSameFinding⟩
  anchored r m hr hm := by
    have hf := h.found
    rw [hr] at hf
    cases hc : found? d hidden t.area with
    | none =>
      rw [hc] at hf
      cases hf
    | some c =>
      rw [hc] at hf
      cases hf with
      | some hshows =>
        obtain ⟨name, metadata, children⟩ := c
        obtain ⟨n, hn, -⟩ := hshows
        obtain ⟨m', hm', hnm⟩ := hs r hr r n (.refl a r) hn
        obtain rfl : m = m' := Option.some.inj (hm.symm.trans hm')
        exact hnm.anchor.trans (h.anchored r n hr hn)

/-! ## What stands -/

theorem Stands.exists_entry (h : t.Stands d hidden a) (hr : t.root = some r) :
    ∃ e, d.find? false t.area.path = some e ∧
      a.Shows (walkEntry (scope t.area hidden) true t.area.path.entryName e) r := by
  have hf := h.found
  rw [hr, found?] at hf
  cases he : d.find? false t.area.path with
  | none =>
    rw [he] at hf
    cases hf
  | some e =>
    rw [he] at hf
    cases hf with
    | some hs => exact ⟨e, rfl, hs⟩

/-- What a tree that stands mirrors of the disk. -/
theorem Stands.mirrors (h : t.Stands d hidden a) (ha : a.WellFormed) (hd : d.Valid) (hr : t.root = some r) :
    ∃ e, d.find? false t.area.path = some e ∧ a.Mirrors r (e.pruned (scope t.area hidden) true) ∧
      (e.pruned (scope t.area hidden) true).Proper ∧ (e.pruned (scope t.area hidden) true).Named := by
  obtain ⟨e, he, hs⟩ := h.exists_entry hr
  obtain ⟨hp, hn⟩ := hd.find? he
  rw [walkEntry_eq] at hs
  exact ⟨e, he, .of_shows ha _ (hp.pruned _ _ true) hs, hp.pruned _ _ true, hn.pruned _ true⟩

theorem Stands.name? (h : t.Stands d hidden a) (hr : t.root = some r) :
    a.name? r = some t.area.path.entryName := by
  obtain ⟨e, -, hs⟩ := h.exists_entry hr
  rw [name?_of_shows hs, name_walkEntry]

end Tree

end FileIndex
