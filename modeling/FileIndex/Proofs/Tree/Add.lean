/-
Adding a path to a tree. Whatever lies on the disk, an addition ends without a fault, and the arena is as
it was or has grown by one tree of new nodes: on its own, and then it is the whole of the tree that had no
root, or below a node of the tree (`AddOutcome`).
-/
import FileIndex.Proofs.Arena.Collected
import FileIndex.Proofs.Outcome
import FileIndex.Proofs.Tree.Locate

namespace FileIndex.Tree

open Arena

variable {a b c base : Arena} {t : Tree} {d : Disk} {p way : Path} {metadata : Metadata}
  {current root : NodeId} {made top : Option NodeId} {name : String} {rest : List Path.Component}

/-! ## Making nodes -/

theorem sprouted_createNode (h : a.WellFormed) (t : Tree) (d : Disk) (p : Path) (metadata : Metadata) :
    ∃ id b, t.createNode a d p metadata = .ok (id, b) ∧ Sprouted a b none id := by
  have halone := h.sprouted_insert (n := Node.ofName p.entryName metadata) rfl rfl rfl
  unfold createNode
  split
  · split
    · rename_i found _
      obtain ⟨id, b, hb, ht⟩ := h.taken found
      exact ⟨id, b, hb, ht.toSprouted⟩
    · exact ⟨_, _, rfl, halone⟩
  · exact ⟨_, _, rfl, halone⟩

/-- What is made for a name on the way to `p`, or for the last one. -/
def makeNode (t : Tree) (a : Arena) (d : Disk) (p : Path) (metadata : Metadata) (name : String)
    (way : Path) (rest : List Path.Component) : Except Fault (NodeId × Arena) :=
  if rest = [] then t.createNode a d p metadata
  else .ok (a.insert (Node.ofName name (wayMetadata d way)))

theorem sprouted_makeNode (h : a.WellFormed) (t : Tree) (d : Disk) (p : Path) (metadata : Metadata)
    (name : String) (way : Path) (rest : List Path.Component) :
    ∃ id b, t.makeNode a d p metadata name way rest = .ok (id, b) ∧ Sprouted a b none id := by
  unfold makeNode
  split
  · exact sprouted_createNode h t d p metadata
  · exact ⟨_, _, rfl, h.sprouted_insert rfl rfl rfl⟩

/-! ## Adding below a node -/

theorem addBelow_found {child : NodeId} (h : a.WellFormed) (hcur : a.contains current = true)
    (hc : a.child? current name = some child) :
    t.addBelow d p metadata a top current way (.name name :: rest) =
      t.addBelow d p metadata a top child (way.child name) rest := by
  rw [addBelow, findChild_eq h hcur, hc, ok_bind]

theorem addBelow_missing {child : NodeId} (h : a.WellFormed) (hcur : a.contains current = true)
    (hc : a.child? current name = none)
    (hmake : t.makeNode a d p metadata name (way.child name) rest = .ok (child, b))
    (hattach : b.attach current child = .ok c) :
    t.addBelow d p metadata a top current way (.name name :: rest) =
      t.addBelow d p metadata c (some (top.getD child)) child (way.child name) rest := by
  rw [addBelow, findChild_eq h hcur, hc]
  unfold makeNode at hmake
  split at hmake
  · rename_i hr
    simp only [hr, if_true, hmake, ok_bind, hattach]
  · rename_i hr
    rw [Except.ok.injEq] at hmake
    simp only [hr, if_false, hmake, ok_bind, pure_eq_ok, hattach]

/-- How far an addition below a root has come. The arena is as it was, or it has grown by a tree below the
root, or by the root itself with all below it; the current node stands where the next is looked for. -/
inductive Underway (base : Arena) (root : NodeId) : Option NodeId → Arena → NodeId → Prop
  | unchanged {current : NodeId} : base.contains current = true → base.Below root current →
    Underway base root none base current
  | below {a : Arena} {q top current : NodeId} : base.Below root q → Sprouted base a (some q) top →
    a.Below top current → Underway base root (some top) a current
  | alone {a : Arena} {current : NodeId} : Sprouted base a none root → a.Below root current →
    Underway base root (some root) a current

namespace Underway

theorem wellFormed (h : Underway base root top a current) (hb : base.WellFormed) : a.WellFormed := by
  cases h with
  | unchanged => exact hb
  | below _ hs => exact hs.wellFormed
  | alone hs => exact hs.wellFormed

theorem contains (h : Underway base root top a current) : a.contains current = true := by
  cases h with
  | unchanged hc => exact hc
  | below _ hs hb => exact hb.contains hs.contains_top
  | alone hs hb => exact hb.contains hs.contains_top

theorem step {child : NodeId} (h : Underway base root top a current)
    (hc : a.parent? child = some current) : Underway base root top a child := by
  cases h with
  | unchanged _ hb => exact .unchanged (contains_of_parent? hc) (hb.tail hc)
  | below hq hs hb => exact .below hq hs (hb.tail hc)
  | alone hs hb => exact .alone hs (hb.tail hc)

theorem sprout {child : NodeId} (h : Underway base root top a current)
    (hs : Sprouted a b (some current) child) : Underway base root (some (top.getD child)) b child := by
  cases h with
  | unchanged _ hb => exact .below hb hs (.refl b child)
  | below hq hg hb =>
    have hin := hg.inside hb hs
    exact .below hq hin (((hs.below_old hg.wellFormed (hb.contains hg.contains_top)).2 hb).tail
      hs.parent?_top)
  | alone hg hb =>
    have hin := hg.inside hb hs
    exact .alone hin (((hs.below_old hg.wellFormed (hb.contains hg.contains_top)).2 hb).tail
      hs.parent?_top)

end Underway

theorem addBelow_spec (hb : base.WellFormed) (h : Underway base root top a current) (t : Tree)
    (d : Disk) (p : Path) (metadata : Metadata) (way : Path) (rest : List Path.Component) :
    ∃ r last, t.addBelow d p metadata a top current way rest = .ok r ∧
      Underway base root r.top r.arena last ∧ r.complete = (Path.plainNames? rest).isSome := by
  induction rest generalizing a top current way with
  | nil => exact ⟨_, current, rfl, h, rfl⟩
  | cons c rest ih =>
    cases c with
    | name name =>
      have ha := h.wellFormed hb
      simp only [Path.plainNames?, Option.isSome_map]
      cases hc : a.child? current name with
      | some child =>
        rw [addBelow_found ha h.contains hc]
        exact ih (h.step (ha.parent?_of_child? hc)) _
      | none =>
        obtain ⟨child, b, hmake, hs⟩ := sprouted_makeNode ha t d p metadata name (way.child name) rest
        obtain ⟨c, hattach, hs⟩ := hs.attach h.contains
        rw [addBelow_missing ha h.contains hc hmake hattach]
        exact ih (h.sprout hs) _
    | root => exact ⟨_, current, rfl, h, rfl⟩
    | here => exact ⟨_, current, rfl, h, rfl⟩
    | up => exact ⟨_, current, rfl, h, rfl⟩

/-! ## Adding to a tree -/

/-- What an addition to a tree comes to: the answer, the tree and the arena. Growth is no answer if the path
holds something else than names. -/
inductive AddOutcome (t : Tree) (a : Arena) (p : Path) : Option NodeId → Tree → Arena → Prop
  | unchanged : AddOutcome t a p none t a
  /-- The tree had no root and has one now. -/
  | root {b : Arena} {top : NodeId} {made : Option NodeId} : t.root = none → Sprouted a b none top →
    made = some top ∨ made = none ∧ t.names? p = none → AddOutcome t a p made { t with root := some top } b
  /-- The tree has grown below its root. -/
  | below {b : Arena} {r q top : NodeId} {made : Option NodeId} : t.root = some r → a.Below r q →
    Sprouted a b (some q) top → made = some top ∨ made = none ∧ t.names? p = none →
    AddOutcome t a p made t b

theorem ensureRoot_spec (h : a.WellFormed) (hroot : ∀ r, t.root = some r → a.contains r = true)
    (d : Disk) (p : Path) (metadata : Metadata) (rest : List Path.Component) :
    ∃ root made b, t.ensureRoot a d p metadata rest = .ok (root, made, b) ∧
      Underway a root made b root ∧ (t.root = some root ∨ t.root = none ∧ made = some root) := by
  unfold ensureRoot
  cases hr : t.root with
  | some root =>
    exact ⟨root, none, a, rfl, .unchanged (hroot root hr) (.refl a root), .inl rfl⟩
  | none =>
    have hmake := sprouted_makeNode h t d p metadata t.area.path.entryName t.area.path rest
    unfold makeNode at hmake
    obtain ⟨root, b, hmake, hs⟩ := hmake
    have hanchor : Sprouted a (b.modify root (·.setAnchor t.area.path.parent?)) none root :=
      hs.modify [root] (by simpa using .refl b root) (fun _ => rfl) (fun _ => rfl) fun _ _ => rfl
    refine ⟨root, some root, _, ?_, .alone hanchor (.refl _ root), .inr ⟨rfl, rfl⟩⟩
    split at hmake
    · rename_i hr
      simp only [hr, if_true, hmake, ok_bind, pure_eq_ok]
    · rename_i hr
      rw [Except.ok.injEq] at hmake
      simp only [hr, if_false, hmake, ok_bind, pure_eq_ok]

theorem outcome_unchanged {r : Added} (htop : r.top = none) : r.outcome = (none, r.arena) := by
  simp [Added.outcome, htop]

/-- Marking changes no link and no path. -/
theorem outcome_sprouted {parent : Option NodeId} {new : NodeId} {r : Added} (htop : r.top = some new)
    (hs : Sprouted a r.arena parent new) :
    ∃ made b, r.outcome = (made, b) ∧ (made = some new ∨ made = none ∧ r.complete = false) ∧
      Sprouted a b parent new := by
  cases hc : r.complete with
  | true =>
    refine ⟨some new, _, by rw [Added.outcome, hc, htop], .inl rfl, ?_⟩
    exact hs.modify _ (fun i hi => hs.wellFormed.below_of_mem_subtree hi) (fun _ => rfl) (fun _ => rfl)
      fun _ h => h
  | false => exact ⟨none, r.arena, by simp only [Added.outcome, hc], .inr ⟨rfl, rfl⟩, hs⟩

/-- **An addition ends well**: the arena is as it was or has grown by one tree that belongs to the tree
added to. -/
theorem add_spec (h : a.WellFormed) (hroot : ∀ r, t.root = some r → a.contains r = true) (d : Disk)
    (p : Path) : ∃ made t' b, t.add a d p = .ok (made, t', b) ∧ AddOutcome t a p made t' b := by
  unfold add
  split
  · rename_i rest metadata hrest _
    split
    · exact ⟨none, t, a, rfl, .unchanged⟩
    · obtain ⟨root, made, b, hensure, hu, hor⟩ := ensureRoot_spec h hroot d p metadata rest
      obtain ⟨r, last, hadd, hend, hcomplete⟩ := addBelow_spec h hu { t with root := some root } d p metadata
        t.area.path rest
      have hnames : ∀ (new : NodeId) made, (made = some new ∨ made = none ∧ r.complete = false) →
          made = some new ∨ made = none ∧ t.names? p = none := by
        rintro new made (h | ⟨h, hc⟩)
        · exact .inl h
        · rw [hcomplete, Option.isSome_eq_false_iff, Option.isNone_iff_eq_none] at hc
          exact .inr ⟨h, by rw [names?, hrest, Option.bind_some, hc]⟩
      simp only [hensure, ok_bind, hadd, pure_eq_ok]
      generalize htop : r.top = top at hend
      generalize hr' : r.arena = c at hend
      rcases hor with hr | ⟨hr, rfl⟩
      · have ht : { t with root := some root } = t := by rw [← hr]
        rw [ht]
        cases hend with
        | unchanged =>
          rw [outcome_unchanged htop, hr']
          exact ⟨none, t, a, rfl, .unchanged⟩
        | below hq hs =>
          obtain ⟨made, b, ho, hmade, hs⟩ := outcome_sprouted htop (hr' ▸ hs)
          rw [ho]
          exact ⟨made, t, b, rfl, .below hr hq hs (hnames _ _ hmade)⟩
        | alone hs => exact absurd (hroot root hr) (hs.fresh root (.refl _ root))
      · -- The root is new, so nothing that was there stands below it.
        have hfresh : ¬a.contains root = true := by
          cases hu with
          | below _ hs | alone hs => exact hs.fresh root (.refl _ root)
        cases hend with
        | unchanged hc hb => exact absurd (h.contains_of_below hb hc) hfresh
        | below hq hs => exact absurd (h.contains_of_below hq (hs.contains_parent _ rfl)) hfresh
        | alone hs =>
          obtain ⟨made, b, ho, hmade, hs⟩ := outcome_sprouted htop (hr' ▸ hs)
          rw [ho]
          exact ⟨made, _, b, rfl, .root hr hs (hnames _ _ hmade)⟩
  · exact ⟨none, t, a, rfl, .unchanged⟩

end FileIndex.Tree
