/-
Where the node for a path comes to stand. An addition of an entry without entries of its own makes its node where the
names lead, with the metadata that was read, or finds one there already (`Tree.add_lands`); a rename brings its node
to the new name, with the metadata that it had (`Tree.located?_renamed`).
-/
import FileIndex.Proofs.Tree.Growing
import Mathlib.Data.List.Find

namespace FileIndex

open Arena

variable {a b c : Arena} {t t' : Tree} {d : Disk} {p old new way : Path} {metadata : Metadata}
  {id j q r s top current : NodeId} {name last : String} {names front : List String} {parent made : Option NodeId}

namespace Arena

/-! ## Metadata -/

/-- The metadata of a node. -/
def metadata? (a : Arena) (id : NodeId) : Option Metadata := (a.get? id).map (·.metadata)

theorem metadata?_eq_core (a : Arena) (id : NodeId) : a.metadata? id = (a.core? id).map (·.metadata) := by
  rw [core?, Option.map_map]
  rfl

theorem Alike.metadata? (h : Alike a b) (id : NodeId) : b.metadata? id = a.metadata? id := by
  rw [metadata?_eq_core, metadata?_eq_core, h.core]

theorem Cut.metadata?_rest (h : Cut a b id) (hj : ¬a.Below id j) : b.metadata? j = a.metadata? j := by
  rw [Arena.metadata?, h.get?_rest j hj, Option.map_map, Arena.metadata?]
  rfl

theorem metadata?_modify {f : Node → Node} (hf : ∀ n, (f n).metadata = n.metadata) (a : Arena) (id j : NodeId) :
    (a.modify id f).metadata? j = a.metadata? j := by
  rw [metadata?, get?_modify, metadata?]
  split
  · cases a.get? j <;> simp [hf]
  · rfl

theorem metadata?_modifyAll {f : Node → Node} (hf : ∀ n, (f n).metadata = n.metadata) (ids : List NodeId) (a : Arena)
    (j : NodeId) : (a.modifyAll ids f).metadata? j = a.metadata? j := by
  induction ids generalizing a with
  | nil => rfl
  | cons i ids ih => rw [modifyAll_cons, ih, metadata?_modify hf]

theorem metadata?_attached (a : Arena) (p top j : NodeId) : (a.attached p top).metadata? j = a.metadata? j := by
  have hadd : ∀ n : Node, (n.addChild top).metadata = n.metadata := by
    intro n
    unfold Node.addChild
    split <;> rfl
  rw [attached, (alike_forgetPaths _ top).metadata?, linked, metadata?_modify hadd]
  exact metadata?_modify (f := fun n => { n with parent := some p }) (fun _ => rfl) a top j

/-! ## Look-ups that find what they found -/

/-- Whether every look-up of a child that finds one finds the same in another arena. -/
def KeepsChildren (a b : Arena) : Prop := ∀ q name c, a.child? q name = some c → b.child? q name = some c

namespace KeepsChildren

theorem refl (a : Arena) : KeepsChildren a a := fun _ _ _ => id

theorem trans (h : KeepsChildren a b) (k : KeepsChildren b c) : KeepsChildren a c :=
  fun q name i hi => k q name i (h q name i hi)

theorem descend? (h : KeepsChildren a b) (hj : a.descend? id names = some j) : b.descend? id names = some j := by
  induction names generalizing id with
  | nil => exact hj
  | cons name names ih =>
    obtain ⟨i, hi, hj⟩ := Option.bind_eq_some_iff.1 hj
    rw [Arena.descend?, h id name i hi]
    exact ih hj

end KeepsChildren

/-- Growth puts what is new behind what was there. -/
theorem Grown.child?_old (h : Grown a b parent top) (ha : a.WellFormed) (hq : a.contains q = true) (name : String) :
    b.child? q name = (a.child? q name).or
      (if parent = some q ∧ b.name? top = some name then some top else none) := by
  have hnames : (a.children q).find? (fun j => b.name? j == some name) = a.child? q name := by
    refine List.find?_congr fun j hj => ?_
    rw [h.name?_old (contains_of_parent? (ha.mem_children.1 hj))]
  rw [child?, h.children_old hq]
  by_cases hp : parent = some q
  · rw [if_pos hp, List.find?_append, hnames, List.find?_singleton]
    simp [hp]
  · rw [if_neg hp, hnames]
    simp [hp]

theorem Grown.keepsChildren (h : Grown a b parent top) (ha : a.WellFormed) : KeepsChildren a b := by
  intro q name i hi
  rw [h.child?_old ha (ha.contains_parent (ha.parent?_of_child? hi)), hi, Option.some_or]

theorem descend?_eq_none_of_children (h : a.children id = []) (hne : names ≠ []) : a.descend? id names = none := by
  obtain ⟨name, rest, rfl⟩ := List.exists_cons_of_ne_nil hne
  rw [descend?, child?, h]
  rfl

/-! ## Renames -/

end Arena

namespace Tree

/-! ## Additions -/

/-- What is made of an entry that is no directory: one node with the metadata that was read. -/
theorem makeNode_file (ha : a.WellFormed) (hfile : metadata.isDirectory = false) (t : Tree) (d : Disk) (p : Path)
    (name : String) (way : Path) (rest : List Path.Component) (hname : rest = [] → p.entryName = name) :
    ∃ id b, t.makeNode a d p metadata name way rest = .ok (id, b) ∧ Sown a b none id ∧ b.name? id = some name ∧
      b.children id = [] ∧ (rest = [] → b.metadata? id = some metadata) := by
  have hone : ∀ m, ∃ id b, a.insert (Node.ofName name m) = (id, b) ∧ Sown a b none id ∧ b.name? id = some name ∧
      b.children id = [] ∧ b.metadata? id = some m := by
    intro m
    obtain ⟨id, b, hinsert, hs, hname, -⟩ := ha.sown_insert name m
    have hself := (FreeList.get?_insert ha.toFreeList (Node.ofName name m) _).trans (if_pos rfl)
    rw [hinsert] at hself
    exact ⟨id, b, hinsert, hs, hname, children_of_get? hself, by rw [metadata?, hself]; rfl⟩
  unfold makeNode
  split
  · rename_i hrest
    obtain ⟨id, b, hinsert, hs, hn, hc, hm⟩ := hone metadata
    refine ⟨id, b, ?_, hs, hn, hc, fun _ => hm⟩
    simp only [createNode, hfile, Bool.false_and, Bool.false_eq_true, if_false, hname hrest, hinsert]
  · rename_i hrest
    obtain ⟨id, b, hinsert, hs, hn, hc, -⟩ := hone (wayMetadata d way)
    exact ⟨id, b, congrArg _ hinsert, hs, hn, hc, fun h => absurd h hrest⟩

/-- Where the walk of an addition ends: at a node that was there, or at a new one for the entry. -/
inductive Lands (a : Arena) (current : NodeId) (names : List String) (metadata : Metadata) (top : Option NodeId) :
    Added → Prop
  | found {id : NodeId} : a.descend? current names = some id →
    Lands a current names metadata top { arena := a, top, complete := true }
  | made {b : Arena} {id new : NodeId} : a.descend? current names = none → b.descend? current names = some id →
    b.metadata? id = some metadata → Lands a current names metadata top { arena := b, top := some new, complete := true }

theorem addBelow_lands (ha : a.WellFormed) (hcur : a.contains current = true) (hfile : metadata.isDirectory = false)
    (t : Tree) (d : Disk) (top : Option NodeId) (way : Path) (hp : ∃ base, p.components = base ++ names.map .name) :
    ∃ added, t.addBelow d p metadata a top current way (names.map .name) = .ok added ∧ added.arena.WellFormed ∧
      KeepsChildren a added.arena ∧ Lands a current names metadata top added := by
  induction names generalizing a current top way with
  | nil => exact ⟨_, rfl, ha, .refl a, .found rfl⟩
  | cons name names ih =>
    obtain ⟨base, hp⟩ := hp
    have hp' : ∃ base, p.components = base ++ names.map .name := ⟨base ++ [.name name], by simp [hp]⟩
    rw [List.map_cons]
    cases hc : a.child? current name with
    | some child =>
      rw [addBelow_found ha hcur hc]
      obtain ⟨added, hadd, hwf, hkeeps, hlands⟩ := ih ha (contains_of_child? hc) top (way.child name) hp'
      refine ⟨added, hadd, hwf, hkeeps, ?_⟩
      cases hlands with
      | found hid => exact .found (by rw [descend?, hc]; exact hid)
      | made hnone hid hm =>
        exact .made (by rw [descend?, hc]; exact hnone) (by rw [descend?, hkeeps _ _ _ hc]; exact hid) hm
    | none =>
      have hname : names.map Path.Component.name = [] → p.entryName = name := by
        intro hnil
        rw [List.map_cons, hnil] at hp
        exact Path.entryName_of_components hp
      obtain ⟨child, b, hmake, hs, hn, hchildren, hmeta⟩ :=
        makeNode_file ha hfile t d p name (way.child name) (names.map .name) hname
      obtain ⟨c, hattach, hsc, hsight⟩ := hs.attach hcur
      have hself := hsight child (.refl b child)
      have hnone : a.descend? current (name :: names) = none := by rw [descend?, hc]; rfl
      rw [addBelow_missing ha hcur hc hmake hattach]
      obtain ⟨added, hadd, hwf, hkeeps, hlands⟩ :=
        ih hsc.wellFormed hsc.contains_top (some (top.getD child)) (way.child name) hp'
      have hfirst : c.child? current name = some child := by
        rw [hsc.child?_old ha hcur, hc, Option.none_or, if_pos ⟨rfl, hself.name.trans hn⟩]
      have hcmeta : c.metadata? child = b.metadata? child := by
        rw [attach_eq (hs.contains_old hcur) hs.contains_top, Except.ok.injEq] at hattach
        rw [← hattach, metadata?_attached]
      have hstep : added.arena.descend? current (name :: names) = added.arena.descend? child names := by
        rw [descend?, hkeeps _ _ _ hfirst]
        rfl
      refine ⟨added, hadd, hwf, (hsc.keepsChildren ha).trans hkeeps, ?_⟩
      cases hlands with
      | @found id hid =>
        -- Nothing stands below the new node, so that the last name is its own.
        have hnil : names = [] := by
          by_contra hne
          rw [descend?_eq_none_of_children (hself.children.trans hchildren) hne] at hid
          cases hid
        subst hnil
        cases hid
        exact .made hnone hstep (hcmeta.trans (hmeta rfl))
      | made _ hid hm => exact .made hnone (hstep.trans hid) hm

theorem metadata?_outcome (r : Added) (j : NodeId) : r.outcome.2.metadata? j = r.arena.metadata? j := by
  unfold Added.outcome
  split
  · apply metadata?_modifyAll
    exact fun _ => rfl
  · rfl

/-- **An addition of an entry that is no directory finds a node at its path or makes one** with the metadata that was
read. -/
theorem add_lands (ha : a.WellFormed) (hroot : ∀ r, t.root = some r → a.contains r = true)
    (hnames : t.names? p = some names) (hne : names ≠ []) (hcov : t.area.covers p = true)
    (hshown : t.hides (names.map .name) = false) (hm : d.metadata? p = some metadata)
    (hfile : metadata.isDirectory = false) :
    (∃ id, t.located? a p = some id ∧ t.add a d p = .ok (none, t, a)) ∨
      t.located? a p = none ∧ ∃ top t' b id, t.add a d p = .ok (some top, t', b) ∧ t'.area = t.area ∧
        t'.located? b p = some id ∧ b.metadata? id = some metadata := by
  have hp := names?_eq_some.1 hnames
  have hrest := Path.below?_eq_some.2 hp
  have hmapne : names.map Path.Component.name ≠ [] := by simpa using hne
  have hland : ∀ root new c, t.ensureRoot a d p metadata (names.map .name) = .ok (root, new, c) → c.WellFormed →
      c.contains root = true → ∃ added, t.add a d p = .ok (added.outcome.1, { t with root := some root },
        added.outcome.2) ∧ Lands c root names metadata new added := by
    intro root new c hensure hc hlive
    obtain ⟨added, hadd, -, -, hlands⟩ :=
      addBelow_lands hc hlive hfile { t with root := some root } d new t.area.path ⟨_, hp⟩
    refine ⟨added, ?_, hlands⟩
    simp only [add, hrest, hm, hcov, hshown, hensure, ok_bind, hadd, pure_eq_ok]
    rfl
  have hmade : ∀ root b (id new : NodeId), b.descend? root names = some id → b.metadata? id = some metadata →
      (t.area = t.area) ∧ ({ t with root := some root } : Tree).located?
        (Added.outcome { arena := b, top := some new, complete := true }).2 p = some id ∧
      (Added.outcome { arena := b, top := some new, complete := true }).2.metadata? id = some metadata := by
    intro root b id new hid hmeta
    refine ⟨rfl, ?_, (metadata?_outcome _ id).trans hmeta⟩
    have hl := outcome_sameLinks { arena := b, top := some new, complete := true }
    refine located?_eq_some.2 ⟨root, names, rfl, hnames, ?_⟩
    rw [descend?_congr hl.children (outcome_name? _)]
    exact hid
  cases hr : t.root with
  | some root =>
    have hensure : t.ensureRoot a d p metadata (names.map .name) = .ok (root, none, a) := by
      rw [ensureRoot, hr]
      rfl
    have ht : { t with root := some root } = t := by rw [← hr]
    obtain ⟨added, hadd, hlands⟩ := hland root none a hensure ha (hroot root hr)
    rw [ht] at hadd
    cases hlands with
    | @found id hid => exact .inl ⟨id, located?_eq_some.2 ⟨root, names, hr, hnames, hid⟩, hadd⟩
    | @made b id new hnone hid hmeta =>
      refine .inr ⟨by rw [located?, hr, Option.bind_some, hnames, Option.bind_some, hnone], new, t, _, id, hadd, ?_⟩
      have hstand := hmade root b id new hid hmeta
      rwa [ht] at hstand
  | none =>
    obtain ⟨root, b, hinsert, hs, -, hnone⟩ := ha.sown_insert t.area.path.entryName (wayMetadata d t.area.path)
    have hl := sameLinks_setAnchor b root t.area.path.parent?
    have hensure : t.ensureRoot a d p metadata (names.map .name) =
        .ok (root, some root, b.modify root (·.setAnchor t.area.path.parent?)) := by
      rw [ensureRoot, hr]
      simp only [hmapne, if_false, pure_eq_ok, hinsert, ok_bind]
    obtain ⟨added, hadd, hlands⟩ := hland root (some root) _ hensure (hl.wellFormed hs.wellFormed)
      (hl.contains root ▸ hs.contains_top)
    have hempty : (b.modify root (·.setAnchor t.area.path.parent?)).children root = [] := by
      rw [hl.children, List.eq_nil_iff_forall_not_mem]
      exact fun j hj => hnone j (hs.wellFormed.mem_children.1 hj)
    cases hlands with
    | found hid =>
      rw [descend?_eq_none_of_children hempty hne] at hid
      cases hid
    | @made b id new _ hid hmeta =>
      exact .inr ⟨by rw [located?, hr]; rfl, new, _, _, id, hadd, hmade root b id new hid hmeta⟩

/-! ## Renames -/

end Tree

end FileIndex
