/-
A merge of trees that stand as the disk has them (`Ready`). Every node that gives way is an entry of a shallow tree
with nothing below it, the tree that takes its place has the path of that entry (`Displaced`), and no root gives way.
Behind the merge no entry is left for which there is a tree (`Adopting.done`), and every tree that has adopted none
stands as it did (`Adopting.standing`).
-/
import FileIndex.Proofs.Index.Merge
import FileIndex.Proofs.Index.Entries

namespace FileIndex

open Arena
open Path (IsFileName)

namespace Index

variable {d : Disk} {x y z : Index} {rest : List (Nat × Nat)} {t u parent child : Tree} {p c k : Nat}
  {parentRoot childRoot s j r q : NodeId} {n : Node}

/-! ## The index behind an adoption -/

namespace Adoption

variable (h : Adoption x p c parent child parentRoot childRoot s) (hm : x.Merging ((p, c) :: rest))
include h hm

theorem children_adopted (hj : ¬x.arena.Below s j) : (x.adopted c s parentRoot childRoot).arena.children j =
    if j = parentRoot then (x.arena.children j).erase s ++ [childRoot] else (x.arena.children j).erase s := by
  rw [(h.linked hm).children, (hm.sound.wellFormed.cut_cutAt s).children_rest hj]

/-- Behind an adoption a node is what it was, but for its links. -/
theorem get?_adopted (hn : (x.adopted c s parentRoot childRoot).arena.get? j = some n) :
    ∃ m, x.arena.get? j = some m ∧ n.name = m.name ∧ n.metadata = m.metadata ∧ n.anchor = m.anchor := by
  have hf := hm.sound.forest
  obtain ⟨-, -, hnone⟩ := h.survives hf (hm.isChild_eq_false h)
  have hne : parentRoot ≠ childRoot := by
    rintro rfl
    exact hm.not_below h (.refl _ _)
  have hcut := hf.wellFormed.cut_cutAt s
  have hj : ¬x.arena.Below s j := ((h.contains_adopted hm).1 (contains_iff.2 ⟨n, hn⟩)).2
  have hcore : (x.adopted c s parentRoot childRoot).arena.core? j = _ :=
    (alike_forgetPaths ((x.arena.cutAt s).linked parentRoot childRoot (·.addChild childRoot)) childRoot).core j
  rw [core?_of_get? hn, core?, hcut.wellFormed.get?_linked hnone hne (fun _ => Node.addChild_of_not_mem),
    hcut.get?_rest j hj] at hcore
  cases hg : x.arena.get? j with
  | none => simp [hg] at hcore
  | some m =>
    refine ⟨m, rfl, ?_⟩
    rw [hg] at hcore
    split at hcore
    · have he := Option.some.inj hcore
      exact ⟨(congrArg Node.name he :), (congrArg Node.metadata he :), (congrArg Node.anchor he :)⟩
    · split at hcore
      all_goals
        have he := Option.some.inj hcore
        exact ⟨(congrArg Node.name he :), (congrArg Node.metadata he :), (congrArg Node.anchor he :)⟩

/-- What stands below a root that adopts nothing stays steady. -/
theorem steadyBelow (hs : ¬x.arena.Below r s) (hsr : ¬x.arena.Below s r) (hp : ¬x.arena.Below r parentRoot) :
    SteadyBelow x.arena (x.adopted c s parentRoot childRoot).arena r := by
  have hf := hm.sound.forest
  obtain ⟨-, -, hnone⟩ := h.survives hf (hm.isChild_eq_false h)
  have hne : parentRoot ≠ childRoot := by
    rintro rfl
    exact hm.not_below h (.refl _ _)
  have hcut := hf.wellFormed.cut_cutAt s
  refine (hcut.steadyBelow hf.wellFormed hs hsr).trans ?_ hf.wellFormed hcut.wellFormed
  refine hcut.wellFormed.steadyBelow_attached hnone hne ?_
  rw [hcut.below_rest fun hb => hf.wellFormed.acyclic (h.parent?_displaced hf) hb]
  exact hp

end Adoption

/-! ## Trees that are ready to adopt each other -/

/-- An index whose trees all stand as the disk has them, and have adopted none of each other. -/
structure Ready (d : Disk) (y : Index) : Prop where
  valid : d.Valid
  gathering : y.Gathering
  stands : ∀ t ∈ y.trees, t.Stands d y.includeHidden y.arena

/-- Whether a node is the entry in the root directory of a shallow tree at which another tree has its area. -/
structure Displaced (y : Index) (u t : Tree) (j : NodeId) : Prop where
  shallow : u.area.recursive = false
  above : u.area.isParentOf t.area = true
  parent : ∃ r, u.root = some r ∧ y.arena.parent? j = some r
  name : y.arena.name? j = some t.area.path.entryName

theorem Displaced.congr {u' t' : Tree} (h : Displaced y u t j) (hu : u'.area = u.area) (hr : u'.root = u.root)
    (ht : t'.area = t.area) : Displaced y u' t' j where
  shallow := hu ▸ h.shallow
  above := by rw [hu, ht]; exact h.above
  parent := hr ▸ h.parent
  name := ht ▸ h.name

theorem SameTree.trans {v : Tree} (h : SameTree t u) (g : SameTree u v) : SameTree t v :=
  ⟨g.area.trans h.area, g.root.trans h.root, g.includeHidden.trans h.includeHidden, fun hc => g.isChild (h.isChild hc)⟩

namespace Ready

theorem wellFormed (h : Ready d y) : y.arena.WellFormed := h.gathering.flat.wellFormed

theorem parent?_root (h : Ready d y) (hr : r ∈ Tree.roots y.trees) : y.arena.parent? r = none :=
  ((h.gathering.flat.mem_iff r).1 hr).2

/-- Every node stands below the root of one tree. -/
theorem exists_tree (h : Ready d y) (hj : y.arena.contains j = true) :
    ∃ t ∈ y.trees, ∃ r, t.root = some r ∧ y.arena.Below r j := by
  obtain ⟨top, htop, hb⟩ := h.wellFormed.grounded hj
  obtain ⟨t, ht, hr⟩ := Tree.mem_roots.1 ((h.gathering.flat.mem_iff top).2
    ⟨h.wellFormed.contains_of_below hb hj, htop⟩)
  exact ⟨t, ht, top, hr, hb⟩

/-- A node with a parent has a name that entries can have. -/
theorem isFileName (h : Ready d y) {name : String} (hp : y.arena.parent? j = some q)
    (hn : y.arena.name? j = some name) : IsFileName name := by
  obtain ⟨t, ht, r, hr, hb⟩ := h.exists_tree (contains_of_parent? hp)
  obtain ⟨e, -, hm, -, hnamed⟩ := (h.stands t ht).mirrors h.wellFormed h.valid hr
  refine hm.isFileName h.wellFormed hnamed hb ?_ hn
  rintro rfl
  rw [h.parent?_root (Tree.mem_roots_of_root ht hr)] at hp
  cases hp

/-- An area whose tree has the place of an entry ends in the entry's name. -/
theorem components_of_displaced (h : Ready d y) (hj : Displaced y u t j) :
    t.area.path.components = u.area.path.components ++ [.name t.area.path.entryName] := by
  obtain ⟨r, -, hp⟩ := hj.parent
  obtain ⟨c, hc⟩ := components_of_isParentOf hj.above
  exact Path.components_eq_of_entryName (h.isFileName hp hj.name) hc

/-- A node in the place of a tree is no root. -/
theorem not_root_of_displaced (h : Ready d y) (hj : Displaced y u t j) :
    j ∉ Tree.roots y.trees := by
  intro hr
  obtain ⟨r, -, hp⟩ := hj.parent
  rw [h.parent?_root hr] at hp
  cases hp

/-- In the root directory of a tree there is one entry of a name. -/
theorem displaced_unique (h : Ready d y) (hu : u ∈ y.trees) {i : NodeId} (hi : Displaced y u t i)
    (hj : Displaced y u t j) : i = j := by
  obtain ⟨r, hr, hpi⟩ := hi.parent
  obtain ⟨r', hr', hpj⟩ := hj.parent
  obtain rfl : r = r' := Option.some.inj (hr.symm.trans hr')
  obtain ⟨e, -, hm, -⟩ := (h.stands u hu).mirrors h.wellFormed h.valid hr
  exact List.inj_on_of_nodup_map (hm.distinct r (.refl _ r)) (h.wellFormed.mem_children.2 hpi)
    (h.wellFormed.mem_children.2 hpj) (hi.name.trans hj.name.symm)

/-- In a shallow tree an entry has nothing below it. -/
theorem children_displaced (h : Ready d y) (hu : u ∈ y.trees) (hj : Displaced y u t j) :
    y.arena.children j = [] := by
  obtain ⟨r, hr, hp⟩ := hj.parent
  obtain ⟨e, -, hm, -⟩ := (h.stands u hu).mirrors h.wellFormed h.valid hr
  exact hm.children_of_shallow h.wellFormed hj.shallow hp

end Ready

/-! ## Adoption after adoption -/

/-- An index in the middle of a merge that started from another index with trees that were ready. -/
structure Adopting (d : Disk) (y x : Index) (rest : List (Nat × Nat)) : Prop extends x.Merging rest where
  includeHidden : x.includeHidden = y.includeHidden
  roots : Tree.roots x.trees = Tree.roots y.trees
  get_tree : ∀ (k : Nat) u, x.trees[k]? = some u → ∃ t, y.trees[k]? = some t ∧ SameTree t u
  of_get_tree : ∀ (k : Nat) t, y.trees[k]? = some t → ∃ u, x.trees[k]? = some u ∧ SameTree t u
  get? : ∀ j n, x.arena.get? j = some n →
    ∃ m, y.arena.get? j = some m ∧ n.name = m.name ∧ n.metadata = m.metadata ∧ n.anchor = m.anchor
  /-- Other nodes than roots have kept their links. -/
  parent? : ∀ j, x.arena.contains j = true → j ∉ Tree.roots y.trees → x.arena.parent? j = y.arena.parent? j
  children : ∀ j, x.arena.contains j = true → j ∉ Tree.roots y.trees → x.arena.children j = y.arena.children j
  /-- A node that is gone has given way to a tree. -/
  lost : ∀ j, y.arena.contains j = true → ¬x.arena.contains j = true →
    ∃ t ∈ x.trees, ∃ u ∈ x.trees, t.isChild = true ∧ Displaced y u t j
  /-- A tree that counts as a child has taken the place of a node. -/
  taken : ∀ t ∈ x.trees, t.isChild = true → ∃ u ∈ x.trees, ∃ j, Displaced y u t j
  /-- Trees that were looked at have left no entry in the place of each other. -/
  done : ∀ (p c : Nat) u t, x.trees[p]? = some u → x.trees[c]? = some t → (p, c) ∉ rest → t.root.isSome = true →
    ∀ j, x.arena.contains j = true → ¬Displaced y u t j
  standing : x.Standing d

namespace Adopting

/-- Trees that are ready can be merged. -/
theorem start (hy : Ready d y) : Adopting d y y (pairs y.trees.length) where
  toMerging := hy.gathering.merging
  includeHidden := rfl
  roots := rfl
  get_tree k u hu := ⟨u, hu, rfl, rfl, rfl, id⟩
  of_get_tree k t ht := ⟨t, ht, rfl, rfl, rfl, id⟩
  get? j n hn := ⟨n, hn, rfl, rfl, rfl⟩
  parent? _ _ _ := rfl
  children _ _ _ := rfl
  lost j hj hn := absurd hj hn
  taken t ht hc := by
    rw [hy.gathering.noChild t ht] at hc
    cases hc
  done p c u t hu ht hn := by
    refine absurd ?_ hn
    have hp := (List.getElem?_eq_some_iff.1 hu).1
    have hc := (List.getElem?_eq_some_iff.1 ht).1
    simp [pairs, hp, hc]
  standing t ht := by
    refine .inr ⟨hy.stands t ht, fun r hr q hq hb => ?_⟩
    exact (hb.eq_of_parent?_eq_none (hy.parent?_root hq)).symm

theorem live (hx : Adopting d y x rest) (hj : x.arena.contains j = true) : y.arena.contains j = true := by
  obtain ⟨n, hn⟩ := contains_iff.1 hj
  obtain ⟨m, hm, -⟩ := hx.get? j n hn
  exact contains_iff.2 ⟨m, hm⟩

theorem name? (hx : Adopting d y x rest) (hj : x.arena.contains j = true) :
    x.arena.name? j = y.arena.name? j := by
  obtain ⟨n, hn⟩ := contains_iff.1 hj
  obtain ⟨m, hm, he, -⟩ := hx.get? j n hn
  rw [name?_of_get? hn, name?_of_get? hm, he]

/-- The trees are those that were ready, up to the mark. -/
theorem exists_ready (hx : Adopting d y x rest) (ht : t ∈ x.trees) : ∃ v ∈ y.trees, SameTree v t := by
  obtain ⟨k, hk⟩ := List.mem_iff_getElem?.1 ht
  obtain ⟨v, hv, h⟩ := hx.get_tree k t hk
  exact ⟨v, List.mem_of_getElem? hv, h⟩

theorem exists_adopted (hx : Adopting d y x rest) (ht : t ∈ y.trees) : ∃ v ∈ x.trees, SameTree t v := by
  obtain ⟨k, hk⟩ := List.mem_iff_getElem?.1 ht
  obtain ⟨v, hv, h⟩ := hx.of_get_tree k t hk
  exact ⟨v, List.mem_of_getElem? hv, h⟩

theorem length_trees (hx : Adopting d y x rest) : x.trees.length = y.trees.length := by
  refine le_antisymm (le_of_not_gt fun hlt => ?_) (le_of_not_gt fun hlt => ?_)
  · obtain ⟨t, ht, -⟩ := hx.get_tree y.trees.length _ (List.getElem?_eq_getElem hlt)
    simp at ht
  · obtain ⟨t, ht, -⟩ := hx.of_get_tree x.trees.length _ (List.getElem?_eq_getElem hlt)
    simp at ht

theorem isDirectory (hx : Adopting d y x rest) (hj : x.arena.contains j = true) :
    x.arena.isDirectory j = y.arena.isDirectory j := by
  obtain ⟨n, hn⟩ := contains_iff.1 hj
  obtain ⟨m, hm, -, hmeta, -⟩ := hx.get? j n hn
  rw [Arena.isDirectory, Arena.isDirectory, hn, hm, Option.any_some, Option.any_some, Node.isDirectory, hmeta]
  rfl

/-- The root of a tree carries the name of the area's entry. -/
theorem name?_root (hx : Adopting d y x rest) (hy : Ready d y) (ht : t ∈ x.trees) (hr : t.root = some r) :
    x.arena.name? r = some t.area.path.entryName := by
  obtain ⟨v, hv, hvt⟩ := hx.exists_ready ht
  rw [hx.name? (hx.sound.contains_root ht r hr), hvt.area]
  exact (hy.stands v hv).name? (hvt.root ▸ hr)

/-! ### What gives way -/

section

variable (hx : Adopting d y x rest) (hy : Ready d y)
include hx hy

/-- A node is in the place of one tree only. -/
theorem eq_of_displaced {v w : Tree} (ht : t ∈ x.trees) (hu : u ∈ x.trees) (hw : w ∈ x.trees) (hv : v ∈ x.trees)
    (h : Displaced y u t j) (g : Displaced y v w j) : w = t := by
  obtain ⟨r, hr, hp⟩ := h.parent
  obtain ⟨q, hq, hp'⟩ := g.parent
  obtain rfl := Option.some.inj (hp.symm.trans hp')
  obtain rfl : v = u := hx.sound.forest.eq_of_root hv hu hq hr
  have hname := Option.some.inj (h.name.symm.trans g.name)
  refine hx.sound.eq_of_components hw ht ?_
  rw [hy.components_of_displaced h, hy.components_of_displaced g, hname]

/-- No adoption takes the slot of a root: of two trees with the same name in one directory there is only one. -/
theorem spares : AdoptionSpares x p c := by
  intro s hd hs
  obtain ⟨parent, child, parentRoot, childRoot, ha⟩ := adoption_of_displaced? hd
  have hf := hx.sound.forest
  obtain ⟨u, hu, hur⟩ := Tree.mem_roots.1 hs
  have hparent := List.mem_of_getElem? ha.parent_get
  have hchild := List.mem_of_getElem? ha.child_get
  have hpar := ha.parent?_displaced hf
  obtain ⟨name, hname, hfound⟩ := ha.displaced
  have hsame : u.area.path.entryName = child.area.path.entryName := by
    have := name?_of_child? hfound
    rw [hx.name?_root hy hu hur, ← hname, hx.name?_root hy hchild ha.child_root] at this
    exact Option.some.inj this
  -- The other tree was adopted, so that its name is the name of an entry.
  obtain ⟨v, -, j, hj⟩ := hx.taken u hu ((hf.child_iff u hu).2 ⟨s, parentRoot, hur, hpar⟩)
  obtain ⟨q, -, hq⟩ := hj.parent
  have hfile := hy.isFileName hq hj.name
  obtain ⟨a, ha'⟩ := components_of_isParentOf (hx.nested u hu parent hparent s parentRoot hur ha.parent_root hpar)
  obtain ⟨b, hb⟩ := components_of_isParentOf ha.above
  have hcomponents : u.area.path.components = child.area.path.components := by
    rw [Path.components_eq_of_entryName hfile ha', Path.components_eq_of_entryName (hsame ▸ hfile) hb, hsame]
  rw [hx.sound.eq_of_components hu hchild hcomponents, ha.child_root] at hur
  exact ha.other (Option.some.inj hur).symm

/-- What gives way is an entry in the place of the adopted tree. -/
theorem displaced (ha : Adoption x p c parent child parentRoot childRoot s)
    (hs : s ∉ Tree.roots x.trees) : Displaced y parent child s := by
  have hf := hx.sound.forest
  have hpar := ha.parent?_displaced hf
  have hlive := contains_of_parent? hpar
  obtain ⟨name, hname, hfound⟩ := ha.displaced
  refine ⟨ha.shallow, ha.above, ⟨parentRoot, ha.parent_root, ?_⟩, ?_⟩
  · rw [← hx.parent? s hlive (hx.roots ▸ hs), hpar]
  · rw [← hx.name? hlive, name?_of_child? hfound, ← hname]
    exact hx.name?_root hy (List.mem_of_getElem? ha.child_get) ha.child_root

/-- As long as two trees were not looked at, the node that gives way is the one in the place of the second. -/
theorem displaced?_eq_some (hpc : (p, c) ∈ rest) : x.displaced? p c = some s ↔
    ∃ u t, x.trees[p]? = some u ∧ x.trees[c]? = some t ∧ t.root.isSome = true ∧ x.arena.contains s = true ∧
      Displaced y u t s := by
  have hf := hx.sound.forest
  have hto : ∀ {i}, x.displaced? p c = some i → ∃ u t, x.trees[p]? = some u ∧ x.trees[c]? = some t ∧
      t.root.isSome = true ∧ x.arena.contains i = true ∧ Displaced y u t i := by
    intro i hi
    obtain ⟨parent, child, parentRoot, childRoot, ha⟩ := adoption_of_displaced? hi
    exact ⟨parent, child, ha.parent_get, ha.child_get, by rw [ha.child_root]; rfl,
      contains_of_parent? (ha.parent?_displaced hf), hx.displaced hy ha (hx.spares hy i hi)⟩
  refine ⟨hto, ?_⟩
  rintro ⟨u, t, hu, ht, hroot, hs, hdis⟩
  obtain ⟨r, hr, hpar⟩ := hdis.parent
  obtain ⟨q, hq⟩ := Option.isSome_iff_exists.1 hroot
  have hchild : t.isChild = false := hx.fresh p c hpc u t hu ht hdis.above
  have hne : p ≠ c := by
    rintro rfl
    obtain rfl : u = t := Option.some.inj (hu.symm.trans ht)
    obtain ⟨a, ha⟩ := components_of_isParentOf hdis.above
    simpa using congrArg List.length ha
  have hcond : (u.area.recursive || p == c || !u.area.isParentOf t.area) = false := by
    simp [hdis.shallow, hne, hdis.above]
  have hmem : s ∈ x.arena.children r := by
    refine hf.wellFormed.mem_children.2 ?_
    rw [hx.parent? s hs (hy.not_root_of_displaced hdis), hpar]
  have hname : x.arena.name? s = some t.area.path.entryName := by rw [hx.name? hs, hdis.name]
  -- A node is found under the name, and it is not the root of the tree, which has no parent yet.
  obtain ⟨i, hi⟩ : ∃ i, x.arena.child? r t.area.path.entryName = some i := by
    refine Option.isSome_iff_exists.1 (List.find?_isSome.2 ⟨s, hmem, ?_⟩)
    simpa using hname
  have hiq : i ≠ q := by
    rintro rfl
    have := (hf.child_iff t (List.mem_of_getElem? ht)).2 ⟨i, r, hq, hf.wellFormed.parent?_of_child? hi⟩
    rw [hchild] at this
    cases this
  have hfound : x.displaced? p c = some i := by
    rw [displaced?, hu, ht]
    simp only [hcond, Bool.false_eq_true, if_false, hr, hq, Option.bind_some,
      hx.name?_root hy (List.mem_of_getElem? ht) hq]
    rw [hi, Option.filter_some, if_pos (by simpa using hiq)]
  obtain ⟨u', t', hu', ht', -, -, hdis'⟩ := hto hfound
  obtain rfl := Option.some.inj (hu.symm.trans hu')
  obtain rfl := Option.some.inj (ht.symm.trans ht')
  obtain ⟨v, hv, hvu⟩ := hx.get_tree p u hu
  rw [hfound, hy.displaced_unique (List.mem_of_getElem? hv) (hdis.congr hvu.area.symm hvu.root.symm rfl)
    (hdis'.congr hvu.area.symm hvu.root.symm rfl)]

end

/-! ### One more pair -/

variable (hx : Adopting d y x ((p, c) :: rest)) (hy : Ready d y)
include hx hy

/-- Where no node gives way, none is left to. -/
theorem idle (hd : x.displaced? p c = none) : Adopting d y x rest where
  toMerging := hx.tail
  includeHidden := hx.includeHidden
  roots := hx.roots
  get_tree := hx.get_tree
  of_get_tree := hx.of_get_tree
  get? := hx.get?
  parent? := hx.parent?
  children := hx.children
  lost := hx.lost
  taken := hx.taken
  standing := hx.standing
  done p' c' u t hu ht hn hroot j hj hdis := by
    by_cases hsame : (p', c') = (p, c)
    · obtain ⟨rfl, rfl⟩ := Prod.mk.inj hsame
      rw [(hx.displaced?_eq_some hy (by simp)).2 ⟨u, t, hu, ht, hroot, hj, hdis⟩] at hd
      cases hd
    · exact hx.done p' c' u t hu ht (by simp [hsame, hn]) hroot j hj hdis

/-- What gives way has nothing below it. -/
theorem eq_of_below_displaced (ha : Adoption x p c parent child parentRoot childRoot s)
    (hs : s ∉ Tree.roots x.trees) (hb : x.arena.Below s j) : j = s := by
  have hlive := contains_of_parent? (ha.parent?_displaced hx.sound.forest)
  have hdis := hx.displaced hy ha hs
  obtain ⟨v, hv, hvp⟩ := hx.get_tree p parent ha.parent_get
  have hnone := hy.children_displaced (List.mem_of_getElem? hv) (hdis.congr hvp.area.symm hvp.root.symm rfl)
  rcases hb.cases_head with rfl | ⟨i, hi, -⟩
  · rfl
  · have hmem := hx.sound.wellFormed.mem_children.2 hi
    rw [hx.children s hlive (hx.roots ▸ hs), hnone] at hmem
    cases hmem

section

variable (ha : Adoption x p c parent child parentRoot childRoot s) (hs : s ∉ Tree.roots x.trees)
include ha hs

/-- What is gone behind an adoption has given way, to the tree that was adopted or to one before. -/
theorem lost_adopted (hj : y.arena.contains j = true)
    (hn : ¬(x.adopted c s parentRoot childRoot).arena.contains j = true) :
    ∃ t ∈ (x.adopted c s parentRoot childRoot).trees, ∃ u ∈ (x.adopted c s parentRoot childRoot).trees,
      t.isChild = true ∧ Displaced y u t j := by
  by_cases hl : x.arena.contains j = true
  · obtain rfl : j = s := by
      by_contra hne
      exact hn ((ha.contains_adopted hx.toMerging).2 ⟨hl, fun hb => hne (hx.eq_of_below_displaced hy ha hs hb)⟩)
    obtain ⟨parent', hparent, hpp⟩ := exists_get_adopted ha.parent_get c j parentRoot childRoot
    exact ⟨_, ha.adoptee_mem, parent', List.mem_of_getElem? hparent, rfl,
      (hx.displaced hy ha hs).congr hpp.area hpp.root rfl⟩
  · obtain ⟨t, ht, u, hu, hc, h⟩ := hx.lost j hj hl
    obtain ⟨t', ht', htt⟩ := exists_mem_adopted ht c s parentRoot childRoot
    obtain ⟨u', hu', huu⟩ := exists_mem_adopted hu c s parentRoot childRoot
    exact ⟨t', ht', u', hu', htt.isChild hc, h.congr huu.area huu.root htt.area⟩

theorem taken_adopted (ht : t ∈ (x.adopted c s parentRoot childRoot).trees) (hc : t.isChild = true) :
    ∃ u ∈ (x.adopted c s parentRoot childRoot).trees, ∃ j, Displaced y u t j := by
  obtain ⟨k, hk⟩ := List.mem_iff_getElem?.1 ht
  rw [getElem?_adopted] at hk
  split at hk
  · rename_i hck
    subst hck
    rw [ha.child_get, Option.map_some, Option.some.injEq] at hk
    subst hk
    obtain ⟨parent', hparent, hpp⟩ := exists_get_adopted ha.parent_get c s parentRoot childRoot
    exact ⟨parent', List.mem_of_getElem? hparent, s, (hx.displaced hy ha hs).congr hpp.area hpp.root rfl⟩
  · obtain ⟨u, hu, j, h⟩ := hx.taken t (List.mem_of_getElem? hk) hc
    obtain ⟨u', hu', huu⟩ := exists_mem_adopted hu c s parentRoot childRoot
    exact ⟨u', hu', j, h.congr huu.area huu.root rfl⟩

/-- The pair of an adoption leaves no entry in the place of its second tree, since only one has the name. -/
theorem done_adopted {p' c' : Nat} (hu : (x.adopted c s parentRoot childRoot).trees[p']? = some u)
    (ht : (x.adopted c s parentRoot childRoot).trees[c']? = some t) (hn : (p', c') ∉ rest)
    (hroot : t.root.isSome = true) (hj : (x.adopted c s parentRoot childRoot).arena.contains j = true) :
    ¬Displaced y u t j := by
  intro hdisplaced
  obtain ⟨hl, hb⟩ := (ha.contains_adopted hx.toMerging).1 hj
  obtain ⟨u₀, hu₀, huu⟩ := exists_get_of_adopted hu
  obtain ⟨t₀, ht₀, htt⟩ := exists_get_of_adopted ht
  have h := hdisplaced.congr huu.area.symm huu.root.symm htt.area.symm
  by_cases hsame : (p', c') = (p, c)
  · obtain ⟨rfl, rfl⟩ := Prod.mk.inj hsame
    obtain rfl : u₀ = parent := Option.some.inj (hu₀.symm.trans ha.parent_get)
    obtain rfl : t₀ = child := Option.some.inj (ht₀.symm.trans ha.child_get)
    obtain ⟨v, hv, hvp⟩ := hx.get_tree p' u₀ hu₀
    obtain rfl : j = s := hy.displaced_unique (List.mem_of_getElem? hv) (h.congr hvp.area.symm hvp.root.symm rfl)
      ((hx.displaced hy ha hs).congr hvp.area.symm hvp.root.symm rfl)
    exact hb (.refl _ j)
  · exact hx.done p' c' u₀ t₀ hu₀ ht₀ (by simp [hsame, hn]) (htt.root ▸ hroot) j hl h

/-- A tree that has adopted none stands as it did. -/
theorem standing_adopted : (x.adopted c s parentRoot childRoot).Standing d := by
  have hf := hx.sound.forest
  have hm := hx.toMerging
  intro t ht
  obtain ⟨t₀, ht₀, htt⟩ := exists_mem_of_adopted ht
  rcases hx.standing t₀ ht₀ with ⟨u, hu, hc, hab⟩ | ⟨hstands, hno⟩
  · obtain ⟨u', hu', huu⟩ := exists_mem_adopted hu c s parentRoot childRoot
    exact .inl ⟨u', hu', huu.isChild hc, by rw [htt.area, huu.area]; exact hab⟩
  · by_cases hroot : t₀.root = some parentRoot
    · refine .inl ⟨_, ha.adoptee_mem, rfl, ?_⟩
      rw [htt.area, hf.eq_of_root ht₀ (List.mem_of_getElem? ha.parent_get) hroot ha.parent_root]
      exact ha.above
    · have hsteady : ∀ r, t₀.root = some r →
          SteadyBelow x.arena (x.adopted c s parentRoot childRoot).arena r := by
        intro r hr
        have hrp : ¬x.arena.Below r parentRoot := fun hb =>
          hroot (hr.trans (congrArg some (hno r hr parentRoot ha.parentRoot_mem hb).symm))
        have hrs : r ≠ s := fun he => hs (he ▸ Tree.mem_roots_of_root ht₀ hr)
        exact ha.steadyBelow hm (fun hb => hrp (hb.of_parent? hrs (ha.parent?_displaced hf)))
          (fun hb => hrs (hx.eq_of_below_displaced hy ha hs hb)) hrp
      refine .inr ⟨(hstands.steady hf.wellFormed hsteady).congr htt.area htt.root htt.includeHidden, fun r hr q hq hb => ?_⟩
      rw [htt.root] at hr
      rw [roots_adopted] at hq
      refine hno r hr q hq ?_
      exact (hsteady r hr).of_below hf.wellFormed (hm.adopted ha hs).sound.wellFormed (hf.live_root ht₀ hr) hb

/-- **An adoption leaves a merge in order.** -/
theorem adopted : Adopting d y (x.adopted c s parentRoot childRoot) rest where
  toMerging := hx.toMerging.adopted ha hs
  includeHidden := hx.includeHidden
  roots := (roots_adopted x c s parentRoot childRoot).trans hx.roots
  get_tree k u hu := by
    obtain ⟨t, ht, h⟩ := exists_get_of_adopted hu
    obtain ⟨v, hv, h'⟩ := hx.get_tree k t ht
    exact ⟨v, hv, h'.trans h⟩
  of_get_tree k t ht := by
    obtain ⟨v, hv, h⟩ := hx.of_get_tree k t ht
    obtain ⟨u, hu, h'⟩ := exists_get_adopted hv c s parentRoot childRoot
    exact ⟨u, hu, h.trans h'⟩
  get? j n hn := by
    obtain ⟨m, hm, hname, hmeta, hanchor⟩ := ha.get?_adopted hx.toMerging hn
    obtain ⟨k, hk, h⟩ := hx.get? j m hm
    exact ⟨k, hk, hname.trans h.1, hmeta.trans h.2.1, hanchor.trans h.2.2⟩
  parent? j hj hr := by
    obtain ⟨hl, hb⟩ := (ha.contains_adopted hx.toMerging).1 hj
    have hjc : j ≠ childRoot := fun he => hr (hx.roots ▸ he ▸ ha.childRoot_mem)
    rw [ha.parent?_adopted hx.toMerging hb, if_neg hjc, hx.parent? j hl hr]
  children j hj hr := by
    have hf := hx.sound.forest
    obtain ⟨hl, hb⟩ := (ha.contains_adopted hx.toMerging).1 hj
    have hjp : j ≠ parentRoot := fun he => hr (hx.roots ▸ he ▸ ha.parentRoot_mem)
    rw [ha.children_adopted hx.toMerging hb, if_neg hjp, List.erase_of_not_mem, hx.children j hl hr]
    intro hmem
    exact hjp (Option.some.inj ((hf.wellFormed.mem_children.1 hmem).symm.trans (ha.parent?_displaced hf)))
  lost _ hj hn := hx.lost_adopted hy ha hs hj hn
  taken _ ht hc := hx.taken_adopted hy ha hs ht hc
  done _ _ _ _ hu ht hn hroot _ hj := hx.done_adopted hy ha hs hu ht hn hroot hj
  standing := hx.standing_adopted hy ha hs

end

end Adopting

end Index

end FileIndex
