/-
Trees that adopt each other. While the pairs of trees are gone through, a root that got a parent lies in the
root directory of a tree whose area is directly above its own, so no adoption makes a cycle and no tree is
adopted twice (`Merging`). What an adoption must not do is to displace the root of a tree: it takes the slot
away from it, and nothing gives that tree another root.
-/
import FileIndex.Proofs.Index.Gather

namespace FileIndex

open Arena

variable {a b : Arena} {ts us : List Tree} {t u parent child : Tree} {roots others : List NodeId}
  {id j p q r s top parentRoot childRoot : NodeId} {i k : Nat}

/-! ## A root that gets a parent -/

namespace Arena

theorem PathsKnown.attached (ha : a.WellFormed) (hk : a.PathsKnown) (hpar : a.parent? top = none)
    (hb : ¬a.Below top p) (hp : a.contains p = true) (ht : a.contains top = true) :
    (a.attached p top).PathsKnown := by
  have hne : p ≠ top := by
    rintro rfl
    exact hb (.refl a p)
  have hl := ha.isLinked hpar hne hp ht fun _ => Node.addChild_of_not_mem
  refine hk.forgetPaths ha (hl.wellFormed ha ht hp hpar hb) (by rw [hl.contains, ht]) (fun j => ?_)
    fun j hj => ?_
  · rw [hl.below_iff hpar]
    exact ⟨fun h => h.elim id fun h => absurd h.1 hb, .inl⟩
  · have hjt : j ≠ top := by
      rintro rfl
      exact hj (.refl a j)
    have hget := ha.get?_linked hpar hne (fun _ => Node.addChild_of_not_mem) j
    by_cases hjp : j = p
    · rw [stage?, hget, if_pos hjp, stage?]
      refine ⟨by cases a.get? j <;> rfl, fun m hm => ?_⟩
      obtain ⟨n, hn, rfl⟩ := Option.map_eq_some_iff.1 hm
      exact ⟨n, hn, rfl⟩
    · rw [stage?, hget, if_neg hjp, if_neg hjt, stage?]
      exact ⟨rfl, fun m hm => ⟨m, hm, rfl⟩⟩

end Arena

/-! ## Slots that stay empty -/

namespace Arena

theorem get?_forgetPaths_eq_none (id : NodeId) (hj : a.get? j = none) :
    (a.forgetPaths id).get? j = none := by
  rw [get?_forgetPaths, hj, Option.map_none, ite_self]

theorem get?_detach_eq_none (id : NodeId) (hj : a.get? j = none) : (a.detach id).2.get? j = none := by
  unfold detach
  split
  · exact hj
  · exact get?_forgetPaths_eq_none id (by simp [hj])

theorem get?_attach_eq_none (h : a.attach p top = .ok b) (hj : a.get? j = none) : b.get? j = none := by
  unfold attach at h
  split at h
  · cases h
  · split at h
    · cases h
    · cases h
      exact get?_forgetPaths_eq_none top (by simp [hj])

/-! ## Handles to no node -/

variable {fault : Fault} {n : Node} {name : String} {ids : List NodeId}

theorem stale_get (h : a.get id = .error fault) : fault.stale = true := by
  unfold get at h
  split at h <;> cases h
  rfl

theorem stale_attach (h : a.attach p top = .error fault) : fault.stale = true := by
  unfold attach at h
  split at h
  · cases h
    rfl
  · split at h <;> cases h
    rfl

theorem stale_findNamed (h : Tree.findNamed a name ids = .error fault) : fault.stale = true := by
  induction ids with
  | nil => cases h
  | cons i ids ih =>
    rw [Tree.findNamed] at h
    split at h
    · split at h
      · cases h
      · exact ih h
    · rename_i hg
      cases h
      exact stale_get hg

theorem stale_findChild (h : Tree.findChild a p name = .error fault) : fault.stale = true := by
  unfold Tree.findChild at h
  cases hg : a.get p with
  | error _ =>
    rw [hg] at h
    cases h
    exact stale_get hg
  | ok n =>
    rw [hg] at h
    exact stale_findNamed h

end Arena

/-! ## Links between roots -/

theorem modify_eq_append {f : Tree → Tree} (hi : ts[i]? = some t) :
    ∃ before after, ts = before ++ t :: after ∧ ts.modify i f = before ++ f t :: after := by
  obtain ⟨before, after, hts, hset⟩ := Index.set_eq_append hi (f t)
  obtain ⟨hlt, rfl⟩ := List.getElem?_eq_some_iff.1 hi
  refine ⟨before, after, hts, ?_⟩
  rw [← hset]
  apply List.ext_getElem?
  intro j
  rw [List.getElem?_modify, List.getElem?_set]
  by_cases hj : i = j
  · subst hj
    simp [hlt]
  · simp [hj]

theorem Tree.roots_modify (ts : List Tree) (i : Nat) :
    Tree.roots (ts.modify i fun t => { t with isChild := true }) = Tree.roots ts := by
  cases hi : ts[i]? with
  | none => rw [List.modify_eq_self (by simpa using hi)]
  | some t =>
    obtain ⟨before, after, hts, hmod⟩ := modify_eq_append (f := fun t => { t with isChild := true }) hi
    rw [hmod, hts]
    simp [Tree.roots_cons]

theorem Forest.link (h : Forest a ts) (hi : ts[i]? = some t) (hr : t.root = some r)
    (hpar : a.parent? r = none) (hp : p ∈ Tree.roots ts) (hb : ¬a.Below r p) (hl : Linked a b p r) :
    Forest b (ts.modify i fun t => { t with isChild := true }) := by
  obtain ⟨before, after, hts, hmod⟩ := modify_eq_append (f := fun t => { t with isChild := true }) hi
  have hroots := Tree.roots_modify ts i
  have ht : t ∈ ts := List.mem_of_getElem? hi
  have hlive : a.contains r = true := h.live_root ht hr
  constructor
  · exact hl.wellFormed h.wellFormed hlive (h.live p hp) hpar hb
  · intro q hq
    rw [hroots] at hq
    rw [hl.contains, h.live q hq]
  · rw [hroots]
    exact h.distinct
  · intro u hu
    have hcase : u = { t with isChild := true } ∨ u ∈ ts ∧ u.root ≠ some r := by
      rw [hmod] at hu
      have hd := h.distinct
      rw [hts] at hd
      rw [Tree.roots_append, Tree.roots_cons, hr] at hd
      obtain ⟨-, hd₂, hd₃⟩ := List.nodup_append'.1 hd
      rcases List.mem_append.1 hu with hu | hu
      · refine .inr ⟨by rw [hts]; exact List.mem_append_left _ hu, fun he => ?_⟩
        exact hd₃ (Tree.mem_roots_of_root hu he) (by simp)
      · rcases List.mem_cons.1 hu with rfl | hu
        · exact .inl rfl
        · refine .inr ⟨by rw [hts]; simp [hu], fun he => ?_⟩
          exact (List.nodup_cons.1 hd₂).1 (Tree.mem_roots_of_root hu he)
    rcases hcase with rfl | ⟨hu, hne⟩
    · simp only [true_iff]
      exact ⟨r, p, hr, by rw [hl.parent?, if_pos rfl]⟩
    · rw [h.child_iff u hu]
      have hsame : ∀ q, u.root = some q → b.parent? q = a.parent? q := fun q hq => by
        rw [hl.parent?, if_neg]
        rintro rfl
        exact hne hq
      constructor <;> rintro ⟨q, m, hq, hm⟩ <;> refine ⟨q, m, hq, ?_⟩
      · rw [hsame q hq, hm]
      · rw [← hsame q hq, hm]
  · intro j hj hn
    rw [hl.contains] at hj
    rw [hl.parent?] at hn
    rw [hroots]
    split at hn
    · cases hn
    · exact h.owned j hj hn
  · intro q hq m hm
    rw [hroots] at hq ⊢
    rw [hl.parent?] at hm
    split at hm
    · rw [Option.some.injEq] at hm
      exact hm ▸ hp
    · exact h.merged q hq m hm

namespace Index

variable {α : Type} {x y : Index} {rest : List (Nat × Nat)}

/-! ## One adoption -/

/-- The node that gives way when tree `p` adopts tree `c`: another one of that name in the directory. -/
def displaced? (x : Index) (p c : Nat) : Option NodeId :=
  match x.trees[p]?, x.trees[c]? with
  | some parent, some child =>
    if parent.area.recursive || p == c || !parent.area.isParentOf child.area then none
    else
      match parent.root, child.root with
      | some parentRoot, some childRoot =>
        (x.arena.name? childRoot).bind fun name =>
          (x.arena.child? parentRoot name).filter (· ≠ childRoot)
      | _, _ => none
  | _, _ => none

/-- What there is to an adoption. -/
structure Adoption (x : Index) (p c : Nat) (parent child : Tree) (parentRoot childRoot s : NodeId) :
    Prop where
  parent_get : x.trees[p]? = some parent
  child_get : x.trees[c]? = some child
  ne : p ≠ c
  shallow : parent.area.recursive = false
  above : parent.area.isParentOf child.area = true
  parent_root : parent.root = some parentRoot
  child_root : child.root = some childRoot
  displaced : ∃ name, x.arena.name? childRoot = some name ∧ x.arena.child? parentRoot name = some s
  other : s ≠ childRoot

theorem adoption_of_displaced? {p c : Nat} (h : x.displaced? p c = some s) :
    ∃ parent child parentRoot childRoot, Adoption x p c parent child parentRoot childRoot s := by
  unfold displaced? at h
  split at h
  · rename_i parent child hp hc
    split at h
    · cases h
    · rename_i hcond
      split at h
      · rename_i parentRoot childRoot hpr hcr
        obtain ⟨name, hname, hs⟩ := Option.bind_eq_some_iff.1 h
        obtain ⟨hs, hne⟩ := Option.filter_eq_some_iff.1 hs
        simp only [Bool.or_eq_true, not_or, beq_iff_eq, Bool.not_eq_true'] at hcond
        exact ⟨parent, child, parentRoot, childRoot, hp, hc, hcond.1.2, by simpa using hcond.1.1,
          by simpa using hcond.2, hpr, hcr, ⟨name, hname, hs⟩, by simpa using hne⟩
      · cases h
  · cases h

/-- Where no node gives way, nothing happens. -/
theorem perform_adopt_idle {p c : Nat} (h : Forest x.arena x.trees) (hn : x.displaced? p c = none) :
    x.perform (adopt p c) = (.ok ⟨⟩, x) := by
  simp only [adopt, perform_bind, perform_get]
  unfold displaced? at hn
  split
  · rename_i parent child hp hc
    rw [hp, hc] at hn
    dsimp only at hn
    split
    · rfl
    · rename_i hcond
      rw [if_neg hcond] at hn
      split
      · rename_i parentRoot childRoot hpr hcr
        rw [hpr, hcr] at hn
        dsimp only at hn
        obtain ⟨n, hname⟩ := contains_iff.1 (h.live_root (List.mem_of_getElem? hc) hcr)
        rw [name?_of_get? hname, Option.bind_some] at hn
        have hlive := h.live_root (List.mem_of_getElem? hp) hpr
        simp only [perform_bind, get_of_get? hname, perform_lift,
          Tree.findChild_eq h.wellFormed hlive]
        cases hs : x.arena.child? parentRoot n.name with
        | none => rfl
        | some s =>
          rw [hs, Option.filter_some] at hn
          have hsc : s = childRoot := by simpa using hn
          simp only [hsc, if_true, perform_pure]
      · rfl
  · rfl

/-- The index behind an adoption. -/
def adopted (x : Index) (c : Nat) (s parentRoot childRoot : NodeId) : Index :=
  { x with
    arena := (x.arena.cutAt s).attached parentRoot childRoot
    trees := x.trees.modify c fun t => { t with isChild := true } }

section

variable {c k : Nat} {parentRoot childRoot : NodeId}

theorem getElem?_adopted (x : Index) (c : Nat) (s parentRoot childRoot : NodeId) (k : Nat) :
    (x.adopted c s parentRoot childRoot).trees[k]? =
      if c = k then (x.trees[k]?).map fun t => { t with isChild := true } else x.trees[k]? := by
  change (x.trees.modify c fun t => { t with isChild := true })[k]? = _
  rw [List.getElem?_modify]
  by_cases hk : c = k <;> simp [hk]

/-- Two trees with the same area and the same root, of which the second is a child if the first is. -/
structure SameTree (t u : Tree) : Prop where
  area : u.area = t.area
  root : u.root = t.root
  includeHidden : u.includeHidden = t.includeHidden
  isChild : t.isChild = true → u.isChild = true

theorem exists_get_adopted (ht : x.trees[k]? = some t) (c : Nat) (s parentRoot childRoot : NodeId) :
    ∃ u, (x.adopted c s parentRoot childRoot).trees[k]? = some u ∧ SameTree t u := by
  rw [getElem?_adopted, ht]
  split
  · exact ⟨_, rfl, rfl, rfl, rfl, fun _ => rfl⟩
  · exact ⟨t, rfl, rfl, rfl, rfl, id⟩

theorem exists_get_of_adopted (hu : (x.adopted c s parentRoot childRoot).trees[k]? = some u) :
    ∃ t, x.trees[k]? = some t ∧ SameTree t u := by
  rw [getElem?_adopted] at hu
  split at hu
  · obtain ⟨t, ht, rfl⟩ := Option.map_eq_some_iff.1 hu
    exact ⟨t, ht, rfl, rfl, rfl, fun _ => rfl⟩
  · exact ⟨u, hu, rfl, rfl, rfl, id⟩

theorem exists_mem_adopted (ht : t ∈ x.trees) (c : Nat) (s parentRoot childRoot : NodeId) :
    ∃ u ∈ (x.adopted c s parentRoot childRoot).trees, SameTree t u := by
  obtain ⟨k, hk⟩ := List.mem_iff_getElem?.1 ht
  obtain ⟨u, hu, h⟩ := exists_get_adopted hk c s parentRoot childRoot
  exact ⟨u, List.mem_of_getElem? hu, h⟩

theorem exists_mem_of_adopted (hu : u ∈ (x.adopted c s parentRoot childRoot).trees) :
    ∃ t ∈ x.trees, SameTree t u := by
  obtain ⟨k, hk⟩ := List.mem_iff_getElem?.1 hu
  obtain ⟨t, ht, h⟩ := exists_get_of_adopted hk
  exact ⟨t, List.mem_of_getElem? ht, h⟩

theorem roots_adopted (x : Index) (c : Nat) (s parentRoot childRoot : NodeId) :
    Tree.roots (x.adopted c s parentRoot childRoot).trees = Tree.roots x.trees := Tree.roots_modify x.trees c

theorem areas_adopted (x : Index) (c : Nat) (s parentRoot childRoot : NodeId) :
    (x.adopted c s parentRoot childRoot).trees.map (·.area) = x.trees.map (·.area) := by
  refine List.ext_getElem? fun k => ?_
  rw [List.getElem?_map, List.getElem?_map, getElem?_adopted]
  split
  · cases x.trees[k]? <;> rfl
  · rfl

end

namespace Adoption

variable {c : Nat} {p : Nat}

theorem parentRoot_mem (h : Adoption x p c parent child parentRoot childRoot s) :
    parentRoot ∈ Tree.roots x.trees :=
  Tree.mem_roots_of_root (List.mem_of_getElem? h.parent_get) h.parent_root

theorem childRoot_mem (h : Adoption x p c parent child parentRoot childRoot s) :
    childRoot ∈ Tree.roots x.trees :=
  Tree.mem_roots_of_root (List.mem_of_getElem? h.child_get) h.child_root

/-- The tree that was adopted carries the mark. -/
theorem adoptee_mem (h : Adoption x p c parent child parentRoot childRoot s) :
    { child with isChild := true } ∈ (x.adopted c s parentRoot childRoot).trees := by
  refine List.mem_iff_getElem?.2 ⟨c, ?_⟩
  rw [getElem?_adopted, if_pos rfl, h.child_get]
  rfl

theorem parent?_displaced (h : Adoption x p c parent child parentRoot childRoot s)
    (hf : Forest x.arena x.trees) : x.arena.parent? s = some parentRoot := by
  obtain ⟨name, -, hs⟩ := h.displaced
  exact hf.wellFormed.parent?_of_child? hs

theorem parent?_childRoot (h : Adoption x p c parent child parentRoot childRoot s)
    (hf : Forest x.arena x.trees) (hc : child.isChild = false) : x.arena.parent? childRoot = none := by
  cases hp : x.arena.parent? childRoot with
  | none => rfl
  | some q =>
    have := (hf.child_iff child (List.mem_of_getElem? h.child_get)).2 ⟨childRoot, q, h.child_root, hp⟩
    rw [hc] at this
    cases this

/-- Neither of the two roots is lost with the displaced node. -/
theorem survives (h : Adoption x p c parent child parentRoot childRoot s)
    (hf : Forest x.arena x.trees) (hc : child.isChild = false) :
    (x.arena.cutAt s).contains parentRoot = true ∧ (x.arena.cutAt s).contains childRoot = true ∧
      (x.arena.cutAt s).parent? childRoot = none := by
  have hcut := hf.wellFormed.cut_cutAt s
  have hp := h.parent?_displaced hf
  have hcr := h.parent?_childRoot hf hc
  have hns : ¬x.arena.Below s childRoot := fun hb => h.other (hb.eq_of_parent?_eq_none hcr)
  exact ⟨hcut.contains_iff.2 ⟨hf.live _ h.parentRoot_mem, hf.wellFormed.acyclic hp⟩,
    hcut.contains_iff.2 ⟨hf.live _ h.childRoot_mem, hns⟩, by rw [hcut.parent?_rest hns, hcr]⟩

theorem perform (h : Adoption x p c parent child parentRoot childRoot s)
    (hf : Forest x.arena x.trees) (hc : child.isChild = false) :
    x.perform (adopt p c) = (.ok ⟨⟩, x.adopted c s parentRoot childRoot) := by
  obtain ⟨hp, hcr, -⟩ := h.survives hf hc
  have hnone := h.parent?_childRoot hf hc
  obtain ⟨name, hname, hs⟩ := h.displaced
  obtain ⟨n, hn⟩ := contains_iff.1 (hf.live _ h.childRoot_mem)
  have hnn : n.name = name := by simpa [name?_of_get? hn] using hname
  have hnp : n.parent = none := by rw [← parent?_of_get? hn, hnone]
  have hcond : (parent.area.recursive || p == c || !parent.area.isParentOf child.area) = false := by
    simp [h.shallow, h.ne, h.above]
  simp only [adopt, perform_bind, perform_get, h.parent_get, h.child_get, hcond, Bool.false_eq_true,
    if_false, h.parent_root, h.child_root, get_of_get? hn, perform_lift,
    Tree.findChild_eq hf.wellFormed (hf.live _ h.parentRoot_mem), hnn, hs, if_neg h.other, hnp,
    Option.isSome_none, perform_set]
  have hattach := attach_eq hp hcr
  unfold cutAt at hattach
  rw [hattach]
  rfl

end Adoption

/-! ## Adoption after adoption -/

theorem components_of_isParentOf {a b : Area} (h : a.isParentOf b = true) :
    ∃ c, b.path.components = a.path.components ++ [c] := by
  unfold Area.isParentOf at h
  cases hq : b.path.parent? with
  | none => simp [hq] at h
  | some q =>
    rw [hq, Option.any_some, same_iff] at h
    rw [← h]
    exact Path.components_of_parent? hq

theorem isParentOf_of_components {a b : Area} {name : String}
    (h : b.path.components = a.path.components ++ [.name name]) : a.isParentOf b = true := by
  have hname : b.path.name? = some name := by rw [Path.name?, h, List.getLast?_concat]
  obtain ⟨q, hq⟩ := Option.isSome_iff_exists.1 (Path.parent?_isSome_of_name hname)
  obtain ⟨c, hc⟩ := Path.components_of_parent? hq
  rw [Area.isParentOf, hq, Option.any_some, same_iff]
  exact (List.append_inj' (hc.symm.trans h) rfl).1

theorem components_eq_of_isParentOf {a b c : Area} (ha : a.isParentOf c = true)
    (hb : b.isParentOf c = true) : a.path.components = b.path.components := by
  obtain ⟨i, hi⟩ := components_of_isParentOf ha
  obtain ⟨j, hj⟩ := components_of_isParentOf hb
  exact (List.append_inj' (hi.symm.trans hj) rfl).1

theorem Sound.index_eq (h : x.Sound) {i k : Nat} (hi : x.trees[i]? = some t) (hk : x.trees[k]? = some u)
    (he : t.area.path.components = u.area.path.components) : i = k := by
  have hd := h.apart
  unfold Apart at hd
  rw [List.map_map] at hd
  refine (List.getElem?_inj ?_ hd).1 ?_
  · simpa using (List.getElem?_eq_some_iff.1 hi).1
  · simp [hi, hk, he]

theorem Sound.eq_of_components (h : x.Sound) (ht : t ∈ x.trees) (hu : u ∈ x.trees)
    (he : t.area.path.components = u.area.path.components) : t = u := by
  obtain ⟨i, hi⟩ := List.mem_iff_getElem?.1 ht
  obtain ⟨k, hk⟩ := List.mem_iff_getElem?.1 hu
  rw [h.index_eq hi hk he, hk] at hi
  exact (Option.some.inj hi).symm

/-- An index in the middle of a merge, with the pairs of trees that are left. -/
structure Merging (x : Index) (rest : List (Nat × Nat)) : Prop where
  sound : x.Sound
  /-- A root with a parent lies directly in the area of that parent's tree. -/
  nested : ∀ t ∈ x.trees, ∀ u ∈ x.trees, ∀ r q, t.root = some r → u.root = some q →
    x.arena.parent? r = some q → u.area.isParentOf t.area = true
  /-- What is left to adopt was not adopted. -/
  fresh : ∀ p c, (p, c) ∈ rest → ∀ t u, x.trees[p]? = some t → x.trees[c]? = some u →
    t.area.isParentOf u.area = true → u.isChild = false
  nodup : rest.Nodup

namespace Merging

variable {p c : Nat}

/-- The further down a root stands, the longer is the path of its area. -/
theorem length_le (h : x.Merging rest) (hu : u ∈ x.trees) (hq : u.root = some q)
    (hb : x.arena.Below q r) : ∀ t ∈ x.trees, t.root = some r →
      u.area.path.components.length ≤ t.area.path.components.length := by
  induction hb with
  | refl =>
    intro t ht hr
    rw [h.sound.forest.eq_of_root ht hu hr hq]
  | @tail m r _ hp ih =>
    intro t ht hr
    obtain ⟨v, hv, hm⟩ := Tree.mem_roots.1
      (h.sound.forest.merged r (Tree.mem_roots_of_root ht hr) m hp)
    obtain ⟨c, hc⟩ := components_of_isParentOf (h.nested t ht v hv r m hr hm hp)
    have := ih v hv hm
    rw [hc, List.length_append, List.length_singleton]
    omega

/-- An adoption makes no cycle. -/
theorem not_below (h : x.Merging rest) (ha : Adoption x p c parent child parentRoot childRoot s) :
    ¬x.arena.Below childRoot parentRoot := by
  intro hb
  have hle := h.length_le (List.mem_of_getElem? ha.child_get) ha.child_root hb parent
    (List.mem_of_getElem? ha.parent_get) ha.parent_root
  obtain ⟨c, hc⟩ := components_of_isParentOf ha.above
  rw [hc, List.length_append, List.length_singleton] at hle
  omega

theorem tail {pc : Nat × Nat} (h : x.Merging (pc :: rest)) : x.Merging rest :=
  ⟨h.sound, h.nested, fun p c hm => h.fresh p c (List.mem_cons_of_mem _ hm),
    (List.nodup_cons.1 h.nodup).2⟩

theorem isChild_eq_false (h : x.Merging ((p, c) :: rest))
    (ha : Adoption x p c parent child parentRoot childRoot s) : child.isChild = false :=
  h.fresh p c (by simp) parent child ha.parent_get ha.child_get ha.above

end Merging

namespace Adoption

variable {p c : Nat} (h : Adoption x p c parent child parentRoot childRoot s) (hm : x.Merging ((p, c) :: rest))
include h hm

theorem linked : Linked (x.arena.cutAt s) (x.adopted c s parentRoot childRoot).arena parentRoot childRoot := by
  have hf := hm.sound.forest
  have hne : parentRoot ≠ childRoot := by
    rintro rfl
    exact hm.not_below h (.refl _ _)
  obtain ⟨hp, hcr, hnone⟩ := h.survives hf (hm.isChild_eq_false h)
  exact (hf.wellFormed.cut_cutAt s).wellFormed.linked_attached hnone hne hp hcr

theorem contains_adopted : (x.adopted c s parentRoot childRoot).arena.contains j = true ↔
    x.arena.contains j = true ∧ ¬x.arena.Below s j := by
  rw [(h.linked hm).contains]
  exact (hm.sound.wellFormed.cut_cutAt s).contains_iff

theorem parent?_adopted (hj : ¬x.arena.Below s j) : (x.adopted c s parentRoot childRoot).arena.parent? j =
    if j = childRoot then some parentRoot else x.arena.parent? j := by
  rw [(h.linked hm).parent?, (hm.sound.wellFormed.cut_cutAt s).parent?_rest hj]

theorem sound_adopted (hs : s ∉ Tree.roots x.trees) : (x.adopted c s parentRoot childRoot).Sound := by
  have hf := hm.sound.forest
  obtain ⟨hp, hcr, hnone⟩ := h.survives hf (hm.isChild_eq_false h)
  have hcut := hf.wellFormed.cut_cutAt s
  have hnb : ¬(x.arena.cutAt s).Below childRoot parentRoot := by
    rw [hcut.below_rest (hcut.not_below hp)]
    exact hm.not_below h
  refine ⟨(hf.cut_spare hcut hs).link h.child_get h.child_root hnone h.parentRoot_mem hnb (h.linked hm), ?_,
    (hm.sound.paths.cut hf.wellFormed hcut).attached hcut.wellFormed hnone hnb hp hcr⟩
  rw [areas_adopted]
  exact hm.sound.apart

/-- The root that was adopted lies directly in the area of the tree that adopted it. -/
theorem nested_adopted (hs : s ∉ Tree.roots x.trees) (ht : t ∈ (x.adopted c s parentRoot childRoot).trees)
    (hu : u ∈ (x.adopted c s parentRoot childRoot).trees) (hr : t.root = some r) (hq : u.root = some q)
    (hp : (x.adopted c s parentRoot childRoot).arena.parent? r = some q) : u.area.isParentOf t.area = true := by
  have hf := hm.sound.forest
  obtain ⟨t', ht', htt⟩ := exists_mem_of_adopted ht
  obtain ⟨u', hu', huu⟩ := exists_mem_of_adopted hu
  rw [htt.root] at hr
  rw [huu.root] at hq
  rw [htt.area, huu.area]
  have hnr : ¬x.arena.Below s r := fun hb => hf.not_root_below hs hb (Tree.mem_roots_of_root ht' hr)
  rw [h.parent?_adopted hm hnr] at hp
  split at hp
  · rename_i hrc
    obtain rfl := Option.some.inj hp
    rw [hf.eq_of_root ht' (List.mem_of_getElem? h.child_get) hr (hrc ▸ h.child_root),
      hf.eq_of_root hu' (List.mem_of_getElem? h.parent_get) hq h.parent_root]
    exact h.above
  · exact hm.nested t' ht' u' hu' r q hr hq hp

/-- What is left to adopt was not adopted: only one tree has an area directly above that of another. -/
theorem fresh_adopted {p' c' : Nat} (hmem : (p', c') ∈ rest)
    (ht : (x.adopted c s parentRoot childRoot).trees[p']? = some t)
    (hu : (x.adopted c s parentRoot childRoot).trees[c']? = some u) (habove : t.area.isParentOf u.area = true) :
    u.isChild = false := by
  obtain ⟨t', ht', htt⟩ := exists_get_of_adopted ht
  rw [htt.area] at habove
  rw [getElem?_adopted] at hu
  split at hu
  · rename_i hcc
    subst hcc
    rw [h.child_get, Option.map_some, Option.some.injEq] at hu
    subst hu
    obtain rfl := hm.sound.index_eq ht' h.parent_get (components_eq_of_isParentOf habove h.above)
    exact absurd hmem (List.nodup_cons.1 hm.nodup).1
  · exact hm.fresh p' c' (List.mem_cons_of_mem _ hmem) t' u ht' hu habove

end Adoption

theorem Merging.adopted {p c : Nat} (h : x.Merging ((p, c) :: rest))
    (ha : Adoption x p c parent child parentRoot childRoot s) (hs : s ∉ Tree.roots x.trees) :
    (x.adopted c s parentRoot childRoot).Merging rest where
  sound := ha.sound_adopted h hs
  nested _ ht _ hu _ _ hr hq hp := ha.nested_adopted h hs ht hu hr hq hp
  fresh _ _ hmem _ _ ht hu habove := ha.fresh_adopted h hmem ht hu habove
  nodup := (List.nodup_cons.1 h.nodup).2

/-! ## All adoptions -/

/-- Whether an adoption takes the slot of no tree's root. -/
def AdoptionSpares (x : Index) (p c : Nat) : Prop := ∀ s, x.displaced? p c = some s → s ∉ Tree.roots x.trees

/-- Whether no adoption of a merge takes the slot of a tree's root. -/
def MergeSpares (x : Index) : List (Nat × Nat) → Prop
  | [] => True
  | (p, c) :: rest => AdoptionSpares x p c ∧ MergeSpares (x.perform (adopt p c)).2 rest

theorem perform_adopt {p c : Nat} (h : x.Merging ((p, c) :: rest)) (hs : AdoptionSpares x p c) :
    ∃ y, x.perform (adopt p c) = (.ok ⟨⟩, y) ∧ y.Merging rest ∧ y.feed = x.feed := by
  cases hd : x.displaced? p c with
  | none => exact ⟨x, perform_adopt_idle h.sound.forest hd, h.tail, rfl⟩
  | some s =>
    obtain ⟨parent, child, parentRoot, childRoot, ha⟩ := adoption_of_displaced? hd
    exact ⟨x.adopted c s parentRoot childRoot, ha.perform h.sound.forest (h.isChild_eq_false ha),
      h.adopted ha (hs s hd), rfl⟩

/-- Where no adoption takes a root's slot, all of them are done. -/
theorem perform_adoptAll (h : x.Merging rest) (hs : MergeSpares x rest) :
    ∃ y, x.perform (adoptAll rest) = (.ok ⟨⟩, y) ∧ y.Sound ∧ y.feed = x.feed := by
  induction rest generalizing x with
  | nil => exact ⟨x, rfl, h.sound, rfl⟩
  | cons pc rest ih =>
    obtain ⟨p, c⟩ := pc
    obtain ⟨hs, hrest⟩ := hs
    obtain ⟨y, hy, hm, hf⟩ := perform_adopt h hs
    rw [hy] at hrest
    obtain ⟨z, hz, hsound, hf'⟩ := ih hm hrest
    exact ⟨z, by rw [adoptAll, perform_bind_ok hy, hz], hsound, hf'.trans hf⟩

/-! ## A root whose slot was taken -/

/-- What a loss leaves: the slot is empty, its tree still counts on it, and every fault is one of handles. -/
structure Lost (s : NodeId) (r : Except Fault α × Index) : Prop where
  gone : r.2.arena.get? s = none
  root : s ∈ Tree.roots r.2.trees
  stale : ∀ fault, r.1 = .error fault → fault.stale = true

/-- No later adoption makes good for a root that was lost. -/
theorem lost_adopt (p c : Nat) (hs : x.arena.get? s = none) (hr : s ∈ Tree.roots x.trees) :
    Lost s (x.perform (adopt p c)) := by
  have hstay : Lost s ((.ok ⟨⟩, x) : Except Fault Unit × Index) := ⟨hs, hr, nofun⟩
  simp only [adopt, perform_bind, perform_get]
  split
  · rename_i parent child _ _
    split
    · exact hstay
    · split
      · rename_i parentRoot childRoot _ _
        simp only [perform_bind, perform_lift]
        cases hg : x.arena.get childRoot with
        | error fault => exact ⟨hs, hr, fun _ he => by cases he; exact stale_get hg⟩
        | ok node =>
          dsimp only
          cases hf : Tree.findChild x.arena parentRoot node.name with
          | error fault => exact ⟨hs, hr, fun _ he => by cases he; exact stale_findChild hf⟩
          | ok found =>
            cases found with
            | none => exact hstay
            | some shallow =>
              dsimp only
              split
              · exact hstay
              · split
                · exact ⟨hs, hr, fun _ he => by cases he; rfl⟩
                · have hcut : (x.arena.cutAt shallow).get? s = none :=
                    get?_releaseAll_of_get?_eq_none _ _ (get?_detach_eq_none shallow hs)
                  simp only [perform_bind, perform_set, perform_lift]
                  cases ha : (x.arena.cutAt shallow).attach parentRoot childRoot with
                  | error fault =>
                    unfold cutAt at ha
                    rw [ha]
                    exact ⟨hcut, hr, fun _ he => by cases he; exact stale_attach ha⟩
                  | ok b =>
                    unfold cutAt at ha
                    rw [ha]
                    exact ⟨get?_attach_eq_none ha hcut, (Tree.roots_modify x.trees c).symm ▸ hr, nofun⟩
      · exact hstay
  · exact hstay

theorem lost_adoptAll (rest : List (Nat × Nat)) (hs : x.arena.get? s = none)
    (hr : s ∈ Tree.roots x.trees) : Lost s (x.perform (adoptAll rest)) := by
  induction rest generalizing x with
  | nil => exact ⟨hs, hr, nofun⟩
  | cons pc rest ih =>
    obtain ⟨p, c⟩ := pc
    have hl := lost_adopt p c hs hr
    rw [adoptAll, perform_bind]
    generalize x.perform (adopt p c) = r at hl ⊢
    obtain ⟨r | fault, y⟩ := r
    · exact hl
    · exact ih hl.gone hl.root

/-- Where an adoption takes a root's slot, the merge ends with a lost root. -/
theorem exists_lost_adoptAll (h : x.Merging rest) (hs : ¬MergeSpares x rest) :
    ∃ s, Lost s (x.perform (adoptAll rest)) := by
  induction rest generalizing x with
  | nil => exact absurd trivial hs
  | cons pc rest ih =>
    obtain ⟨p, c⟩ := pc
    by_cases hsp : AdoptionSpares x p c
    · obtain ⟨y, hy, hm, -⟩ := perform_adopt h hsp
      obtain ⟨s, hl⟩ := ih hm fun hrest => hs ⟨hsp, by rwa [hy]⟩
      exact ⟨s, by rwa [adoptAll, perform_bind_ok hy]⟩
    · unfold AdoptionSpares at hsp
      push Not at hsp
      obtain ⟨s, hd, hr⟩ := hsp
      obtain ⟨parent, child, parentRoot, childRoot, ha⟩ := adoption_of_displaced? hd
      have hf := h.sound.forest
      have hc := h.isChild_eq_false ha
      have hgone : (x.arena.cutAt s).get? s = none :=
        get?_eq_none.2 fun hl => ((hf.wellFormed.cut_cutAt s).contains_iff.1 hl).2 (.refl _ s)
      obtain ⟨hp, hcr, -⟩ := ha.survives hf hc
      refine ⟨s, ?_⟩
      rw [adoptAll, perform_bind_ok (ha.perform hf hc)]
      refine lost_adoptAll rest ?_ ((Tree.roots_modify x.trees c).symm ▸ hr)
      exact get?_attach_eq_none (attach_eq hp hcr) hgone

/-! ## A merge from the start -/

theorem nodup_pairs (n : Nat) : (pairs n).Nodup := List.nodup_range.product List.nodup_range

theorem Gathering.merging (h : x.Gathering) : x.Merging (pairs x.trees.length) where
  sound := h.sound
  nested t ht u _ r q hr _ hp := by
    rw [((h.flat.mem_iff r).1 (Tree.mem_roots_of_root ht hr)).2] at hp
    cases hp
  fresh p c _ t u _ hu _ := h.noChild u (List.mem_of_getElem? hu)
  nodup := nodup_pairs _

theorem perform_merge (x : Index) : x.perform merge = x.perform (adoptAll (pairs x.trees.length)) := rfl

end Index

end FileIndex
