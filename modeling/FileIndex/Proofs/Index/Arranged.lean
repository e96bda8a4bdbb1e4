/-
The order of the entries behind a merge. What gives way to which tree shows already where the merge starts; behind the
merge the root directory of a tree holds the entries that have not given way, in the order of the walk, and then the
roots that were adopted, in the order in which the pairs were gone through (`Arranged`).
-/
import FileIndex.Proofs.Index.Adopting
import FileIndex.Proofs.Tree.Anchors

namespace FileIndex.Index

open Arena

variable {d : Disk} {x y : Index} {rest done : List (Nat × Nat)} {t u parent child : Tree} {p c : Nat}
  {parentRoot childRoot s j r : NodeId}

/-! ## What gives way -/

theorem mem_pairs {n : Nat} : (p, c) ∈ pairs n ↔ p < n ∧ c < n := by simp [pairs]

/-- Where no tree has adopted another one, the node that gives way is the one in the place of the second tree. -/
theorem Ready.displaced?_eq_some (hy : Ready d y) : y.displaced? p c = some s ↔
    ∃ u t, y.trees[p]? = some u ∧ y.trees[c]? = some t ∧ t.root.isSome = true ∧ Displaced y u t s := by
  by_cases hpc : (p, c) ∈ pairs y.trees.length
  · rw [(Adopting.start hy).displaced?_eq_some hy hpc]
    constructor
    · rintro ⟨u, t, hu, ht, hroot, -, hdis⟩
      exact ⟨u, t, hu, ht, hroot, hdis⟩
    · rintro ⟨u, t, hu, ht, hroot, hdis⟩
      obtain ⟨r, -, hp⟩ := hdis.parent
      exact ⟨u, t, hu, ht, hroot, contains_of_parent? hp, hdis⟩
  · have hnot : ∀ u t, y.trees[p]? = some u → ¬y.trees[c]? = some t := fun u t hu ht =>
      hpc (mem_pairs.2 ⟨(List.getElem?_eq_some_iff.1 hu).1, (List.getElem?_eq_some_iff.1 ht).1⟩)
    constructor
    · intro h
      obtain ⟨u, t, _, _, ha⟩ := adoption_of_displaced? h
      exact absurd ha.child_get (hnot u t ha.parent_get)
    · rintro ⟨u, t, hu, ht, -⟩
      exact absurd ht (hnot u t hu)

/-- Earlier adoptions change nothing about what gives way in a later one. -/
theorem Adopting.displaced?_eq (hx : Adopting d y x rest) (hy : Ready d y) (hpc : (p, c) ∈ rest) :
    x.displaced? p c = y.displaced? p c := by
  refine Option.ext fun s => ?_
  rw [hx.displaced?_eq_some hy hpc, hy.displaced?_eq_some]
  constructor
  · rintro ⟨u, t, hu, ht, hroot, -, hdis⟩
    obtain ⟨v, hv, hvu⟩ := hx.get_tree p u hu
    obtain ⟨w, hw, hwt⟩ := hx.get_tree c t ht
    exact ⟨v, w, hv, hw, hwt.root ▸ hroot, hdis.congr hvu.area.symm hvu.root.symm hwt.area.symm⟩
  · rintro ⟨v, w, hv, hw, hroot, hdis⟩
    obtain ⟨u, hu, hvu⟩ := hx.of_get_tree p v hv
    obtain ⟨t, ht, hwt⟩ := hx.of_get_tree c w hw
    have hdis' := hdis.congr hvu.area hvu.root hwt.area
    refine ⟨u, t, hu, ht, hwt.root ▸ hroot, ?_, hdis'⟩
    -- Had it gone, the second tree would have been adopted.
    by_contra hgone
    obtain ⟨q, -, hp⟩ := hdis.parent
    obtain ⟨t', ht', u', hu', hchild, h⟩ := hx.lost s (contains_of_parent? hp) hgone
    obtain rfl := hx.eq_of_displaced hy (List.mem_of_getElem? ht) (List.mem_of_getElem? hu) ht' hu' hdis' h
    rw [hx.fresh p c hpc u t' hu ht hdis'.above] at hchild
    cases hchild

/-- The tree that a node stands in the place of has taken that place. -/
theorem Adopting.child_of_displaced (hx : Adopting d y x []) (hy : Ready d y) (hu : u ∈ x.trees) (ht : t ∈ x.trees)
    (hroot : t.root.isSome = true) (hj : y.arena.contains j = true) (hdis : Displaced y u t j) :
    t.isChild = true ∧ ¬x.arena.contains j = true := by
  obtain ⟨k, hk⟩ := List.mem_iff_getElem?.1 hu
  obtain ⟨l, hl⟩ := List.mem_iff_getElem?.1 ht
  have hgone : ¬x.arena.contains j = true := fun hlive =>
    hx.done k l u t hk hl (by simp) hroot j hlive hdis
  refine ⟨?_, hgone⟩
  obtain ⟨t', ht', u', hu', hchild, hdis'⟩ := hx.lost j hj hgone
  exact hx.eq_of_displaced hy ht hu ht' hu' hdis hdis' ▸ hchild

/-- Behind a merge a tree counts as a child if a node gave way to it. -/
theorem Adopting.isChild_iff (hx : Adopting d y x []) (hy : Ready d y) (ht : x.trees[c]? = some t) :
    t.isChild = true ↔ ∃ k, (y.displaced? k c).isSome = true := by
  have htm := List.mem_of_getElem? ht
  constructor
  · intro hchild
    obtain ⟨r, q, hr, -⟩ := (hx.sound.forest.child_iff t htm).1 hchild
    obtain ⟨u, hu, j, hdis⟩ := hx.taken t htm hchild
    obtain ⟨k, hk⟩ := List.mem_iff_getElem?.1 hu
    obtain ⟨v, hv, hvu⟩ := hx.get_tree k u hk
    obtain ⟨w, hw, hwt⟩ := hx.get_tree c t ht
    refine ⟨k, Option.isSome_iff_exists.2 ⟨j, hy.displaced?_eq_some.2 ⟨v, w, hv, hw, ?_,
      hdis.congr hvu.area.symm hvu.root.symm hwt.area.symm⟩⟩⟩
    rw [← hwt.root, hr]
    rfl
  · rintro ⟨k, hd⟩
    obtain ⟨j, hj⟩ := Option.isSome_iff_exists.1 hd
    obtain ⟨v, w, hv, hw, hroot, hdis⟩ := hy.displaced?_eq_some.1 hj
    obtain ⟨u, hu, hvu⟩ := hx.of_get_tree k v hv
    obtain ⟨t', ht', hwt⟩ := hx.of_get_tree c w hw
    obtain rfl := Option.some.inj (ht.symm.trans ht')
    obtain ⟨q, -, hp⟩ := hdis.parent
    exact (hx.child_of_displaced hy (List.mem_of_getElem? hu) htm (hwt.root ▸ hroot) (contains_of_parent? hp)
      (hdis.congr hvu.area hvu.root hwt.area)).1

/-- Adopted or not, roots are anchored. -/
theorem Adopting.anchored (hx : Adopting d y x rest) (hy : Ready d y) (ht : t ∈ x.trees) : t.Anchored x.arena := by
  intro r hr hlive
  obtain ⟨v, hv, hvt⟩ := hx.exists_ready ht
  obtain ⟨n, hn⟩ := contains_iff.1 hlive
  obtain ⟨m, hm, -, -, hanchor⟩ := hx.get? r n hn
  rw [anchor?_of_get? hn, hanchor, (hy.stands v hv).anchored r m (hvt.root ▸ hr) hm, hvt.area]

/-- The path of a root that was not adopted. -/
theorem Adopting.workedPath?_root (hx : Adopting d y x rest) (hy : Ready d y) (ht : t ∈ x.trees)
    (hr : t.root = some r) (hp : x.arena.parent? r = none) :
    x.arena.workedPath? r = some ((t.area.path.parent?.getD ⟨""⟩).child t.area.path.entryName) := by
  have hlive := hx.sound.contains_root ht r hr
  obtain ⟨n, hn⟩ := contains_iff.1 hlive
  have hentry := hx.name?_root hy ht hr
  rw [name?_of_get? hn, Option.some.injEq] at hentry
  rw [workedPath?_top hn (parent?_of_get? hn ▸ hp), hentry, ← anchor?_of_get? hn, hx.anchored hy ht r hr hlive]

/-! ## The order of entries -/

/-- Whether a node gives way in one of some adoptions. -/
def givesWay (y : Index) (done : List (Nat × Nat)) (j : NodeId) : Bool :=
  done.any fun q => y.displaced? q.1 q.2 == some j

/-- The roots that a tree adopts when some pairs are gone through. -/
def adoptees (y : Index) (p : Nat) (done : List (Nat × Nat)) : List NodeId :=
  done.filterMap fun q =>
    if q.1 = p ∧ (y.displaced? q.1 q.2).isSome then (y.trees[q.2]?).bind (·.root) else none

/-- Whether root directories hold what has not given way, and then what was adopted. -/
def Arranged (y x : Index) (done : List (Nat × Nat)) : Prop :=
  ∀ p u r, y.trees[p]? = some u → u.root = some r →
    x.arena.children r = ((y.arena.children r).filter fun j => !y.givesWay done j) ++ y.adoptees p done

theorem mem_roots_of_mem_adoptees (h : j ∈ y.adoptees p done) : j ∈ Tree.roots y.trees := by
  obtain ⟨q, -, hq⟩ := List.mem_filterMap.1 h
  split at hq
  · obtain ⟨t, ht, hr⟩ := Option.bind_eq_some_iff.1 hq
    exact Tree.mem_roots_of_root (List.mem_of_getElem? ht) hr
  · cases hq

theorem adoptees_concat (y : Index) (p : Nat) (done : List (Nat × Nat)) (q : Nat × Nat) :
    y.adoptees p (done ++ [q]) = y.adoptees p done ++
      (if q.1 = p ∧ (y.displaced? q.1 q.2).isSome then (y.trees[q.2]?).bind (·.root) else none).toList := by
  rw [adoptees, List.filterMap_append, ← adoptees]
  cases h : (if q.1 = p ∧ (y.displaced? q.1 q.2).isSome then (y.trees[q.2]?).bind (·.root) else none) <;>
    simp [h]

theorem givesWay_concat (y : Index) (done : List (Nat × Nat)) (q : Nat × Nat) (j : NodeId) :
    y.givesWay (done ++ [q]) j = (y.givesWay done j || y.displaced? q.1 q.2 == some j) := by
  simp [givesWay]

theorem Arranged.start (y : Index) : Arranged y y [] := by
  intro p u r _ _
  simp [givesWay, adoptees]

theorem Arranged.idle (h : Arranged y x done) (hd : y.displaced? p c = none) : Arranged y x (done ++ [(p, c)]) := by
  intro k u r hu hr
  rw [h k u r hu hr, adoptees_concat]
  simp [givesWay_concat, hd]

theorem Arranged.adopted (h : Arranged y x done) (hx : Adopting d y x ((p, c) :: rest)) (hy : Ready d y)
    (ha : Adoption x p c parent child parentRoot childRoot s) (hd : y.displaced? p c = some s) :
    Arranged y (x.adopted c s parentRoot childRoot) (done ++ [(p, c)]) := by
  have hf := hx.sound.forest
  have hs : s ∉ Tree.roots y.trees := by
    obtain ⟨u, t, -, -, -, hdis⟩ := hy.displaced?_eq_some.1 hd
    exact hy.not_root_of_displaced hdis
  intro k u r hu hr
  have hroot : r ∈ Tree.roots y.trees := Tree.mem_roots_of_root (List.mem_of_getElem? hu) hr
  have hns : ¬x.arena.Below s r := fun hb => hf.not_root_below (hx.roots ▸ hs) hb (hx.roots ▸ hroot)
  -- The node that gives way is taken out of what was there, since it is none of the adopted roots.
  have herase : (x.arena.children r).erase s =
      ((y.arena.children r).filter fun j => !y.givesWay (done ++ [(p, c)]) j) ++ y.adoptees k done := by
    have hfilter : ((y.arena.children r).filter fun j => !y.givesWay done j).erase s =
        (y.arena.children r).filter fun j => !y.givesWay (done ++ [(p, c)]) j := by
      rw [((hy.wellFormed.children_nodup r).filter _).erase_eq_filter, List.filter_filter]
      refine List.filter_congr fun j _ => ?_
      rw [givesWay_concat, hd, Bool.not_or, Bool.and_comm]
      congr 1
      rw [bne, BEq.comm]
      rfl
    rw [h k u r hu hr, List.erase_append, hfilter]
    split
    · rfl
    · rename_i hmem
      rw [← hfilter, List.erase_of_not_mem hmem, List.erase_of_not_mem fun hm => hs (mem_roots_of_mem_adoptees hm)]
  rw [ha.children_adopted hx.toMerging hns, herase, adoptees_concat]
  obtain ⟨v, hv, hvp⟩ := hx.get_tree p parent ha.parent_get
  obtain ⟨w, hw, hwc⟩ := hx.get_tree c child ha.child_get
  by_cases hrp : r = parentRoot
  · have hk : k = p := by
      refine hy.gathering.sound.index_eq hu hv (congrArg (fun t : Tree => t.area.path.components) ?_)
      exact hy.gathering.sound.forest.eq_of_root (List.mem_of_getElem? hu) (List.mem_of_getElem? hv) hr
        (hvp.root ▸ hrp ▸ ha.parent_root)
    rw [if_pos hrp, if_pos ⟨hk.symm, by rw [hd]; rfl⟩, hw, Option.bind_some, ← hwc.root, ha.child_root]
    simp
  · have hk : p ≠ k := by
      rintro rfl
      rw [hu, Option.some.injEq] at hv
      exact hrp (Option.some.inj (hr.symm.trans (hv ▸ hvp.root ▸ ha.parent_root)))
    rw [if_neg hrp, if_neg fun hand => hk hand.1]
    simp

/-! ## All adoptions -/

/-- A merge of trees that are ready ends well. -/
theorem Adopting.perform_adoptAll (hy : Ready d y) (hx : Adopting d y x rest) (h : Arranged y x done) :
    ∃ z, x.perform (adoptAll rest) = (.ok ⟨⟩, z) ∧ Adopting d y z [] ∧ Arranged y z (done ++ rest) := by
  induction rest generalizing x done with
  | nil => exact ⟨x, rfl, hx, by simpa using h⟩
  | cons pc rest ih =>
    obtain ⟨p, c⟩ := pc
    have hsame : x.displaced? p c = y.displaced? p c := hx.displaced?_eq hy (by simp)
    rw [adoptAll, List.append_cons]
    cases hd : x.displaced? p c with
    | none =>
      rw [perform_bind_ok (perform_adopt_idle hx.sound.forest hd)]
      exact ih (hx.idle hy hd) (h.idle (hsame ▸ hd))
    | some s =>
      obtain ⟨parent, child, parentRoot, childRoot, ha⟩ := adoption_of_displaced? hd
      rw [perform_bind_ok (ha.perform hx.sound.forest (hx.isChild_eq_false ha))]
      exact ih (hx.adopted hy ha (hx.spares hy s hd)) (h.adopted hx hy ha (hsame ▸ hd))

/-- An index behind a merge, with the one that the merge started from. -/
structure Merged (d : Disk) (y x : Index) : Prop extends Adopting d y x [] where
  arranged : Arranged y x (pairs y.trees.length)

theorem Ready.perform_merge (hy : Ready d y) : ∃ z, y.perform merge = (.ok ⟨⟩, z) ∧ Merged d y z := by
  rw [Index.perform_merge]
  obtain ⟨z, hz, hx, ha⟩ := (Adopting.start hy).perform_adoptAll hy (.start y)
  exact ⟨z, hz, hx, ha⟩

end FileIndex.Index
