/-
Areas that overlap, and entries that would be found twice. In an orderly index two nodes share a place only if the one is
a root and the other an entry that the tree of that root belongs in (`Doubled`), so that the entries have paths of their
own but for such pairs and for what has gone astray (`Orderly.distinctEntries_iff`).

What keeps the entries of overlapping areas apart. A collect that is completed lets every tree take the place of the
entry that it belongs in, so that nothing is doubled behind it; what is reported between two collects is put into every
tree that it is reported for.
-/
import FileIndex.Proofs.Index.Level
import FileIndex.Proofs.Index.Releasing

namespace FileIndex

open Arena

namespace Index

variable {x : Index} {t u : Tree} {i j r s : NodeId} {cs ds : List Path.Component}

/-- Whether a search finds every entry once: the entries have numbers and paths of their own. -/
def DistinctEntries (x : Index) : Prop := ∃ ids, x.entries = .ok ids ∧ ids.Nodup ∧
  (ids.map fun id => (x.arena.path? id).1.map Path.components).Nodup

/-- Whether a root stands on its own though a shallow tree has an entry in the place of its tree. -/
structure Doubled (x : Index) (t u : Tree) (i j : NodeId) : Prop where
  root : t.root = some i
  top : x.arena.parent? i = none
  shallow : u.area.recursive = false
  above : ∃ name, t.area.path.components = u.area.path.components ++ [.name name] ∧ x.arena.name? j = some name
  parent : ∃ r, u.root = some r ∧ x.arena.parent? j = some r
  entry : j ∉ Tree.roots x.trees

/-- Whether no root shares its place with an entry, both where they belong. -/
def Single (x : Index) : Prop := ∀ t ∈ x.trees, ∀ u ∈ x.trees, ∀ i j, x.arena.Searchable i → x.arena.Searchable j →
  ¬x.Astray i → ¬x.Astray j → ¬x.Doubled t u i j

/-- Whether the entries that have gone astray have paths of their own. -/
def StraysApart (x : Index) : Prop := ∀ i j, x.arena.Searchable i → x.arena.Searchable j → i ≠ j → x.Astray i →
  (x.arena.workedPath? i).map Path.components ≠ (x.arena.workedPath? j).map Path.components

/-! ## Places -/

/-- A place names the tree and the way down from its root, which is a short one in a shallow tree. -/
theorem Orderly.exists_descend? (h : x.Orderly) (hp : x.PlacedAt j cs) : ∃ t ∈ x.trees, ∃ r names,
    t.root = some r ∧ x.arena.descend? r names = some j ∧ cs = t.area.path.components ++ names.map .name ∧
      (names ≠ [] → j ∉ Tree.roots x.trees) ∧ (t.area.recursive = false → names.length ≤ 1) := by
  induction hp with
  | @atRoot t r ht hr => exact ⟨t, ht, r, [], hr, rfl, by simp, by simp, by simp⟩
  | @inside j p name cs hno hpar hname _ ih =>
    obtain ⟨t, ht, r, names, hr, hp, rfl, hroot, hlength⟩ := ih
    refine ⟨t, ht, r, names ++ [name], hr, ?_, by simp, fun _ => hno, fun hrec => ?_⟩
    · rw [descend?_concat, hp]
      exact (child?_eq_some (h.distinct p)).2 ⟨h.sound.wellFormed.mem_children.2 hpar, hname⟩
    · -- Below an entry of a shallow root there would be nothing.
      match names, hlength hrec with
      | [], _ => simp
      | [first], _ =>
        have hchild : x.arena.child? r first = some p := by simpa [descend?] using hp
        have hfirst := h.sound.wellFormed.parent?_of_child? hchild
        exact absurd (h.shallow t ht hrec r p j hr hfirst hpar) (hroot (by simp))

theorem eq_or_doubled_of_length {names more : List String} (h : x.Orderly) (ht : t ∈ x.trees) (hu : u ∈ x.trees)
    (hr : t.root = some r) (hs : u.root = some s) (hi : x.arena.descend? r names = some i)
    (hj : x.arena.descend? s more = some j) (hj' : more ≠ [] → j ∉ Tree.roots x.trees)
    (hshort : u.area.recursive = false → more.length ≤ 1)
    (his : ¬x.Astray i)
    (he : t.area.path.components ++ names.map .name = u.area.path.components ++ more.map .name)
    (hle : names.length ≤ more.length) : i = j ∨ x.Doubled t u i j := by
  have ha := h.sound.wellFormed
  obtain ⟨l, hl⟩ : u.area.path.components <+: t.area.path.components := by
    refine List.prefix_of_prefix_length_le ⟨_, he.symm⟩ ⟨_, rfl⟩ ?_
    have := congrArg List.length he
    simp only [List.length_append, List.length_map] at this
    omega
  rw [← hl, List.append_assoc, List.append_cancel_left_eq] at he
  rcases List.eq_nil_or_concat l with rfl | ⟨l, last, rfl⟩
  · -- In one tree names lead to one node.
    obtain rfl := h.sound.eq_of_components hu ht (by simpa using hl)
    obtain rfl := Option.some.inj (hr.symm.trans hs)
    obtain rfl : names = more := List.map_injective_iff.2 (fun _ _ => Path.Component.name.inj) he
    exact .inl (Option.some.inj (hi.symm.trans hj))
  · have hshallow : u.area.recursive = false := by
      by_contra hrec
      have hsame := h.uncovered u hu t ht (by simpa using hrec) ⟨_, hl⟩
      simp [← hl] at hsame
    have hone := hshort hshallow
    have hlength := congrArg List.length he
    simp only [List.concat_eq_append, List.length_append, List.length_map, List.length_singleton] at hlength
    obtain rfl : names = [] := List.eq_nil_of_length_eq_zero (by omega)
    obtain rfl : l = [] := List.eq_nil_of_length_eq_zero (by omega)
    obtain ⟨name, rfl⟩ := List.length_eq_one_iff.1 (show more.length = 1 by simpa using hlength.symm)
    obtain rfl : last = .name name := by simpa using he
    obtain rfl : r = i := Option.some.inj hi
    have hcomponents : t.area.path.components = u.area.path.components ++ [.name name] := hl.symm
    have hchild : x.arena.child? s name = some j := by simpa [descend?] using hj
    cases hpar : x.arena.parent? r with
    | none =>
      exact .inr ⟨hr, hpar, hshallow, ⟨name, hcomponents, name?_of_child? hchild⟩,
        ⟨s, hs, ha.parent?_of_child? hchild⟩, hj' (by simp)⟩
    | some q =>
      -- A root with a parent stands in the tree above its own, where it is the only one of its name.
      obtain ⟨v, hv, hq⟩ := Tree.mem_roots.1 (h.sound.forest.merged r (Tree.mem_roots_of_root ht hr) q hpar)
      have habove := components_eq_of_isParentOf (h.nested t ht v hv r q hr hq hpar)
        (isParentOf_of_components hcomponents)
      obtain rfl := h.sound.eq_of_components hv hu habove
      obtain rfl := Option.some.inj (hs.symm.trans hq)
      refine .inl (h.distinct.eq_of_name? ha hpar (ha.parent?_of_child? hchild) ?_)
      rw [name?_of_not_astray h.sound ht hr his, name?_of_child? hchild, Path.entryName_of_components hcomponents]

/-- **Two nodes share a place only if one of them is a root and the other one an entry in the place of its tree.** -/
theorem Orderly.eq_or_doubled (h : x.Orderly) (hi : x.PlacedAt i cs) (hj : x.PlacedAt j cs) (his : ¬x.Astray i)
    (hjs : ¬x.Astray j) : i = j ∨ ∃ t ∈ x.trees, ∃ u ∈ x.trees, x.Doubled t u i j ∨ x.Doubled t u j i := by
  obtain ⟨t, ht, r, names, hr, hid, hics, hir, hil⟩ := h.exists_descend? hi
  obtain ⟨u, hu, s, more, hs, hjd, hjcs, hjr, hjl⟩ := h.exists_descend? hj
  rcases Nat.le_total names.length more.length with hle | hle
  · rcases eq_or_doubled_of_length h ht hu hr hs hid hjd hjr hjl his (hics.symm.trans hjcs) hle with he | hd
    · exact .inl he
    · exact .inr ⟨t, ht, u, hu, .inl hd⟩
  · rcases eq_or_doubled_of_length h hu ht hs hr hjd hid hir hil hjs (hjcs.symm.trans hics) hle with he | hd
    · exact .inl he.symm
    · exact .inr ⟨u, hu, t, ht, .inr hd⟩

/-- What is doubled shares a place. -/
theorem Doubled.place_eq (hd : x.Doubled t u i j) (h : x.Sound) (ht : t ∈ x.trees) (hu : u ∈ x.trees)
    (hi : x.PlacedAt i cs) (hj : x.PlacedAt j ds) : cs = ds := by
  obtain ⟨name, hcomponents, hname⟩ := hd.above
  obtain ⟨r, hr, hpar⟩ := hd.parent
  rw [hi.unique h (.atRoot ht hd.root), hj.unique h (.inside hd.entry hpar hname (.atRoot hu hr)), hcomponents]

theorem Sound.distinctEntries_iff_inj (h : x.Sound) : x.DistinctEntries ↔
    ∀ i j, x.arena.Searchable i → x.arena.Searchable j →
      (x.arena.workedPath? i).map Path.components = (x.arena.workedPath? j).map Path.components → i = j := by
  unfold DistinctEntries
  simp only [h.entries_eq, Except.ok.injEq, exists_eq_left', h.nodup_entryIds, true_and, h.paths.path?_fst,
    List.nodup_map_iff_inj_on h.nodup_entryIds, h.mem_entryIds]
  exact ⟨fun hall i j hi hj => hall i hi j hj, fun hall i hi j hj => hall i j hi hj⟩

/-- **The entries of an orderly index are told apart by their paths**, but for those that are doubled and for strays. -/
theorem Orderly.distinctEntries_iff (h : x.Orderly) : x.DistinctEntries ↔ x.Single ∧ x.StraysApart := by
  have hx := h.sound
  rw [hx.distinctEntries_iff_inj]
  constructor
  · intro hall
    refine ⟨fun t ht u hu i j hi hj his hjs hd => ?_, fun i j hi hj hne _ he => hne (hall i j hi hj he)⟩
    obtain ⟨p, hp, hip⟩ := exists_placedAt h.sound h.nested h.anchored hi.live his
    obtain ⟨q, hq, hjq⟩ := exists_placedAt h.sound h.nested h.anchored hj.live hjs
    have hsame := hall i j hi hj (by rw [hp, hq, Option.map_some, Option.map_some, hd.place_eq hx ht hu hip hjq])
    exact hd.entry (hsame ▸ Tree.mem_roots_of_root ht hd.root)
  · rintro ⟨hsingle, hstrays⟩ i j hi hj he
    by_contra hne
    by_cases his : x.Astray i
    · exact hstrays i j hi hj hne his he
    · by_cases hjs : x.Astray j
      · exact hstrays j i hj hi (Ne.symm hne) hjs he.symm
      · obtain ⟨p, hp, hip⟩ := exists_placedAt h.sound h.nested h.anchored hi.live his
        obtain ⟨q, hq, hjq⟩ := exists_placedAt h.sound h.nested h.anchored hj.live hjs
        rw [hp, hq, Option.map_some, Option.map_some, Option.some.injEq] at he
        obtain ⟨t, ht, u, hu, hd | hd⟩ := (h.eq_or_doubled hip (he ▸ hjq) his hjs).resolve_left hne
        · exact hsingle t ht u hu i j hi hj his hjs hd
        · exact hsingle t ht u hu j i hj hi hjs his hd

end Index

/-- Whether an effect makes nodes, gives one another name, or turns a file into a directory or a directory into a file. -/
def Effect.Stirs (x : Index) : Effect → Prop
  | .grow _ _ _ _ | .rename _ _ _ _ => True
  | .update id f => ∃ n, x.arena.get? id = some n ∧ (f n).isDirectory ≠ n.isDirectory
  | .idle | .refuse | .cut _ _ => False

namespace Index

variable {x y m z : Index} {d : Disk} {o : Operation} {e : Effect} {areas : List Area} {c : Cancellation} {rest : List (Nat × Nat)}
  {s : NodeId} {p k n : Nat}

/-! ## Collects -/

/-- What gives way to a tree is found. -/
theorem Adoption.displaced?_eq_some {parent child : Tree} {parentRoot childRoot : NodeId}
    (h : Adoption x p k parent child parentRoot childRoot s) : x.displaced? p k = some s := by
  obtain ⟨name, hname, hs⟩ := h.displaced
  have hcond : (parent.area.recursive || p == k || !parent.area.isParentOf child.area) = false := by
    simp [h.shallow, h.ne, h.above]
  simp only [displaced?, h.parent_get, h.child_get, hcond, Bool.false_eq_true, if_false, h.parent_root, h.child_root,
    hname, Option.bind_some, hs, Option.filter_some, h.other, ne_eq, not_false_eq_true, decide_true, if_true]

/-- What gives way behind an adoption gave way before it as well, or it is the root that was adopted, which stands where
another entry gave way. -/
theorem Adoption.of_adopted {parent child parent' child' : Tree} {parentRoot childRoot parentRoot' childRoot' s' : NodeId}
    {p' k' : Nat} (h : Adoption x p k parent child parentRoot childRoot s) (hm : x.Merging ((p, k) :: rest))
    (hs : s ∉ Tree.roots x.trees) (hx : x.Orderly)
    (h' : Adoption (x.adopted k s parentRoot childRoot) p' k' parent' child' parentRoot' childRoot' s') :
    ∃ u t, Adoption x p' k' u t parentRoot' childRoot' s ∧ s' = childRoot ∨
      Adoption x p' k' u t parentRoot' childRoot' s' ∧ ¬x.arena.Below s s' := by
  obtain ⟨u, hu, huu⟩ := exists_get_of_adopted h'.parent_get
  obtain ⟨t, ht, htt⟩ := exists_get_of_adopted h'.child_get
  have hur := huu.root.symm.trans h'.parent_root
  have htr := htt.root.symm.trans h'.child_root
  have hshallow : u.area.recursive = false := huu.area ▸ h'.shallow
  have habove : u.area.isParentOf t.area = true := by
    rw [← huu.area, ← htt.area]
    exact h'.above
  obtain ⟨name, hname, hchild⟩ := h'.displaced
  have hy := (h.orderly_adopted hm hs hx).sound
  have hlive := contains_of_child? hchild
  have hbelow := ((h.contains_adopted hm).1 hlive).2
  rw [h.name?_adopted hm (hy.contains_root (List.mem_of_getElem? h'.child_get) _ h'.child_root)] at hname
  have hsname := name?_of_child? hchild
  rw [h.name?_adopted hm hlive] at hsname
  have hpar := hy.wellFormed.parent?_of_child? hchild
  rw [h.parent?_adopted hm hbelow] at hpar
  refine ⟨u, t, ?_⟩
  split at hpar
  · -- The root that was adopted has the name of this tree as well, so that the same entry gave way to both.
    rename_i hsc
    obtain rfl := Option.some.inj hpar
    have hsame := hx.sound.forest.eq_of_root (List.mem_of_getElem? hu) (List.mem_of_getElem? h.parent_get) hur h.parent_root
    subst hsame
    obtain ⟨_, hfirst, hdisplaced⟩ := h.displaced
    rw [← hsc, hsname] at hfirst
    obtain rfl := Option.some.inj hfirst
    have hne : s ≠ childRoot' := by
      rintro rfl
      exact hs (Tree.mem_roots_of_root (List.mem_of_getElem? ht) htr)
    exact .inl ⟨⟨hu, ht, h'.ne, hshallow, habove, hur, htr, ⟨name, hname, hdisplaced⟩, hne⟩, hsc⟩
  · have hbefore : x.arena.child? parentRoot' name = some s' :=
      (child?_eq_some (hx.distinct parentRoot')).2 ⟨hx.sound.wellFormed.mem_children.2 hpar, hsname⟩
    exact .inr ⟨⟨hu, ht, h'.ne, hshallow, habove, hur, htr, ⟨name, hname, hbefore⟩, h'.other⟩, hbelow⟩

/-- Once a tree has taken the place of an entry, nothing gives way to it any more, and to no other tree does anything
give way that did not before. -/
theorem displaced?_adopted {parent child : Tree} {parentRoot childRoot : NodeId} {p' k' : Nat}
    (h : Adoption x p k parent child parentRoot childRoot s) (hm : x.Merging ((p, k) :: rest))
    (hs : s ∉ Tree.roots x.trees) (hx : x.Orderly) (hno : (p', k') = (p, k) ∨ x.displaced? p' k' = none) :
    (x.adopted k s parentRoot childRoot).displaced? p' k' = none := by
  by_contra hsome
  obtain ⟨s', hs'⟩ := Option.ne_none_iff_exists'.1 hsome
  obtain ⟨parent', child', parentRoot', childRoot', h'⟩ := adoption_of_displaced? hs'
  obtain ⟨u, t, ⟨hbefore, hadopted⟩ | ⟨hbefore, hbelow⟩⟩ := h.of_adopted hm hs hx h'
  all_goals rcases hno with heq | hnone
  · cases heq
    obtain rfl := Option.some.inj (hbefore.child_get.symm.trans h.child_get)
    exact h'.other (hadopted.trans (Option.some.inj (h.child_root.symm.trans hbefore.child_root)))
  · exact absurd (hbefore.displaced?_eq_some.symm.trans hnone) nofun
  · cases heq
    obtain rfl := Option.some.inj (h.displaced?_eq_some.symm.trans hbefore.displaced?_eq_some)
    exact hbelow (.refl _ s)
  · exact absurd (hbefore.displaced?_eq_some.symm.trans hnone) nofun

/-- Pairs of trees that have been gone through, of which none finds an entry in its place. -/
structure Done (x z : Index) (rest : List (Nat × Nat)) : Prop where
  orderly : z.Orderly
  length : z.trees.length = x.trees.length
  done : ∀ q ∈ pairs x.trees.length, q ∉ rest → z.displaced? q.1 q.2 = none

theorem Done.idle (h : Done x z ((p, k) :: rest)) (hidle : z.displaced? p k = none) : Done x z rest := by
  refine ⟨h.orderly, h.length, fun q hq hn => ?_⟩
  by_cases he : q = (p, k)
  · rw [he, hidle]
  · exact h.done q hq fun hmem => (List.mem_cons.1 hmem).elim he hn

theorem Done.adopted {parent child : Tree} {parentRoot childRoot : NodeId} (h : Done x z ((p, k) :: rest))
    (hm : z.Merging ((p, k) :: rest)) (ha : Adoption z p k parent child parentRoot childRoot s)
    (hs : s ∉ Tree.roots z.trees) : Done x (z.adopted k s parentRoot childRoot) rest := by
  refine ⟨ha.orderly_adopted hm hs h.orderly, (List.length_modify ..).trans h.length, fun q hq hn => ?_⟩
  refine displaced?_adopted ha hm hs h.orderly ?_
  by_cases he : q = (p, k)
  · exact .inl he
  · exact .inr (h.done q hq fun hmem => (List.mem_cons.1 hmem).elim he hn)

/-- Behind a merge no tree finds an entry in its place. -/
theorem Gathering.displaced?_merged (h : x.Gathering) (hs : MergeSpares x (pairs x.trees.length)) (hx : x.Orderly)
    (hm : x.perform merge = (.ok ⟨⟩, m)) (p k : Nat) : m.displaced? p k = none := by
  rw [perform_merge] at hm
  obtain ⟨m', hrun, -, hdone, -⟩ := Merging.induct (I := Done x) h.merging hs ⟨hx, rfl, fun _ hq hn => absurd hq hn⟩
    (fun _ _ _ _ _ hidle hdone => hdone.idle hidle) fun _ _ _ _ _ _ _ _ _ hz ha hs hdone => hdone.adopted hz ha hs
  obtain rfl : m = m' := congrArg Prod.snd (hm.symm.trans hrun)
  by_contra hsome
  obtain ⟨s, hd⟩ := Option.ne_none_iff_exists'.1 hsome
  obtain ⟨_, _, _, _, ha⟩ := adoption_of_displaced? hd
  refine hsome (hdone.done (p, k) (mem_pairs.2 ?_) List.not_mem_nil)
  rw [← hdone.length]
  exact ⟨(List.getElem?_eq_some_iff.1 ha.parent_get).1, (List.getElem?_eq_some_iff.1 ha.child_get).1⟩

/-- Where no tree finds an entry in its place, nothing is doubled. -/
theorem Orderly.single_of_displaced? (h : x.Orderly) (hnone : ∀ p k, x.displaced? p k = none) : x.Single := by
  rintro t ht u hu i j hi - his - hd
  obtain ⟨p, hp⟩ := List.mem_iff_getElem?.1 hu
  obtain ⟨k, hk⟩ := List.mem_iff_getElem?.1 ht
  obtain ⟨name, hcomponents, hname⟩ := hd.above
  obtain ⟨r, hr, hpar⟩ := hd.parent
  have hne : p ≠ k := by
    rintro rfl
    obtain rfl := Option.some.inj (hp.symm.trans hk)
    simp at hcomponents
  have hchild := (child?_eq_some (h.distinct r)).2 ⟨h.sound.wellFormed.mem_children.2 hpar, hname⟩
  have hij : j ≠ i := by
    rintro rfl
    rw [hd.top] at hpar
    cases hpar
  have hiname := name?_of_not_astray h.sound ht hd.root his
  rw [Path.entryName_of_components hcomponents] at hiname
  have ha : Adoption x p k u t r i j :=
    ⟨hp, hk, hne, hd.shallow, isParentOf_of_components hcomponents, hr, hd.root, ⟨name, hiname, hchild⟩, hij⟩
  exact absurd (ha.displaced?_eq_some.symm.trans (hnone p k)) nofun

/-- A collect that is canceled while it gathers has no count to give. -/
theorem Goes.complete {g : Gathered} (h : Goes d x areas c g y m z)
    (hn : (x.perform (collect d areas c)).1 = .ok (some n)) : g.complete = true := by
  by_contra hc
  have hc := Bool.eq_false_iff.2 hc
  obtain ⟨z', hz, -⟩ := perform_finish h.gathering.sound g
  rw [collect, perform_bind_ok h.gathered] at hn
  simp only [hc, Bool.false_eq_true, if_false] at hn hz
  rw [hz] at hn
  cases hn

/-- Whether a collect is completed. -/
def Completes (x : Index) (d : Disk) (areas : List Area) (c : Cancellation) : Prop :=
  ∃ n, (x.perform (collect d areas c)).1 = .ok (some n)

/-- **A completed collect leaves nothing doubled.** -/
theorem Orderly.single_of_completes (h : x.Orderly) (hv : d.Valid) (hs : CollectSpares x d areas c)
    (hc : x.Completes d areas c) : (x.after d (.collect areas c)).Single := by
  obtain ⟨n, hn⟩ := hc
  obtain ⟨g, y, m, hgoes⟩ := exists_goes h.sound hs
  have hcomplete := hgoes.complete hn
  have hy := hgoes.gathering.orderly (h.level_gather hv hgoes.gathered) (uncovered_of_wanted hgoes.gathers.wanted)
  have hm := hgoes.gathering.displaced?_merged (hgoes.spares hcomplete) hy (hgoes.merged hcomplete)
  refine (h.collect hv hs).single_of_displaced? fun p k => ?_
  rw [← hm p k, displaced?, displaced?, hgoes.arena, hgoes.trees]

/-! ## Other operations -/

/-- Where entries have only gone, those that are left are still apart. -/
theorem DistinctEntries.subset (h : x.DistinctEntries) (hx : x.Sound) (hy : y.Sound)
    (hsub : ∀ j, y.arena.Searchable j → x.arena.Searchable j)
    (hpath : ∀ j, y.arena.contains j = true → y.arena.workedPath? j = x.arena.workedPath? j) : y.DistinctEntries := by
  rw [hx.distinctEntries_iff_inj] at h
  rw [hy.distinctEntries_iff_inj]
  intro i j hi hj he
  rw [hpath i hi.live, hpath j hj.live] at he
  exact h i j (hsub i hi) (hsub j hj) he

/-- An effect that does not stir leaves the entries apart. -/
theorem Realizes.distinctEntries (hr : Realizes x e y) (h : x.DistinctEntries) (hx : x.Sound) (hy : y.Sound)
    (hno : ¬e.Stirs x) : y.DistinctEntries := by
  have ha := hx.wellFormed
  cases hr with
  | idle => exact h
  | refuse hal _ _ _ => exact h.subset hx hy (fun j => (hal.searchable j).1) fun j _ => hal.workedPath? ha j
  | grow => exact absurd trivial hno
  | cut _ _ hc _ _ _ _ =>
    exact h.subset hx hy (fun j hj => ((hc.searchable ha).1 hj).1) fun j hj => hc.workedPath?_rest ha hj
  | rename => exact absurd trivial hno
  | @update id f _ _ _ hf hal _ _ _ _ =>
    have hl : SameLinks x.arena (x.arena.modify id f) := sameLinks_modify hf.parent hf.children
    have hstage : ∀ j, (x.arena.modify id f).stage? j = x.arena.stage? j := fun j => by
      rw [stage?, get?_modify, stage?]
      split <;> cases x.arena.get? j <;> simp [hf.parent, hf.name, hf.anchor]
    have hkind : ∀ j, (x.arena.modify id f).isDirectory j = x.arena.isDirectory j := fun j => by
      rw [isDirectory, get?_modify, isDirectory]
      split
      · rename_i hj
        cases hn : x.arena.get? j with
        | none => rfl
        | some n => exact by_contra fun hne => hno ⟨n, hj ▸ hn, hne⟩
      · rfl
    refine h.subset hx hy (fun j hj => ?_) fun j hj => ?_
    · exact (searchable_congr hl fun top _ => hkind top).1 ((hal.searchable j).1 hj)
    · rw [hal.contains, hl.contains] at hj
      rw [hal.workedPath? (hl.wellFormed ha), workedPath?_congr ha (hl.wellFormed ha) hj fun i _ => hstage i]

theorem Undisturbed.distinctEntries (hu : Undisturbed x y) (h : x.DistinctEntries) (hx : x.Sound) :
    y.DistinctEntries :=
  h.subset hx hu.sound (fun j => (hu.searchable j).1) fun j hj =>
    workedPath?_congr hx.wellFormed hu.sound.wellFormed (hu.links.contains j ▸ hj) fun i _ => hu.stages i

theorem DistinctEntries.congr (h : x.DistinctEntries) (hx : x.Sound) (hy : y.Sound) (ha : y.arena = x.arena) :
    y.DistinctEntries :=
  h.subset hx hy (fun j hj => ha ▸ hj) fun j _ => by rw [ha]

/-! ## Runs -/

/-- Whether an operation leaves the entries apart: what it makes, names or turns into something else shares no place with
an entry, and nothing has come to have the path of an entry that has gone astray. -/
def Separates (x : Index) (d : Disk) (o : Operation) : Prop :=
  match o with
  | .collect areas c => (x.after d (.collect areas c)).StraysApart ∧
      (¬x.Completes d areas c → (x.after d (.collect areas c)).Single)
  | .edit e => (e.effect x d).Stirs x → (x.after d (.edit e)).Single ∧ (x.after d (.edit e)).StraysApart
  | .search _ _ | .live _ _ | .watch _ => True

theorem Orderly.distinctEntries_after_iff (h : x.Orderly) (hx : x.DistinctEntries) (hv : d.Valid)
    (hs : SparesRoots x d o) : (x.after d o).DistinctEntries ↔ x.Separates d o := by
  have hafter := h.after hv hs
  cases o with
  | collect areas c =>
    rw [hafter.distinctEntries_iff]
    constructor
    · exact fun hd => ⟨hd.2, fun _ => hd.1⟩
    · rintro ⟨hstrays, hsingle⟩
      by_cases hc : x.Completes d areas c
      · exact ⟨h.single_of_completes hv hs hc, hstrays⟩
      · exact ⟨hsingle hc, hstrays⟩
  | edit e =>
    by_cases hstirs : (e.effect x d).Stirs x
    · rw [hafter.distinctEntries_iff]
      exact ⟨fun hd _ => hd, fun hsep => hsep hstirs⟩
    · exact iff_of_true ((ends_edit h.sound d e).realizes.distinctEntries hx h.sound hafter.sound hstirs)
        fun hst => absurd hst hstirs
  | search queries c =>
    obtain ⟨hu, -⟩ := perform_multiSearch h.sound queries c
    refine iff_of_true ?_ trivial
    rw [Index.after, Operation.work, perform_discard]
    exact hu.distinctEntries hx h.sound
  | live q c =>
    obtain ⟨⟨y, hu, hy⟩, -⟩ := perform_subscribedSearch h.sound q c
    have hd := hu.distinctEntries hx h.sound
    have harena : (x.after d (.live q c)).arena = y.arena := by
      rw [Index.after, Operation.work, perform_discard]
      rcases hy with hy | hy <;> rw [hy]
    exact iff_of_true (hd.congr hu.sound hafter.sound harena) trivial
  | watch on => exact iff_of_true (hx.congr h.sound hafter.sound (keys_watch h.sound d on).1) trivial

/-- **A run keeps its roots and finds every entry once exactly as long as each step spares the roots and leaves the
entries apart.** -/
theorem throughout_distinctEntries_iff (s : Settings) (run : List (Disk × Operation)) (hv : ∀ i ∈ run, i.1.Valid) :
    Throughout (fun x d o => KeepsRoots x d o ∧ (x.after d o).DistinctEntries) (ofSettings s) run ↔
      Throughout (fun x d o => SparesRoots x d o ∧ x.Separates d o) (ofSettings s) run := by
  have hempty : (ofSettings s).DistinctEntries := ⟨[], rfl, List.nodup_nil, List.nodup_nil⟩
  refine along_iff_of_mem (I := fun x => x.Orderly ∧ x.DistinctEntries) ⟨orderly_ofSettings s, hempty⟩ ?_ ?_
  · rintro x ⟨d, o⟩ hmem ⟨hx, hd⟩
    exact (and_congr_left' hx.sound.keeps_iff_spares).trans
      (and_congr_right fun hs => hx.distinctEntries_after_iff hd (hv _ hmem) hs)
  · rintro x ⟨d, o⟩ hmem ⟨hx, hd⟩ ⟨hs, hsep⟩
    exact ⟨hx.after (hv _ hmem) hs, (hx.distinctEntries_after_iff hd (hv _ hmem) hs).2 hsep⟩

theorem valid_filledDisk : filledDisk.Valid where
  isDirectory := rfl
  proper := by simp [filledDisk, Entry.Proper, Entry.AllProper]
  named := by
    have ha : (Entry.directory [("f", .file (.zeros 0) 0 false)]).Named :=
      Entry.named_directory fun c hc => List.mem_singleton.1 hc ▸ ⟨by constructor <;> decide, Entry.named_leaf rfl⟩
    exact Entry.named_directory fun c hc => List.mem_singleton.1 hc ▸ ⟨by constructor <;> decide, ha⟩

theorem valid_bareDisk : bareDisk.Valid where
  isDirectory := rfl
  proper := by simp [bareDisk, Entry.Proper, Entry.AllProper]
  named := Entry.named_directory fun c hc =>
    List.mem_singleton.1 hc ▸ ⟨by constructor <;> decide, Entry.named_directory (by simp)⟩

theorem valid_doubledRun : ∀ i ∈ doubledRun, i.1.Valid := by
  simp [doubledRun, valid_bareDisk, valid_filledDisk]

theorem throughout_distinctEntries_iff_doubled : (∀ i ∈ doubledRun, i.1.Valid) ∧
    (Throughout (fun x d o => KeepsRoots x d o ∧ (x.after d o).DistinctEntries) (ofSettings {}) doubledRun ↔
      Throughout (fun x d o => SparesRoots x d o ∧ x.Separates d o) (ofSettings {}) doubledRun) :=
  ⟨valid_doubledRun, throughout_distinctEntries_iff {} doubledRun valid_doubledRun⟩

/-- **Not every run finds every entry once**: what comes between two collects is found once for each area that it is
reported for. -/
theorem not_forall_distinctEntries : ¬∀ s run, (∀ i ∈ run, i.1.Valid) →
    (∀ i ∈ run, ∀ areas c, i.2 = .collect areas c → ∀ a ∈ areas, .up ∉ a.path.components) →
      Throughout (fun x d o => (x.after d o).DistinctEntries) (ofSettings s) run := by
  intro h
  have hplain : ∀ i ∈ doubledRun, ∀ areas c, i.2 = .collect areas c → ∀ a ∈ areas, .up ∉ a.path.components := by
    intro i hi areas c ho
    simp only [doubledRun, List.mem_cons, List.not_mem_nil, or_false] at hi
    rcases hi with rfl | rfl | rfl <;> cases ho
    decide
  have hrun := h {} doubledRun valid_doubledRun hplain
  simp only [doubledRun, Throughout, Along, step, after_collect_bare, after_created_rooted,
    after_created_doubled] at hrun
  obtain ⟨-, -, ⟨ids, hids, -, hpaths⟩, -⟩ := hrun
  have hentries : doubledIndex.entries = .ok [⟨2⟩, ⟨1⟩] := by cbv
  obtain rfl : _ = ids := Except.ok.inj (hentries.symm.trans hids)
  revert hpaths
  decide +kernel

end Index

end FileIndex
