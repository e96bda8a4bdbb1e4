/-
Roots and the paths of their areas. In an orderly index what is found at a path has that path exactly if every root fits
the path of its area (`Orderly.leadsBack_iff`). Nothing but a new name for a root and a root that is made can change that
(`Index.NamesRoots`).
-/
import FileIndex.Proofs.Index.Level
import FileIndex.Proofs.Tree.Naming

namespace FileIndex

open Arena

variable {x y z m : Index} {d : Disk} {e : Effect} {o : Operation} {t u t' : Tree} {r s : NodeId} {name : String}
  {areas : List Area} {c : Cancellation} {g : Gathered} {i : Nat} {b : Arena} {made : Option NodeId}

namespace Index

/-! ## Looking up and leading back -/

/-- Whether whatever is found at a path is a node whose path is that one. -/
def LeadsBack (x : Index) : Prop := ∀ t ∈ x.trees, ∀ p id, t.locate x.arena p = .ok (some id) →
  x.arena.contains id = true ∧ ∃ q, (x.arena.path? id).1 = some q ∧ q.same p = true

/-- Whether all roots fit. -/
def Fitting (x : Index) : Prop := ∀ t ∈ x.trees, t.Fits x.arena

/-- The directory of an area that lies directly in another one is at the path of that one. -/
theorem Nested.components_dir (h : x.Nested) (hx : x.Sound) (ht : t ∈ x.trees) (hr : t.root = some r)
    (hp : x.arena.parent? r = some s) : ∃ u ∈ x.trees, u.root = some s ∧
      (t.area.path.parent?.getD ⟨""⟩).components = u.area.path.components := by
  obtain ⟨u, hu, hs⟩ := Tree.mem_roots.1 (hx.forest.merged r (Tree.mem_roots_of_root ht hr) s hp)
  obtain ⟨dir, hdir, hsame⟩ := (Option.any_eq_true _ _).1 (h t ht u hu r s hr hs hp)
  exact ⟨u, hu, hs, by rw [hdir, Option.getD_some, same_iff.1 hsame]⟩

/-- Where all roots fit, every root is at the path of its area. -/
theorem Orderly.workedPath?_root (h : x.Orderly) (hf : x.Fitting) (ht : t ∈ x.trees) (hr : t.root = some r) :
    ∃ w, x.arena.workedPath? r = some w ∧ w.components = t.area.path.components := by
  have ha := h.sound.wellFormed
  obtain ⟨top, htop, hb⟩ := ha.grounded (h.sound.contains_root ht r hr)
  induction hb generalizing t with
  | refl =>
    have hlive := h.sound.contains_root ht top hr
    obtain ⟨n, hn⟩ := contains_iff.1 hlive
    refine ⟨_, workedPath?_top hn (parent?_of_get? hn ▸ htop), ?_⟩
    rw [← anchor?_of_get? hn, h.anchored t ht top hr hlive]
    exact hf t ht top n.name hr (name?_of_get? hn)
  | @tail s r _ hp ih =>
    obtain ⟨u, hu, hs, hdir⟩ := h.nested.components_dir h.sound ht hr hp
    obtain ⟨w, hw, hwu⟩ := ih hu hs
    obtain ⟨n, hn⟩ := contains_iff.1 (contains_of_parent? hp)
    refine ⟨w.child n.name, by rw [ha.workedPath?_child hn (parent?_of_get? hn ▸ hp), hw, Option.map_some], ?_⟩
    rw [← hf t ht r n.name hr (name?_of_get? hn), Path.child, Path.child,
      Path.components_join_congr (hwu.trans hdir.symm) rfl]

/-- What is found is at the path where it is found. -/
theorem Orderly.workedPath?_located (h : x.Orderly) (hf : x.Fitting) (ht : t ∈ x.trees) {p : Path} {id : NodeId}
    (hl : t.located? x.arena p = some id) : ∃ q, x.arena.workedPath? id = some q ∧ q.components = p.components := by
  obtain ⟨root, names, hr, hnames, hid⟩ := Tree.located?_eq_some.1 hl
  obtain ⟨w, hw, hsame⟩ := h.workedPath?_root hf ht hr
  exact Tree.workedPath?_of_descend? h.sound.wellFormed hw hsame hnames hid

/-- **Looking up a path and reading the path of what is found are inverse exactly if all roots fit.** -/
theorem Orderly.leadsBack_iff (h : x.Orderly) : x.LeadsBack ↔ x.Fitting := by
  have ha := h.sound.wellFormed
  constructor
  · intro hl
    have hroot : ∀ t ∈ x.trees, ∀ r, t.root = some r →
        ∃ w, x.arena.workedPath? r = some w ∧ w.components = t.area.path.components := by
      intro t ht r hr
      have hnames : t.names? t.area.path = some [] := Tree.names?_eq_some.2 (by simp)
      have hlocate : t.locate x.arena t.area.path = .ok (some r) := by
        rw [Tree.locate_eq ha (h.sound.contains_root ht), Tree.located?, hr, Option.bind_some, hnames]
        rfl
      obtain ⟨-, q, hq, hsame⟩ := hl t ht _ _ hlocate
      exact ⟨q, (h.sound.paths.path?_fst r).symm.trans hq, same_iff.1 hsame⟩
    intro t ht r name hr hname
    obtain ⟨w, hw, hsame⟩ := hroot t ht r hr
    have hlive := h.sound.contains_root ht r hr
    obtain ⟨n, hn⟩ := contains_iff.1 hlive
    obtain rfl : n.name = name := Option.some.inj ((name?_of_get? hn).symm.trans hname)
    cases hp : x.arena.parent? r with
    | none =>
      rw [workedPath?_top hn (parent?_of_get? hn ▸ hp), Option.some.injEq, ← anchor?_of_get? hn,
        h.anchored t ht r hr hlive] at hw
      rw [Path.NamedBy, hw, hsame]
    | some s =>
      obtain ⟨u, hu, hs, hdir⟩ := h.nested.components_dir h.sound ht hr hp
      obtain ⟨v, hv, hvu⟩ := hroot u hu s hs
      rw [ha.workedPath?_child hn (parent?_of_get? hn ▸ hp), hv, Option.map_some, Option.some.injEq] at hw
      rw [Path.NamedBy, ← hsame, ← hw, Path.child, Path.child, Path.components_join_congr (hdir.trans hvu.symm) rfl]
  · intro hf t ht p id hlocate
    rw [Tree.locate_eq ha (h.sound.contains_root ht), Except.ok.injEq] at hlocate
    obtain ⟨q, hq, hsame⟩ := h.workedPath?_located hf ht hlocate
    obtain ⟨root, hr, hb⟩ := Tree.below_of_located? ha hlocate
    exact ⟨hb.contains (h.sound.contains_root ht root hr), q, (h.sound.paths.path?_fst id).trans hq, same_iff.2 hsame⟩

/-! ## What makes a root fit, or not -/

/-- Roots that were there before, under the names that they had, fit as they did. -/
theorem Fitting.of_trees (h : x.Fitting) (htrees : ∀ u ∈ y.trees, ∃ t ∈ x.trees, t.area = u.area ∧
    ∀ r name, u.root = some r → y.arena.name? r = some name → t.root = some r ∧ x.arena.name? r = some name) :
    y.Fitting := by
  intro u hu
  obtain ⟨t, ht, ha, hr⟩ := htrees u hu
  exact (h t ht).congr ha.symm hr

theorem Shrinks.fitting (h : Shrinks x y) (hf : x.Fitting)
    (hname : ∀ j, y.arena.contains j = true → y.arena.name? j = x.arena.name? j) : y.Fitting :=
  hf.of_trees fun u hu => by
    obtain ⟨t, ht, ha, hr⟩ := h.trees u hu
    exact ⟨t, ht, ha, fun r name hur hn => ⟨hr r hur, hname r (contains_of_name? hn) ▸ hn⟩⟩

end Index

/-- Whether an effect gives no root a name that does not fit. -/
def Effect.NamesRoots (x : Index) : Effect → Prop
  | .rename id name _ _ => ∀ t ∈ x.trees, t.root = some id → t.area.path.NamedBy name
  | .grow i t' _ _ => ∀ t, x.trees[i]? = some t → t.root = none → t'.root.isSome = true → ¬t.area.path.Climbs
  | _ => True

namespace Index

/-- Whether an operation gives no root a name that does not fit: a root is renamed to fit only, and none is made for an
area whose path climbs. -/
def NamesRoots (x : Index) (d : Disk) : Operation → Prop
  | .collect areas c => ∀ g y, x.perform (gather d areas c) = (.ok g, y) → g.complete = true →
      ∀ a ∈ x.missingAreas areas, (d.find? false a.path).isSome = true → ¬a.path.Climbs
  | .edit e => (e.effect x d).NamesRoots x
  | .search _ _ | .live _ _ | .watch _ => True

/-! ## Edits -/

theorem name?_renamed_eq (a : Arena) (id : NodeId) (name : String) (hid : a.contains id = true) (j : NodeId) :
    (a.renamed id name).name? j = if j = id then some name else a.name? j := by
  split
  · rename_i hj
    rw [hj, name?_renamed hid]
  · rename_i hj
    rw [name?_eq_core, core?_renamed, if_neg hj, name?_eq_core]

theorem name?_cleared_rest {a : Arena} {id j : NodeId} (ha : a.WellFormed) (hj : (a.cleared id name).contains j = true) :
    (a.cleared id name).name? j = a.name? j := by
  unfold Arena.cleared at hj ⊢
  split at hj
  · exact (ha.cut_cutAt _).name?_rest ((ha.cut_cutAt _).not_below hj)
  · rfl

theorem Realizes.trees_rename {id : NodeId} {old : Path} {replaced : List NodeId}
    (hr : Realizes x (.rename id name old replaced) y) : y.trees = x.trees := by
  cases hr with
  | rename _ _ _ _ _ _ ht _ => exact ht

/-- Behind a rename the node has the new name, and all others have theirs. -/
theorem Realizes.name?_renamed {id : NodeId} {old : Path} {replaced : List NodeId} (h : x.Sound)
    (hr : Realizes x (.rename id name old replaced) y) (hj : y.arena.contains s = true) :
    y.arena.name? s = if s = id then some name else x.arena.name? s := by
  cases hr with
  | @rename _ _ _ _ b _ hid _ hal _ hc _ _ _ =>
    have hb := hal.sameLinks.wellFormed h.wellFormed
    rw [hc.contains, (sameLinks_renamed _ id name).contains] at hj
    rw [hc.name?, name?_renamed_eq _ id name (contains_cleared hb (by rw [hal.contains, hid]) name),
      name?_cleared_rest hb hj, hal.name?]

/-- Any other effect leaves all nodes their names. -/
theorem Realizes.name?_eq (hr : Realizes x e y) (hno : ∀ id name old replaced, e ≠ .rename id name old replaced)
    (hj : x.arena.contains s = true) (hlive : y.arena.contains s = true) : y.arena.name? s = x.arena.name? s := by
  cases hr with
  | idle => rfl
  | refuse hal _ _ _ => exact hal.name? s
  | grow _ hout hal _ _ _ _ =>
    rw [hal.name?]
    cases hout with
    | unchanged => rfl
    | root _ hs _ | below _ _ hs _ => exact hs.toGrown.name?_old hj
  | cut _ _ hc _ _ _ _ => exact hc.name?_rest (hc.not_below hlive)
  | rename => exact absurd rfl (hno _ _ _ _)
  | update _ hf hal _ _ _ _ => rw [hal.name?, name?_modify hf.name]

/-- What an addition makes fits exactly if it is no root of an area whose path climbs. -/
theorem Realizes.fitting_grow_iff {p : Path} (h : x.Sound) (hf : x.Fitting) (hv : d.Valid)
    (hr : Realizes x (.grow i t' b made) y) (hi : x.trees[i]? = some t) (hadd : t.add x.arena d p = .ok (made, t', b)) :
    y.Fitting ↔ (t.root = none → t'.root.isSome = true → ¬t.area.path.Climbs) := by
  have ht := List.mem_of_getElem? hi
  obtain ⟨v, q, hv', hout, hal, htrees⟩ := hr.grown
  obtain rfl := Option.some.inj (hi.symm.trans hv')
  have hmem : t' ∈ y.trees := by
    rw [htrees]
    exact List.mem_set (List.getElem?_eq_some_iff.1 hi).1 t'
  have halike : t'.Fits y.arena ↔ t'.Fits b :=
    ⟨fun hfit => hfit.congr rfl fun r name hr hn => ⟨hr, hal.name? r ▸ hn⟩,
      fun hfit => hfit.congr rfl fun r name hr hn => ⟨hr, hal.name? r ▸ hn⟩⟩
  have hrest : y.Fitting ↔ t'.Fits y.arena := by
    refine ⟨fun hy => hy t' hmem, fun hfit u hu => ?_⟩
    rcases hr.tree_grow hi hu with hu | ⟨rfl, -⟩
    · refine (hf u hu).congr rfl fun r name hur hn => ⟨hur, ?_⟩
      rw [← hr.name?_eq (by simp) (h.contains_root hu r hur) (contains_of_name? hn), hn]
    · exact hfit
  rw [hrest, halike]
  cases hroot : t'.root with
  | none =>
    simp only [Option.isSome_none, Bool.false_eq_true, false_implies, implies_true, iff_true]
    intro r _ hr
    rw [hroot] at hr
    cases hr
  | some r =>
    cases hnone : t.root with
    | none => simp [Tree.add_fits hv h.wellFormed hnone hroot hadd]
    | some q =>
      -- The root is the one that was there before.
      simp only [reduceCtorEq, false_implies, iff_true]
      refine (hf t ht).congr (addOutcome_area hout) fun r name hr hn => ?_
      obtain rfl := Option.some.inj ((root_of_addOutcome hout hnone).symm.trans hr)
      have hlive := h.contains_root ht q hnone
      refine ⟨hnone, ?_⟩
      cases hout with
      | unchanged => exact hn
      | root _ hs _ | below _ _ hs _ => rwa [hs.toGrown.name?_old hlive] at hn

/-- A root that fits behind a rename has got a name that does. -/
theorem Realizes.namedBy_of_fitting {id : NodeId} {old : Path} {replaced : List NodeId} (h : x.Sound)
    (hr : Realizes x (.rename id name old replaced) y) (hy : y.Sound) (hf : y.Fitting) (ht : t ∈ x.trees)
    (hroot : t.root = some id) : t.area.path.NamedBy name := by
  rw [← hr.trees_rename] at ht
  exact hf t ht id name hroot (by rw [hr.name?_renamed h (hy.contains_root ht id hroot), if_pos rfl])

theorem Realizes.fitting_rename_iff {id : NodeId} {old : Path} {replaced : List NodeId} (h : x.Sound) (hf : x.Fitting)
    (hr : Realizes x (.rename id name old replaced) y) (hs : (Effect.rename id name old replaced).Spares x) :
    y.Fitting ↔ ∀ t ∈ x.trees, t.root = some id → t.area.path.NamedBy name := by
  refine ⟨fun hfit t => hr.namedBy_of_fitting h (hr.sound h hs) hfit, fun hfits t ht r other hroot hn => ?_⟩
  rw [hr.trees_rename] at ht
  rw [hr.name?_renamed h (contains_of_name? hn)] at hn
  split at hn
  · rename_i hrid
    obtain rfl := Option.some.inj hn
    exact hfits t ht (hrid ▸ hroot)
  · exact hf t ht r other hroot hn

/-- **Behind an edit that spares the roots all roots fit exactly if it gives none a name that does not.** -/
theorem Realizes.fitting_iff {e : Edit} (h : x.Sound) (hf : x.Fitting) (hv : d.Valid) (hr : Realizes x (e.effect x d) y)
    (hs : (e.effect x d).Spares x) : y.Fitting ↔ (e.effect x d).NamesRoots x := by
  cases heffect : e.effect x d with
  | grow i t' b made =>
    obtain ⟨t, p, hi, hadd⟩ := effect_grow heffect
    rw [heffect] at hr
    rw [hr.fitting_grow_iff h hf hv hi hadd]
    exact ⟨fun hc u hu => Option.some.inj (hi.symm.trans hu) ▸ hc, fun hc => hc t hi⟩
  | rename id name old replaced =>
    rw [heffect] at hr hs
    exact hr.fitting_rename_iff h hf hs
  | idle | refuse | cut | update =>
    rw [heffect] at hr
    have hshrinks := (hr.shrinks h).resolve_right (by simp)
    exact iff_of_true (hshrinks.fitting hf fun j hj => hr.name?_eq (by simp) (hshrinks.live j hj) hj) trivial

/-! ## Collects -/

theorem name?_detachRoots {a : Arena} (ha : a.WellFormed) (us : List Tree) (j : NodeId) :
    (detachRoots a us).name? j = a.name? j := by
  induction us generalizing a with
  | nil => rfl
  | cons u us ih =>
    rw [detachRoots, List.foldl_cons]
    cases u.root with
    | none => exact ih ha
    | some r =>
      have hd := ha.detached_detach r
      exact (ih ((hd.unlinked ha).wellFormed ha)).trans (hd.name? j)

/-- Trees that are kept fit as they did. -/
theorem fits_of_kept (h : x.Sound) (hf : x.Fitting) (ht : t ∈ x.keptTrees areas) : t.Fits (x.emptied areas).arena := by
  obtain ⟨hflat, -⟩ := flat_separate h
  obtain ⟨-, -, hsteady⟩ := flat_emptied h areas
  obtain ⟨u, hu, rfl⟩ := List.mem_map.1 ((keptTrees_sublist x areas).subset ht)
  refine (hf u hu).congr rfl fun r name hr hn => ⟨hr, ?_⟩
  obtain ⟨n, hget⟩ := contains_iff.1 ((hflat.mem_iff r).1 (Tree.mem_roots_of_root hu hr)).1
  obtain ⟨k, hk, hsame⟩ := hsteady r (Tree.mem_roots_of_root ht hr) r n (.refl _ r) hget
  rw [name?_of_get? hk, hsame.name, ← name?_of_get? hget] at hn
  rw [← hn]
  exact (name?_detachRoots h.wellFormed _ r).symm

/-- **What gathering leaves fits exactly if it builds no tree for an area whose path climbs.** -/
theorem fitting_gather_iff (h : x.Sound) (hf : x.Fitting) (hg : x.perform (gather d areas c) = (.ok g, y)) :
    y.Fitting ↔ (g.complete = true →
      ∀ a ∈ x.missingAreas areas, (d.find? false a.path).isSome = true → ¬a.path.Climbs) := by
  rcases gather_cases x d areas c with ⟨-, hrun⟩ | hrun
  · obtain ⟨hgc, rfl⟩ := Prod.mk.inj (hg.symm.trans hrun)
    obtain rfl := Except.ok.inj hgc
    exact iff_of_true (fun t ht => fits_of_kept h hf ht) (by simp)
  · obtain ⟨hflat, hk, -⟩ := flat_emptied h areas
    obtain ⟨built, z, hbuild, hareas, -, -, -, -, hold, hstands⟩ := perform_build d
      ((x.missingAreas areas).map fun a => (a, Tree.found? d x.includeHidden a)) hflat hk
    rw [List.map_map, Function.comp_def, List.map_id'] at hareas
    have hstand : ∀ t ∈ built, t.Stands d x.includeHidden z.arena := hstands fun f hmem => by
      obtain ⟨a, -, rfl⟩ := List.mem_map.1 hmem
      rfl
    obtain ⟨hgc, rfl⟩ := Prod.mk.inj (hg.symm.trans (hrun built z hbuild))
    obtain rfl := Except.ok.inj hgc
    simp only [true_implies]
    have hbuilt : ∀ t ∈ built, t.Fits z.arena ↔ ((d.find? false t.area.path).isSome = true → ¬t.area.path.Climbs) := by
      intro t ht
      have hs := hstand t ht
      cases hr : t.root with
      | none =>
        have hnone : d.find? false t.area.path = none := by
          have hfound := hs.found
          rw [hr] at hfound
          cases hd : d.find? false t.area.path with
          | none => rfl
          | some e =>
            rw [Tree.found?, hd] at hfound
            cases hfound
        rw [hnone]
        exact iff_of_true (fun r _ hr' => by rw [hr] at hr'; cases hr') (by simp)
      | some r =>
        obtain ⟨e, he, -⟩ := hs.exists_entry hr
        rw [Tree.fits_iff hr (hs.name? hr), Path.namedBy_entryName, he]
        simp
    have hkept : ∀ t ∈ x.keptTrees areas, t.Fits z.arena := fun t ht => by
      refine (fits_of_kept h hf ht).congr rfl fun r name hr hn => ⟨hr, ?_⟩
      rwa [name?, hold r ((hflat.mem_iff r).1 (Tree.mem_roots_of_root ht hr)).1] at hn
    constructor
    · intro hfit a ha
      rw [← hareas] at ha
      obtain ⟨t, ht, rfl⟩ := List.mem_map.1 ha
      refine (hbuilt t ht).1 (hfit t (List.mem_flatMap.2 ⟨t.area, ?_, ?_⟩))
      · exact (List.mem_filter.1 (hareas ▸ ha)).1
      · exact List.mem_filter.2 ⟨List.mem_append_right _ ht, sameArea_iff.2 ⟨same_iff.2 rfl, rfl⟩⟩
    · intro hno t ht
      obtain ⟨a, -, ht⟩ := List.mem_flatMap.1 ht
      rcases List.mem_append.1 (List.mem_filter.1 ht).1 with ht | ht
      · exact hkept t ht
      · exact (hbuilt t ht).2 (hno t.area (hareas ▸ List.mem_map_of_mem ht))

/-- Adoptions change nothing about which roots fit. -/
theorem Adoption.fitting_iff {p k : Nat} {parent child : Tree} {parentRoot childRoot : NodeId} {rest : List (Nat × Nat)}
    (h : Adoption x p k parent child parentRoot childRoot s) (hm : x.Merging ((p, k) :: rest))
    (hs : s ∉ Tree.roots x.trees) : (x.adopted k s parentRoot childRoot).Fitting ↔ x.Fitting := by
  have hnext := (hm.adopted h hs).sound
  constructor
  · intro hf t ht
    obtain ⟨u, hu, hsame⟩ := exists_mem_adopted ht k s parentRoot childRoot
    refine (hf u hu).congr hsame.area.symm fun r name hr hn => ⟨hsame.root.trans hr, ?_⟩
    rw [h.name?_adopted hm (hnext.contains_root hu r (hsame.root.trans hr)), hn]
  · intro hf
    refine hf.of_trees fun u hu => ?_
    obtain ⟨t, ht, hsame⟩ := exists_mem_of_adopted hu
    exact ⟨t, ht, hsame.area.symm, fun r name hr hn => ⟨hsame.root ▸ hr,
      h.name?_adopted hm (contains_of_name? hn) ▸ hn⟩⟩

theorem Goes.fitting_iff (h : x.Sound) (hf : x.Fitting) (hg : Goes d x areas c g y m z) :
    z.Fitting ↔ NamesRoots x d (.collect areas c) := by
  have hz : z.Fitting ↔ m.Fitting := by
    unfold Fitting
    rw [hg.arena, hg.trees]
  have hm : m.Fitting ↔ y.Fitting := by
    cases hc : g.complete with
    | false => rw [hg.canceled hc]
    | true =>
      obtain ⟨m', hrun, -, hiff, -⟩ := Merging.induct (I := fun v _ => v.Fitting ↔ y.Fitting) hg.gathering.merging
        (hg.spares hc) .rfl (fun _ _ _ _ _ _ hv => hv)
        fun _ _ _ _ _ _ _ _ _ hv ha hs hiff => (ha.fitting_iff hv hs).trans hiff
      have hmerge := hg.merged hc
      rw [perform_merge] at hmerge
      obtain rfl : m = m' := congrArg Prod.snd (hmerge.symm.trans hrun)
      exact hiff
  rw [hz, hm, fitting_gather_iff h hf hg.gathered]
  refine ⟨fun hno g' y' hg' hcomplete => hno ?_, fun hno hcomplete => hno g y hg.gathered hcomplete⟩
  obtain rfl := Except.ok.inj (congrArg Prod.fst (hg'.symm.trans hg.gathered))
  exact hcomplete

/-! ## Operations -/

theorem Undisturbed.fitting (h : Undisturbed x y) (hf : x.Fitting) : y.Fitting :=
  hf.of_trees fun u hu => ⟨u, h.trees ▸ hu, rfl, fun r _ hr hn => ⟨hr, name?_of_stage? (h.stages r) ▸ hn⟩⟩

/-- **Behind an operation that spares the roots all roots fit exactly if it gives none a name that does not.** -/
theorem Orderly.fitting_after_iff (h : x.Orderly) (hf : x.Fitting) (hv : d.Valid) (hs : SparesRoots x d o) :
    (x.after d o).Fitting ↔ NamesRoots x d o := by
  have hx := h.sound
  cases o with
  | collect areas c =>
    obtain ⟨g, y, m, hgoes⟩ := exists_goes hx hs
    exact hgoes.fitting_iff hx hf
  | edit e => exact (ends_edit hx d e).realizes.fitting_iff hx hf hv hs
  | search queries c =>
    obtain ⟨hu, -⟩ := perform_multiSearch hx queries c
    rw [Index.after, Operation.work, perform_discard]
    exact iff_of_true (hu.fitting hf) trivial
  | live q c =>
    obtain ⟨⟨y, hu, hy⟩, -⟩ := perform_subscribedSearch hx q c
    rw [Index.after, Operation.work, perform_discard]
    have hfit := hu.fitting hf
    refine iff_of_true ?_ trivial
    rcases hy with hy | hy <;> rw [hy] <;> exact hfit
  | watch on =>
    refine iff_of_true ((shrinks_after hx (by simp) (by simp)).fitting hf fun j hj => ?_) trivial
    rw [(keys_watch hx d on).1]

end Index

end FileIndex
