/-
What collects leave of orderly indexes. Once the trees stand side by side nothing lies deeper in a shallow tree than the
entries of its root (`Level`), and adoptions put a tree where an entry of the same name was. With what edits leave, every
operation that spares the roots leaves an index orderly.
-/
import FileIndex.Proofs.Index.Orderly

namespace FileIndex.Index

open Arena

variable {x y m z : Index} {d : Disk} {o : Operation} {areas : List Area} {c : Cancellation}
  {rest : List (Nat × Nat)} {t : Tree} {i : Nat} {a b : Arena} {r s q j : NodeId}

/-! ## Gathering -/

/-- Whether siblings have names of their own, in shallow trees nothing lies deeper than the entries of the root, and
roots are anchored. -/
structure Level (a : Arena) (ts : List Tree) : Prop where
  distinct : a.Distinct
  shallow : ∀ t ∈ ts, t.area.recursive = false → ∀ r j k, t.root = some r → a.parent? j = some r →
    a.parent? k ≠ some j
  anchored : ∀ t ∈ ts, t.Anchored a

theorem Level.subset {ts us : List Tree} (h : Level a ts) (hsub : ∀ t ∈ us, t ∈ ts) : Level a us :=
  ⟨h.distinct, fun t ht => h.shallow t (hsub t ht), fun t ht => h.anchored t (hsub t ht)⟩

theorem distinct_detachRoots (ha : a.WellFormed) (hd : a.Distinct) (us : List Tree) :
    (detachRoots a us).Distinct ∧ ∀ j, (detachRoots a us).anchor? j = a.anchor? j := by
  induction us generalizing a with
  | nil => exact ⟨hd, fun _ => rfl⟩
  | cons u us ih =>
    rw [detachRoots, List.foldl_cons]
    cases u.root with
    | none => exact ih ha hd
    | some r =>
      have hr := ha.detached_detach r
      obtain ⟨hdistinct, hanchor⟩ := ih ((hr.unlinked ha).wellFormed ha) (hr.distinct ha hd)
      exact ⟨hdistinct, fun j => (hanchor j).trans (hr.anchor? j)⟩

/-- Once the children are separated, no entry of a shallow tree has anything below it. -/
theorem Orderly.level_separate (h : x.Orderly) : Level x.separate.arena x.separate.trees := by
  have ha := h.sound.wellFormed
  obtain ⟨-, -, hlive, hp⟩ := detachRoots_spec ha h.sound.paths (x.trees.filter (·.isChild))
  obtain ⟨hdistinct, hanchor⟩ := distinct_detachRoots ha h.distinct (x.trees.filter (·.isChild))
  have hanchored : ∀ t ∈ x.separate.trees, t.Anchored x.separate.arena := by
    intro t ht
    obtain ⟨u, hu, rfl⟩ := List.mem_map.1 ht
    exact (h.anchored u hu).congr rfl fun r hr hl => ⟨hr, hlive r ▸ hl, hanchor r⟩
  refine ⟨hdistinct, fun t ht hrec r j k hr hj hk => ?_, hanchored⟩
  obtain ⟨u, hu, rfl⟩ := List.mem_map.1 ht
  change (detachRoots x.arena (x.trees.filter (·.isChild))).parent? j = some r at hj
  change (detachRoots x.arena (x.trees.filter (·.isChild))).parent? k = some j at hk
  rw [hp] at hj hk
  split at hj
  · cases hj
  · rename_i hno
    split at hk
    · cases hk
    · obtain ⟨v, hv, hvj⟩ := Tree.mem_roots.1 (h.shallow u hu hrec r j k hr hj hk)
      have hchild := (h.sound.forest.child_iff v hv).2 ⟨j, r, hvj, hj⟩
      exact hno (Tree.mem_roots_of_root (List.mem_filter.2 ⟨hv, hchild⟩) hvj)

theorem Level.releaseTrees {ts : List Tree} (h : Level a ts) (ha : a.WellFormed) (us : List Tree) :
    Level (releaseTrees a us) ts := by
  induction us generalizing a with
  | nil => exact h
  | cons u us ih =>
    rw [Index.releaseTrees, List.foldl_cons, release_arena]
    cases u.root with
    | none => exact ih h ha
    | some q =>
      have hc := ha.cut_cutAt q
      have hpar : ∀ {j r}, (a.cutAt q).parent? j = some r → a.parent? j = some r := fun {j r} hj => by
        rwa [hc.parent?_rest (hc.not_below (contains_of_parent? hj))] at hj
      exact ih ⟨hc.distinct ha h.distinct, fun t ht hrec r j k hr hj hk =>
        h.shallow t ht hrec r j k hr (hpar hj) (hpar hk), fun t ht => (h.anchored t ht).congr rfl fun r hr hlive =>
          ⟨hr, (hc.contains_iff.1 hlive).1, hc.anchor? hlive⟩⟩ hc.wellFormed

/-- Right below what was there before a new tree, there is nothing new. -/
theorem contains_of_grown (h : Grown a b none r) (hq : a.contains q = true) (hp : b.parent? j = some q) :
    a.contains j = true := by
  refine ((h.contains_iff j).1 (contains_of_parent? hp)).resolve_right fun hb => ?_
  rcases hb.cases_tail with rfl | ⟨i, hi, hb⟩
  · rw [h.parent?_top] at hp
    cases hp
  · obtain rfl := Option.some.inj (hi.symm.trans hp)
    exact h.fresh i hb hq

theorem Level.cons {ts : List Tree} (h : Level a ts)
    (hshallow : t.area.recursive = false → ∀ r j k, t.root = some r → a.parent? j = some r → a.parent? k ≠ some j)
    (hanchored : t.Anchored a) : Level a (t :: ts) where
  distinct := h.distinct
  shallow := List.forall_mem_cons.2 ⟨hshallow, h.shallow⟩
  anchored := List.forall_mem_cons.2 ⟨hanchored, h.anchored⟩

/-- The trees that are there stay level where a new one is taken in. -/
theorem Level.sown {ts : List Tree} (h : Level a ts) (ha : a.WellFormed)
    (hlive : ∀ t ∈ ts, ∀ r, t.root = some r → a.contains r = true) (hs : Sown a b none q) : Level b ts where
  distinct := hs.keeps ha h.distinct nofun
  shallow t ht hrec r j k hr hj hk := by
    have hjold := contains_of_grown hs.toGrown (hlive t ht r hr) hj
    rw [hs.parent?_old hjold] at hj
    rw [hs.parent?_old (contains_of_grown hs.toGrown hjold hk)] at hk
    exact h.shallow t ht hrec r j k hr hj hk
  anchored t ht := (h.anchored t ht).congr rfl fun r hr _ =>
    ⟨hr, hlive t ht r hr, hs.anchor?_old (hlive t ht r hr)⟩

theorem Level.setAnchor {ts : List Tree} (h : Level a ts) (hne : ∀ t ∈ ts, t.root ≠ some q) (p : Option Path) :
    Level (a.modify q (·.setAnchor p)) ts where
  distinct := h.distinct.congr (sameLinks_setAnchor a q p).children (name?_setAnchor a q p)
  shallow t ht hrec r j k hr hj hk := by
    rw [(sameLinks_setAnchor a q p).parent?] at hj hk
    exact h.shallow t ht hrec r j k hr hj hk
  anchored t ht := (h.anchored t ht).congr rfl fun r hr hlive => by
    rw [(sameLinks_setAnchor a q p).contains] at hlive
    have hrq : r ≠ q := fun he => hne t ht (he ▸ hr)
    exact ⟨hr, hlive, (anchor?_setAnchor hlive q p).trans (if_neg hrq)⟩

/-- A tree of what a walk finds is level. -/
theorem Level.ofCollected {ts : List Tree} (h : Level a ts) (ha : a.WellFormed) (hv : d.Valid)
    (hlive : ∀ t ∈ ts, ∀ r, t.root = some r → a.contains r = true) (area : Area) (hidden : Bool) :
    ∃ t b, Tree.ofCollected area hidden (Tree.found? d hidden area) a = .ok (t, b) ∧ b.WellFormed ∧ Level b (t :: ts) ∧
      ∀ u ∈ t :: ts, ∀ r, u.root = some r → b.contains r = true := by
  unfold Tree.found?
  cases hf : d.find? false area.path with
  | none => exact ⟨_, a, rfl, ha, h.cons (by simp) (by simp [Tree.Anchored]), List.forall_mem_cons.2 ⟨by simp, hlive⟩⟩
  | some e =>
    obtain ⟨root, b, hb, hs, -, hlevel⟩ := ha.sown_walkEntry (hv.find? hf).1 (Tree.scope area hidden) area.path.entryName
    have hl := sameLinks_setAnchor b root area.path.parent?
    have hne : ∀ t ∈ ts, t.root ≠ some root := fun t ht hr => hs.fresh root (.refl b root) (hlive t ht root hr)
    refine ⟨_, _, by rw [Option.map_some, Tree.ofCollected, hb, ok_map], hl.wellFormed hs.wellFormed,
      ((h.sown ha hlive hs).setAnchor hne _).cons (fun hrec r j k hr hj hk => ?_) (fun r hr _ => ?_),
      List.forall_mem_cons.2 ⟨fun r hr => ?_, fun t ht r hr => ?_⟩⟩
    · obtain rfl := Option.some.inj hr
      rw [hl.parent?] at hj hk
      have hmem := hs.wellFormed.mem_children.2 hk
      rw [hlevel hrec j hj] at hmem
      cases hmem
    · obtain rfl := Option.some.inj hr
      exact (anchor?_setAnchor hs.contains_top root _).trans (if_pos rfl)
    · obtain rfl := Option.some.inj hr
      rw [hl.contains, hs.contains_top]
    · rw [hl.contains, hs.contains_old (hlive t ht r hr)]

theorem Level.build {ts : List Tree} (h : Level x.arena ts) (ha : x.arena.WellFormed) (hv : d.Valid)
    (hlive : ∀ t ∈ ts, ∀ r, t.root = some r → x.arena.contains r = true) (areas : List Area) :
    ∃ built y, x.perform (build d (areas.map fun a => (a, Tree.found? d x.includeHidden a))) = (.ok built, y) ∧
      Level y.arena (built ++ ts) := by
  induction areas generalizing x ts with
  | nil => exact ⟨[], x, rfl, h⟩
  | cons area areas ih =>
    obtain ⟨t, b, hof, hb, hl, hliveb⟩ := h.ofCollected ha hv hlive area x.includeHidden
    obtain ⟨t', y, hwatch, hta, htr, -, -, hya, hframe⟩ := perform_watchTree d (x.withArena b) t
      (hliveb t List.mem_cons_self)
    have hmem : ∀ u ∈ t' :: ts, ∃ v ∈ t :: ts, v.area = u.area ∧ v.root = u.root := fun u hu => by
      rcases List.mem_cons.1 hu with rfl | hu
      · exact ⟨t, List.mem_cons_self, hta.symm, htr.symm⟩
      · exact ⟨u, List.mem_cons_of_mem _ hu, rfl, rfl⟩
    have hly : Level y.arena (t' :: ts) := by
      rw [hya]
      refine ⟨hl.distinct, fun u hu hrec r j k hr => ?_, fun u hu => ?_⟩
      · obtain ⟨v, hv, hva, hvr⟩ := hmem u hu
        exact hl.shallow v hv (hva ▸ hrec) r j k (hvr ▸ hr)
      · obtain ⟨v, hv, hva, hvr⟩ := hmem u hu
        exact (hl.anchored v hv).congr hva.symm fun r hr hlive => ⟨hvr ▸ hr, hlive, rfl⟩
    obtain ⟨built, z, hbuild, hlz⟩ := ih (x := y) hly (by rw [hya]; exact hb) fun u hu r hr => by
      obtain ⟨v, hv, -, hvr⟩ := hmem u hu
      rw [hya]
      exact hliveb v hv r (hvr ▸ hr)
    have hhidden : y.includeHidden = x.includeHidden := hframe.includeHidden
    rw [hhidden] at hbuild
    refine ⟨t' :: built, z, ?_, hlz.subset fun u hu => ?_⟩
    · simp only [List.map_cons, Index.build, perform_bind, perform_get, perform_lift, hof, perform_set, hwatch, hbuild,
        perform_pure]
    · simp only [List.cons_append, List.mem_cons, List.mem_append] at hu ⊢
      tauto

/-- What gathering leaves of an orderly index is level. -/
theorem Orderly.level_gather (h : x.Orderly) (hv : d.Valid) {g : Gathered}
    (hg : x.perform (gather d areas c) = (.ok g, y)) : Level y.arena y.trees := by
  obtain ⟨hflat, -⟩ := flat_separate h.sound
  have hkept : Level (x.emptied areas).arena (x.keptTrees areas) :=
    (h.level_separate.releaseTrees hflat.wellFormed _).subset (keptTrees_sublist x areas).subset
  rcases gather_cases x d areas c with ⟨-, hrun⟩ | hrun
  · obtain rfl : _ = y := congrArg Prod.snd (hrun.symm.trans hg)
    exact hkept
  · obtain ⟨hempty, -⟩ := flat_emptied h.sound areas
    obtain ⟨built, z, hbuild, hl⟩ := hkept.build hempty.wellFormed hv
      (fun t ht r hr => ((hempty.mem_iff r).1 (Tree.mem_roots_of_root ht hr)).1) (x.missingAreas areas)
    obtain rfl : _ = y := congrArg Prod.snd ((hrun built z hbuild).symm.trans hg)
    refine hl.subset fun t ht => ?_
    obtain ⟨a, -, ht⟩ := List.mem_flatMap.1 ht
    exact List.mem_append.2 ((List.mem_append.1 (List.mem_filter.1 ht).1).symm)

/-- The areas that a collect wants cover no other one. -/
theorem uncovered_of_wanted (h : ∀ t ∈ y.trees, ∃ a ∈ Area.dedup areas, sameArea a t.area = true) : y.Uncovered := by
  intro t ht u hu hrec hp
  obtain ⟨a, ha, hat⟩ := h t ht
  obtain ⟨b, hb, hbu⟩ := h u hu
  obtain ⟨hat, hrect⟩ := sameArea_iff.1 hat
  rw [← same_iff.1 hat, ← same_iff.1 (sameArea_iff.1 hbu).1] at hp ⊢
  exact components_eq_of_recursive ha hb (hrect.trans hrec) hp

theorem Gathering.orderly (h : y.Gathering) (hl : Level y.arena y.trees) (hu : y.Uncovered) : y.Orderly where
  sound := h.sound
  nested := h.nested
  distinct := hl.distinct
  uncovered := hu
  shallow t ht hrec r j k hr hj hk := absurd hk (hl.shallow t ht hrec r j k hr hj)
  anchored := hl.anchored

/-! ## Adoptions -/

namespace Adoption

variable {p : Nat} {parent child : Tree} {parentRoot childRoot : NodeId}
  (h : Adoption x p i parent child parentRoot childRoot s) (hm : x.Merging ((p, i) :: rest))
include h hm

theorem name?_adopted (hj : (x.adopted i s parentRoot childRoot).arena.contains j = true) :
    (x.adopted i s parentRoot childRoot).arena.name? j = x.arena.name? j := by
  obtain ⟨n, hn⟩ := contains_iff.1 hj
  obtain ⟨n', hn', hname, -⟩ := h.get?_adopted hm hn
  rw [name?_of_get? hn, name?_of_get? hn', hname]

/-- The tree has the name of the entry whose place it takes. -/
theorem distinct_adopted (hs : s ∉ Tree.roots x.trees) (hd : x.arena.Distinct) :
    (x.adopted i s parentRoot childRoot).arena.Distinct := by
  have ha := hm.sound.wellFormed
  have hy := (hm.adopted h hs).sound.wellFormed
  intro q
  by_cases hq : (x.adopted i s parentRoot childRoot).arena.contains q = true
  · rw [List.map_congr_left fun c hc => h.name?_adopted hm (contains_of_parent? (hy.mem_children.1 hc)),
      h.children_adopted hm ((h.contains_adopted hm).1 hq).2]
    have herase : (((x.arena.children q).erase s).map x.arena.name?).Nodup :=
      (hd q).sublist (List.erase_sublist.map _)
    split
    · rename_i hqp
      subst hqp
      obtain ⟨name, hname, hchild⟩ := h.displaced
      rw [List.map_append, List.map_singleton]
      refine List.nodup_append'.2 ⟨herase, List.nodup_singleton _, List.disjoint_singleton.2 fun hmem => ?_⟩
      obtain ⟨c, hc, hcn⟩ := List.mem_map.1 hmem
      have hsame : c = s := List.inj_on_of_nodup_map (hd q) (List.mem_of_mem_erase hc) (mem_children_of_child? hchild)
        (by rw [hcn, hname, name?_of_child? hchild])
      exact (ha.children_nodup q).not_mem_erase (hsame ▸ hc)
    · exact herase
  · rw [children_of_not_contains hq]
    exact List.nodup_nil

/-- An adoption leaves an index orderly. -/
theorem orderly_adopted (hs : s ∉ Tree.roots x.trees) (hx : x.Orderly) :
    (x.adopted i s parentRoot childRoot).Orderly := by
  have hnext := hm.adopted h hs
  have hroots := roots_adopted x i s parentRoot childRoot
  refine ⟨hnext.sound, hnext.nested, h.distinct_adopted hm hs hx.distinct, hx.uncovered.of_areas fun t ht => ?_,
    fun t ht hrec r j k hr hj hk => ?_, fun t ht => ?_⟩
  · obtain ⟨t', ht', htt⟩ := exists_mem_of_adopted ht
    exact ⟨t', ht', htt.area.symm⟩
  · obtain ⟨t', ht', htt⟩ := exists_mem_of_adopted ht
    rw [hroots]
    by_cases hjc : j = childRoot
    · exact hjc ▸ h.childRoot_mem
    · rw [h.parent?_adopted hm ((h.contains_adopted hm).1 (contains_of_parent? hj)).2, if_neg hjc] at hj
      rw [h.parent?_adopted hm ((h.contains_adopted hm).1 (contains_of_parent? hk)).2] at hk
      split at hk
      · exact Option.some.inj hk ▸ h.parentRoot_mem
      · exact hx.shallow t' ht' (htt.area ▸ hrec) r j k (htt.root ▸ hr) hj hk
  · obtain ⟨t', ht', htt⟩ := exists_mem_of_adopted ht
    refine (hx.anchored t' ht').congr htt.area fun r hr hlive => ?_
    obtain ⟨n, hn⟩ := contains_iff.1 hlive
    obtain ⟨m, hm', -, -, hanchor⟩ := h.get?_adopted hm hn
    exact ⟨htt.root ▸ hr, contains_iff.2 ⟨m, hm'⟩, by rw [anchor?_of_get? hn, anchor?_of_get? hm', hanchor]⟩

end Adoption

theorem Merging.orderly (h : x.Merging rest) (hs : MergeSpares x rest) (hx : x.Orderly)
    (hm : x.perform (adoptAll rest) = (.ok ⟨⟩, m)) : m.Orderly := by
  obtain ⟨m', hrun, -, horderly, -⟩ := Merging.induct (I := fun z _ => z.Orderly) h hs hx (fun _ _ _ _ _ _ hz => hz)
    fun z p c rest _ _ _ _ s hz ha hs horderly => ha.orderly_adopted hz hs horderly
  obtain rfl : m = m' := congrArg Prod.snd (hm.symm.trans hrun)
  exact horderly

/-! ## Runs -/

theorem Orderly.congr (h : x.Orderly) (ha : y.arena = x.arena) (ht : y.trees = x.trees) : y.Orderly where
  sound := h.sound.congr ha ht
  nested := by
    unfold Nested
    rw [ha, ht]
    exact h.nested
  distinct := ha ▸ h.distinct
  uncovered := by
    unfold Uncovered
    rw [ht]
    exact h.uncovered
  shallow := by
    unfold Shallow
    rw [ha, ht]
    exact h.shallow
  anchored := by
    rw [ha, ht]
    exact h.anchored

theorem Orderly.collect (h : x.Orderly) (hv : d.Valid) (hs : CollectSpares x d areas c) :
    (x.after d (.collect areas c)).Orderly := by
  obtain ⟨g, y, m, hgoes⟩ := exists_goes h.sound hs
  have hy := hgoes.gathering.orderly (h.level_gather hv hgoes.gathered) (uncovered_of_wanted hgoes.gathers.wanted)
  refine Orderly.congr ?_ hgoes.arena hgoes.trees
  cases hc : g.complete with
  | false => exact hgoes.canceled hc ▸ hy
  | true =>
    have hm := hgoes.merged hc
    rw [perform_merge] at hm
    exact hgoes.gathering.merging.orderly (hgoes.spares hc) hy hm

theorem Undisturbed.orderly (h : Undisturbed x y) (hx : x.Orderly) : y.Orderly :=
  (shrinks_of_links h.links h.trees).orderly hx h.sound
    (hx.distinct.congr h.links.children fun j => name?_of_stage? (h.stages j))
    (fun j _ => anchor?_of_stage? (h.stages j)) fun _ hj _ => h.trees ▸ hj

/-- **An operation that spares the roots leaves an index orderly.** -/
theorem Orderly.after (h : x.Orderly) (hv : d.Valid) (hs : SparesRoots x d o) : (x.after d o).Orderly := by
  have hx := h.sound
  have hy := (hx.after hs).1
  cases o with
  | collect areas c => exact h.collect hv hs
  | edit e => exact (ends_edit hx d e).realizes.orderly h hv hs
  | search queries c =>
    obtain ⟨hu, -⟩ := perform_multiSearch hx queries c
    have hafter : x.after d (.search queries c) = (x.perform (multiSearch queries c)).2 := by
      rw [Index.after, Operation.work, perform_discard]
    rw [hafter]
    exact hu.orderly h
  | live q c =>
    obtain ⟨⟨y, hu, hy⟩, -⟩ := perform_subscribedSearch hx q c
    rw [Index.after, Operation.work, perform_discard]
    rcases hy with hy | hy <;> rw [hy]
    · exact hu.orderly h
    · exact (hu.orderly h).congr rfl rfl
  | watch on =>
    obtain ⟨ha, hkeys⟩ := keys_watch hx d on
    exact (shrinks_after hx (by simp) (by simp)).orderly h hy (ha ▸ h.distinct) (fun j _ => by rw [ha]) fun j hj _ =>
      roots_congr hkeys ▸ hj

end FileIndex.Index
