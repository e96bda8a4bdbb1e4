/-
Names with a leading dot in an index that leaves out what is hidden. Below the root of a tree nothing has such a name but
the roots of other trees (`Veiled`). Every operation that comes back keeps this, also in an index that has lost roots, but
for a rename that gives such a name to a node that is no root (`GivesDot`).
-/
import FileIndex.Proofs.Index.Answering
import FileIndex.Proofs.Tree.Undotted

namespace FileIndex

open Arena

variable {x y : Index} {d : Disk} {a b : Arena} {t t' : Tree} {i : Nat} {id j : NodeId} {p old new : Path}
  {root : Option Path} {made : Option NodeId} {f : Node → Node} {name : String} {α : Type} {rs : List NodeId}
  {areas : List Area} {rest : List (Nat × Nat)} {o : Operation} {e : Edit}
  {run : List (Disk × Operation)} {s : Settings}

namespace Index

/-! ## Veiled indexes -/

/-- Whether nothing below the root of a tree has a name with a leading dot, but for the roots of other trees. -/
def Veiled (x : Index) : Prop := ∀ t ∈ x.trees, ∀ r, t.root = some r → ∀ j, x.arena.Below r j → j ≠ r →
  (∀ u ∈ x.trees, u.root ≠ some j) → ∀ name, x.arena.name? j = some name → isHiddenName name = false

theorem veiled_iff : x.Veiled ↔ x.arena.Veils (Tree.roots x.trees) := by
  constructor
  · intro h r hr j hb hj
    obtain ⟨t, ht, hroot⟩ := Tree.mem_roots.1 hr
    have hother : ∀ u ∈ x.trees, u.root ≠ some j := fun u hu hur => hj (Tree.mem_roots_of_root hu hur)
    exact h t ht r hroot j hb (fun he => hj (he ▸ hr)) hother
  · intro h t ht r hr j hb _ hother
    refine h r (Tree.mem_roots_of_root ht hr) j hb fun hj => ?_
    obtain ⟨u, hu, hur⟩ := Tree.mem_roots.1 hj
    exact hother u hu hur

/-- A veiled index that leaves out what is hidden, in an arena in order. -/
structure Veiling (x : Index) : Prop where
  wellFormed : x.arena.WellFormed
  includeHidden : x.includeHidden = false
  trees : ∀ t ∈ x.trees, t.includeHidden = false
  veils : x.arena.Veils (Tree.roots x.trees)

namespace Veiling

theorem veiled (h : x.Veiling) : x.Veiled := veiled_iff.2 h.veils

theorem withArena (h : x.Veiling) (hb : b.WellFormed) (hv : b.Veils (Tree.roots x.trees)) : (x.withArena b).Veiling :=
  ⟨hb, h.includeHidden, h.trees, hv⟩

theorem alike (h : x.Veiling) (hal : Alike x.arena b) : (x.withArena b).Veiling :=
  h.withArena (hal.sameLinks.wellFormed h.wellFormed) (h.veils.alike hal)

theorem congr (h : x.Veiling) (ha : y.arena = x.arena) (hi : y.includeHidden = x.includeHidden) (ht : y.trees = x.trees) :
    y.Veiling :=
  ⟨ha ▸ h.wellFormed, hi.trans h.includeHidden, ht ▸ h.trees, by rw [ha, ht]; exact h.veils⟩

/-- An index without trees. -/
theorem of_trees_eq_nil (ha : x.arena.WellFormed) (hi : x.includeHidden = false) (ht : x.trees = []) : x.Veiling :=
  ⟨ha, hi, by simp [ht], by rw [ht]; exact .nil _⟩

end Veiling

theorem veiling_ofSettings (hs : s.includeHidden = false) : (ofSettings s).Veiling :=
  .of_trees_eq_nil (sound_ofSettings s).wellFormed hs rfl

/-- Whether some work leaves an index veiled. -/
def Veils (x : Index) (w : IndexM α) : Prop := (x.perform w).2.Veiling

namespace Veils

variable {β : Type} {w : IndexM α} {f : α → IndexM β} {g : Index → Index}

/-- Work behind other work. -/
theorem bind (h : Veils x w) (hf : ∀ r y, x.perform w = (.ok r, y) → y.Veiling → Veils y (f r)) : Veils x (w >>= f) :=
  Leaves.bind h hf

theorem get {f : Index → IndexM β} (h : Veils x (f x)) : Veils x (get >>= f) := Leaves.get h

theorem lift {r : Except Fault α} (h : x.Veiling) (hf : ∀ v, r = .ok v → Veils x (f v)) :
    Veils x ((liftM r : IndexM α) >>= f) := Leaves.lift h hf

theorem modify {f : PUnit → IndexM β} (hf : Veils (g x) (f ⟨⟩)) : Veils x ((modify g : IndexM PUnit) >>= f) :=
  Leaves.modify hf

theorem set {f : PUnit → IndexM β} (hf : Veils y (f ⟨⟩)) : Veils x ((set y : IndexM PUnit) >>= f) := Leaves.set hf

end Veils

/-! ## Edits -/

theorem Veiling.add (h : x.Veiling) (hi : x.trees[i]? = some t) (hadd : t.add x.arena d p = .ok (made, t', b)) :
    ({ x with arena := b }.setTree i t').Veiling := by
  have ht := List.mem_of_getElem? hi
  have hnew := fun j => Tree.undotted_of_add (j := j) h.wellFormed (h.trees t ht) hadd
  have hself : x.trees.set i t = x.trees := by
    obtain ⟨hlt, rfl⟩ := List.getElem?_eq_some_iff.1 hi
    exact List.set_getElem_self hlt
  have hb := (Tree.maintains_add h.wellFormed hadd).wellFormed
  cases Tree.addOutcome_of_ok h.wellFormed hadd with
  | unchanged => exact ⟨hb, h.includeHidden, by simpa [setTree, hself] using h.trees, by simpa [setTree, hself] using h.veils⟩
  | below hr _ hs _ =>
    refine ⟨hb, h.includeHidden, by simpa [setTree, hself] using h.trees, ?_⟩
    rw [setTree, hself]
    exact h.veils.grown h.wellFormed hs.toGrown (fun _ hr => hr) (fun _ hr _ => hr) fun j hj hnot =>
      hnew j hj fun hroot => hnot (Tree.mem_roots_of_root ht hroot)
  | @root _ top _ hr hs _ =>
    obtain ⟨before, after, hts, hset⟩ := set_eq_append hi { t with root := some top }
    have hroots : ∀ r, r ∈ Tree.roots (x.trees.set i { t with root := some top }) ↔ r = top ∨ r ∈ Tree.roots x.trees := by
      intro r
      rw [hset, hts]
      simp only [Tree.roots_append, Tree.roots_cons, hr, Option.toList_none, Option.toList_some, List.nil_append,
        List.singleton_append, List.mem_append, List.mem_cons]
      tauto
    refine ⟨hb, h.includeHidden, fun u hu => ?_, ?_⟩
    · rcases List.mem_or_eq_of_mem_set hu with hu | rfl
      · exact h.trees u hu
      · exact h.trees t ht
    · refine h.veils.grown h.wellFormed hs.toGrown (fun r hr => (hroots r).2 (.inr hr)) (fun r hr hold => ?_) fun j hj hnot => ?_
      · refine ((hroots r).1 hr).resolve_left fun he => hs.fresh top (.refl b top) (he ▸ hold)
      · exact hnew j hj fun he => hnot ((hroots j).2 (.inl (Option.some.inj he).symm))

theorem veils_snapshotsBelow (h : x.Veiling) (id : NodeId) : Veils x (snapshotsBelow id) := h.alike (alike_snapshots _ _)

theorem veils_addPath (h : x.Veiling) (root : Option Path) (p : Path) : Veils x (addPath d root p) := by
  unfold addPath
  refine .get ?_
  split
  · exact h
  · rename_i i t ho
    refine .lift h fun v hadd => .set ?_
    obtain ⟨made, t', b⟩ := v
    have hy := h.add (get_of_owner? ho) hadd
    cases made with
    | none => exact hy
    | some id =>
      refine .bind (veils_snapshotsBelow hy id) fun nodes y _ hy => .lift hy fun bare _ => .modify ?_
      exact hy.congr rfl rfl rfl

theorem root_forget {r : NodeId} : (t.forget id).root = some r ↔ t.root = some r ∧ r ≠ id := by
  unfold Tree.forget
  split
  · rename_i hr
    simp only [reduceCtorEq, hr, Option.some.injEq, false_iff, not_and, not_not]
    exact Eq.symm
  · rename_i hr
    refine ⟨fun h => ⟨h, ?_⟩, And.left⟩
    rintro rfl
    exact hr h

/-- A tree that forgets a root that is gone. -/
theorem Veiling.forget (h : x.Veiling) (hi : x.trees[i]? = some t) (hgone : ¬x.arena.contains id = true) :
    (x.setTree i (t.forget id)).Veiling := by
  obtain ⟨before, after, hts, hset⟩ := set_eq_append hi (t.forget id)
  have hroots : ∀ r, r ∈ Tree.roots (x.trees.set i (t.forget id)) → r ∈ Tree.roots x.trees := by
    intro r
    rw [hset, hts]
    simp only [Tree.roots_append, Tree.roots_cons, List.mem_append, Option.mem_toList, root_forget]
    tauto
  have hkept : ∀ r, r ≠ id → r ∈ Tree.roots x.trees → r ∈ Tree.roots (x.trees.set i (t.forget id)) := by
    intro r hne
    rw [hset, hts]
    simp only [Tree.roots_append, Tree.roots_cons, List.mem_append, Option.mem_toList, root_forget]
    tauto
  refine ⟨h.wellFormed, h.includeHidden, fun u hu => ?_, ?_⟩
  · rcases List.mem_or_eq_of_mem_set hu with hu | rfl
    · exact h.trees u hu
    · unfold Tree.forget
      split <;> exact h.trees t (List.mem_of_getElem? hi)
  · refine h.veils.shrunk (fun _ hb => hb) (fun _ => rfl) hroots fun r hr hlive => hkept r ?_ hr
    rintro rfl
    exact hgone hlive

theorem Veiling.removed (h : x.Veiling) (hid : x.arena.contains id = true) (hc : Cut x.arena y.arena id)
    (hi : y.includeHidden = x.includeHidden) (ht : y.trees = x.trees.map (forgetRoots (x.arena.subtree id))) :
    y.Veiling := by
  refine ⟨hc.wellFormed, hi.trans h.includeHidden, ?_, ?_⟩
  · rw [ht]
    refine List.forall_mem_map.2 fun u hu => ?_
    unfold forgetRoots
    split <;> exact h.trees u hu
  · rw [ht, roots_forgetRoots]
    refine h.veils.cut hc (fun r hr => (List.mem_filter.1 hr).1) fun r hr hb => List.mem_filter.2 ⟨hr, ?_⟩
    simpa [h.wellFormed.mem_subtree hid] using hb

theorem veils_removePath (h : x.Veiling) (root : Option Path) (p : Path) : Veils x (removePath root p) := by
  unfold removePath
  refine .get ?_
  split
  · exact h
  · rename_i i t ho
    have hi := get_of_owner? ho
    refine .lift h fun found _ => ?_
    cases found with
    | none => exact h
    | some id =>
      refine .lift h fun bare _ => .modify ?_
      by_cases hid : x.arena.contains id = true
      · obtain ⟨b, htake, hl, hrest⟩ := Tree.takeOut_spec h.wellFormed hid p.parent?
        have hids := ids_takeOut h.wellFormed hid hl
        have htrees := map_forgetRoots_set (h.wellFormed.self_mem_subtree hid) hi
        unfold Veils
        simp only [perform_bind, perform_lift, setTree, htake, perform_modify, perform_snapshotsBelow, perform_pure]
        exact h.removed hid (cut_takeOut h.wellFormed hid hl hrest) rfl (hids ▸ htrees)
      · have hfault : Tree.takeOut x.arena id p.parent? = .error .releasedSlot := by
          rw [Tree.takeOut, if_pos (by simpa using hid)]
        unfold Veils
        simp only [perform_bind, perform_lift, setTree, hfault]
        exact h.forget hi hid

/-- Whether a rename to a path gives a name with a leading dot to a node that is no root. -/
def Dots (x : Index) (root : Option Path) (old new : Path) : Prop := ∃ i t id, x.owner? root old = some (i, t) ∧
  t.renames? x.arena old new = some id ∧ id ∉ Tree.roots x.trees ∧ isHiddenName new.entryName = true

theorem veils_renamePath (h : x.Veiling) (hno : ¬x.Dots root old new) : Veils x (renamePath d root old new) := by
  unfold renamePath
  refine .get ?_
  split
  · exact h
  · rename_i i t ho
    refine .lift h fun source _ => .lift h fun target _ => ?_
    -- What is replaced is looked at before, which knows more paths and changes nothing else.
    obtain ⟨replaced, c, hrun, hal⟩ := perform_replacedBy_ok x source target
    have hc := h.alike hal
    rw [Veils, perform_bind_ok hrun]
    change Veils (x.withArena c) _
    refine .get (.lift hc fun v hren => ?_)
    obtain ⟨found, b⟩ := v
    obtain ⟨-, hfound, hnone, hsome⟩ := Tree.rename_eq_ok hc.wellFormed hren
    cases found with
    | none =>
      obtain rfl := hnone rfl
      exact .modify (veils_addPath hc root new)
    | some id =>
      obtain ⟨hid, rfl⟩ := hsome id rfl
      have hplain : id ∉ Tree.roots x.trees → isHiddenName new.entryName = false := fun hnot => by
        rw [← Bool.not_eq_true]
        exact fun hdot => hno ⟨i, t, id, ho, by rw [hfound]; exact (Tree.renames?_alike hal).symm, hnot, hdot⟩
      have hb : ((x.withArena c).withArena ((c.cleared id new.entryName).renamed id new.entryName)).Veiling :=
        hc.withArena (Maintains.renamed (d := d) hc.wellFormed hid new.entryName).wellFormed
          ((hc.veils.cleared hc.wellFormed id new.entryName).renamed (contains_cleared hc.wellFormed hid _) hplain)
      refine .modify ?_
      have hfinish : ∀ z : Index, z.Veiling → Veils z (do
          let nodes ← snapshotsBelow id
          modify (·.publish (.rename nodes old))
          return nodes.head?) := fun z hz =>
        .bind (veils_snapshotsBelow hz id) fun nodes w _ hw => .modify (hw.congr rfl rfl rfl)
      dsimp only
      split
      · exact .modify (hfinish _ (hb.congr rfl rfl rfl))
      · exact hfinish _ hb

theorem veils_publishUpdate (h : x.Veiling) (id : NodeId) : Veils x (publishUpdate id) := by
  unfold publishUpdate
  refine .bind (show Veils x (snapshot id) from h.alike (alike_snapshot _ id)) fun s y _ hy => ?_
  cases s with
  | none => exact hy
  | some s => exact .modify (hy.congr rfl rfl rfl)

/-- A node that is changed in place keeps its links and its name. -/
theorem Veiling.change (h : x.Veiling) (hf : InPlace f) (hc : x.arena.change id f = .ok b) : (x.withArena b).Veiling := by
  unfold Arena.change at hc
  split at hc <;> cases hc
  have hl : x.arena.SameLinks (x.arena.modify id f) := sameLinks_modify hf.parent hf.children
  exact h.withArena (hl.wellFormed h.wellFormed) (h.veils.congr hl (name?_modify hf.name _ id))

theorem veils_refreshPath (h : x.Veiling) (root : Option Path) (p : Path) : Veils x (refreshPath d root p) := by
  unfold refreshPath
  refine .get ?_
  split
  · exact h
  · rename_i i t _
    refine .lift h fun v href => ?_
    obtain ⟨found, b⟩ := v
    have hb : (x.withArena b).Veiling := by
      unfold Tree.refresh at href
      obtain ⟨o, -, href⟩ := bind_eq_ok.1 href
      split at href
      · rename_i id metadata _
        obtain ⟨c, hc, href⟩ := bind_eq_ok.1 href
        cases href
        exact h.change (inPlace_metadata metadata) hc
      · cases href
        exact h
    refine .set ?_
    cases found with
    | none => exact hb
    | some id => exact veils_publishUpdate hb id

theorem veils_setPinned (h : x.Veiling) (p : Path) (on : Bool) : Veils x (setPinned p on) := by
  unfold setPinned
  refine .get ?_
  split
  · exact h
  · rename_i i t _
    refine .lift h fun v hpin => ?_
    obtain ⟨found, b⟩ := v
    have hb : (x.withArena b).Veiling := by
      unfold Tree.setPinned at hpin
      obtain ⟨o, -, hpin⟩ := bind_eq_ok.1 hpin
      split at hpin
      · obtain ⟨c, hc, hpin⟩ := bind_eq_ok.1 hpin
        cases hpin
        exact h.change (inPlace_pinned on) hc
      · cases hpin
        exact h
    refine .set ?_
    cases found with
    | none => exact hb
    | some id => exact veils_publishUpdate hb id

/-- Whether an edit gives a name with a leading dot to a node that is no root. -/
def Dotting (x : Index) : Edit → Prop
  | .rename root old new => x.Dots root old new
  | .event r (.renamed old new) => x.Dots (some r) old new
  | _ => False

theorem veils_applyChange (h : x.Veiling) {r : Path} {c : PathChange} (hno : ¬x.Dotting (.event r c)) :
    Veils x (applyChange d r c) := by
  unfold applyChange
  refine .get ?_
  split
  · exact h
  · cases c with
    | created p =>
      refine .bind (veils_addPath h (some r) p) fun found y _ hy => ?_
      split
      · exact .bind (veils_refreshPath hy (some r) p) fun _ _ _ hz => hz
      · exact hy
    | deleted p => exact .bind (veils_removePath h (some r) p) fun _ _ _ hy => hy
    | renamed old new => exact .bind (veils_renamePath h hno) fun _ _ _ hy => hy
    | changed p =>
      refine .bind (veils_refreshPath h (some r) p) fun found y _ hy => ?_
      split
      · exact .bind (veils_addPath hy (some r) p) fun _ _ _ hz => hz
      · exact hy

theorem veils_edit (h : x.Veiling) (hno : ¬x.Dotting e) : Veils x (e.work d) := by
  cases e with
  | add root p => exact .bind (veils_addPath h root p) fun _ _ _ hy => hy
  | remove root p => exact .bind (veils_removePath h root p) fun _ _ _ hy => hy
  | rename root old new => exact .bind (veils_renamePath h hno) fun _ _ _ hy => hy
  | refresh root p => exact .bind (veils_refreshPath h root p) fun _ _ _ hy => hy
  | pin p on => exact .bind (veils_setPinned h p on) fun _ _ _ hy => hy
  | event r c => exact veils_applyChange h hno

/-! ## Searches and watching -/

theorem veils_multiSearch (h : x.Veiling) (queries : List CompiledQuery) (c : Cancellation) :
    Veils x (multiSearch queries c) := by
  unfold multiSearch
  refine .get (.lift h fun items _ => .lift h fun v he => ?_)
  cases v with
  | none => exact h
  | some v =>
    obtain ⟨results, b⟩ := v
    have hb := h.alike (alike_evaluateAll he)
    have hs := settled_clearAdded { x with arena := b }
    refine .set (?_ : ({ x with arena := b }.clearAdded).Veiling)
    exact hb.withArena (hs.sameLinks.wellFormed hb.wellFormed) (hb.veils.congr hs.sameLinks fun j => name?_of_stage? (hs.stage? j))

theorem veils_subscribedSearch (h : x.Veiling) (q : CompiledQuery) (c : Cancellation) : Veils x (subscribedSearch q c) := by
  have hsearch : Veils x (search q c) := .bind (veils_multiSearch h [q] c) fun _ _ _ hy => hy
  refine .bind hsearch fun found y _ hy => ?_
  cases found with
  | none => exact hy
  | some found => exact hy.congr rfl rfl rfl

theorem frame_watchTree (d : Disk) (x : Index) (t : Tree) : BuildFrame x (x.perform (watchTree d t)).2 := by
  have hself : BuildFrame x x := ⟨rfl, rfl, rfl, rfl, rfl⟩
  simp only [watchTree, perform_bind, perform_get]
  split
  · rename_i root _ _
    simp only [perform_bind, perform_lift]
    cases x.arena.get root with
    | error fault => exact hself
    | ok n =>
      dsimp only
      split
      · exact ⟨rfl, rfl, rfl, rfl, rfl⟩
      · exact hself
  · exact hself

/-- A tree that is watched from now on is as it was. -/
theorem root_watchTree (hw : x.perform (watchTree d t) = (.ok t', y)) :
    t'.root = t.root ∧ t'.includeHidden = t.includeHidden := by
  simp only [watchTree, perform_bind, perform_get] at hw
  split at hw
  · rename_i root _ hroot
    simp only [perform_bind, perform_lift] at hw
    cases hn : x.arena.get root with
    | error fault =>
      rw [hn] at hw
      cases hw
    | ok n =>
      rw [hn] at hw
      dsimp only at hw
      split at hw <;> cases hw <;> exact ⟨rfl, rfl⟩
  · cases hw
    exact ⟨rfl, rfl⟩

theorem frame_watchTrees (d : Disk) (ts : List Tree) (x : Index) : BuildFrame x (x.perform (watchTrees d ts)).2 := by
  induction ts generalizing x with
  | nil => exact ⟨rfl, rfl, rfl, rfl, rfl⟩
  | cons t ts ih =>
    have hrest : ∀ (u : Tree) (y : Index), BuildFrame y (y.perform (do return u :: (← watchTrees d ts))).2 := by
      intro u y
      have hy := ih y
      rw [perform_bind]
      generalize y.perform (watchTrees d ts) = r at hy ⊢
      obtain ⟨fault | us, z⟩ := r <;> exact hy
    rw [watchTrees]
    split
    · exact hrest t x
    · have hone := frame_watchTree d x t
      rw [perform_bind]
      generalize x.perform (watchTree d t) = r at hone ⊢
      obtain ⟨fault | u, y⟩ := r
      · exact hone
      · exact hone.trans (hrest u y)

theorem roots_watchTrees {ts vs : List Tree} (hw : x.perform (watchTrees d ts) = (.ok vs, y)) :
    Tree.roots vs = Tree.roots ts ∧ ((∀ t ∈ ts, t.includeHidden = false) → ∀ v ∈ vs, v.includeHidden = false) := by
  induction ts generalizing x vs with
  | nil =>
    cases hw
    exact ⟨rfl, fun h => h⟩
  | cons t ts ih =>
    have hrest : ∀ (u : Tree) (z : Index), u.root = t.root → u.includeHidden = t.includeHidden →
        z.perform (do return u :: (← watchTrees d ts)) = (.ok vs, y) → Tree.roots vs = Tree.roots (t :: ts) ∧
          ((∀ u ∈ t :: ts, u.includeHidden = false) → ∀ v ∈ vs, v.includeHidden = false) := by
      intro u z hr hi hz
      rw [perform_bind] at hz
      cases hus : z.perform (watchTrees d ts) with
      | mk r w =>
        rw [hus] at hz
        cases r with
        | error fault => cases hz
        | ok us =>
          cases hz
          obtain ⟨hroots, hhidden⟩ := ih hus
          refine ⟨by rw [Tree.roots_cons, Tree.roots_cons, hr, hroots], fun h => List.forall_mem_cons.2 ⟨?_, ?_⟩⟩
          · exact hi.trans (h t List.mem_cons_self)
          · exact hhidden fun v hv => h v (List.mem_cons_of_mem _ hv)
    rw [watchTrees] at hw
    split at hw
    · exact hrest t x rfl rfl hw
    · rw [perform_bind] at hw
      cases hu : x.perform (watchTree d t) with
      | mk r z =>
        rw [hu] at hw
        cases r with
        | error fault => cases hw
        | ok u => exact hrest u z (root_watchTree hu).1 (root_watchTree hu).2 hw

theorem veils_setWatching (h : x.Veiling) (on : Bool) : Veils x (setWatching d on) := by
  unfold setWatching
  refine .get (.modify ?_)
  cases on with
  | false =>
    refine ⟨h.wellFormed, h.includeHidden, ?_, ?_⟩
    · exact List.forall_mem_map.2 h.trees
    · have hroots : Tree.roots (x.trees.map fun t => { t with watcher := none }) = Tree.roots x.trees := by
        rw [Tree.roots, List.filterMap_map]
        rfl
      exact hroots ▸ h.veils
  | true =>
    -- While the trees are looked at the index has none, and so it stays where that runs into a fault.
    have hend : ∀ z : Index, z.arena = x.arena → z.includeHidden = false → z.trees = [] →
        Veils z (do modify (·.withTrees (← watchTrees d x.trees))) := by
      intro z ha hi ht
      have harena := (arena_watchTrees d x.trees z).trans ha
      have hframe := frame_watchTrees d x.trees z
      unfold Veils
      rw [perform_bind]
      cases hw : z.perform (watchTrees d x.trees) with
      | mk r y =>
        rw [hw] at harena hframe
        cases r with
        | error fault =>
          exact .of_trees_eq_nil (harena ▸ h.wellFormed) (hframe.includeHidden.trans hi) (hframe.trees.trans ht)
        | ok vs =>
          obtain ⟨hroots, hhidden⟩ := roots_watchTrees hw
          refine ⟨harena ▸ h.wellFormed, hframe.includeHidden.trans hi, hhidden h.trees, ?_⟩
          change y.arena.Veils (Tree.roots vs)
          rw [hroots, harena]
          exact h.veils
    exact hend _ rfl h.includeHidden rfl

/-! ## Gathering -/

theorem veils_of_mem {ks : List NodeId} (h : a.Veils rs) (hmem : ∀ r, r ∈ ks ↔ r ∈ rs) : a.Veils ks :=
  h.shrunk (fun _ hb => hb) (fun _ => rfl) (fun r => (hmem r).1) fun r hr _ => (hmem r).2 hr

theorem veils_detachRoots (h : a.Veils rs) (ha : a.WellFormed) (ts : List Tree) :
    (detachRoots a ts).Veils rs ∧ (detachRoots a ts).WellFormed := by
  induction ts generalizing a with
  | nil => exact ⟨h, ha⟩
  | cons t ts ih =>
    rw [detachRoots, List.foldl_cons]
    cases t.root with
    | none => exact ih h ha
    | some r => exact ih (h.detach ha r) (((ha.detached_detach r).unlinked ha).wellFormed ha)

/-- The roots of the trees that are released are gone. -/
theorem veils_releaseTrees {ts : List Tree} (h : a.Veils (Tree.roots ts ++ rs)) (ha : a.WellFormed) :
    (releaseTrees a ts).Veils rs ∧ (releaseTrees a ts).WellFormed := by
  induction ts generalizing a with
  | nil => exact ⟨h, ha⟩
  | cons t ts ih =>
    rw [releaseTrees, List.foldl_cons, release_arena]
    rw [Tree.roots_cons, List.append_assoc] at h
    cases hr : t.root with
    | none =>
      rw [hr] at h
      exact ih h ha
    | some r =>
      rw [hr] at h
      have hc := ha.cut_cutAt r
      refine ih (h.cut hc (fun _ => List.mem_cons_of_mem r) fun q hq hb => (List.mem_cons.1 hq).resolve_left ?_) hc.wellFormed
      rintro rfl
      exact hb (.refl a q)

theorem veils_emptied (h : x.Veiling) (areas : List Area) :
    (x.emptied areas).arena.Veils (Tree.roots (x.keptTrees areas)) ∧ (x.emptied areas).arena.WellFormed := by
  obtain ⟨hv, hseparate⟩ := veils_detachRoots h.veils h.wellFormed (x.trees.filter (·.isChild))
  exact veils_releaseTrees (veils_of_mem hv fun r => (roots_parted x areas).mem_iff) hseparate

/-- A tree that is built has no name with a leading dot below its root. -/
theorem veils_ofCollected (h : a.Veils rs) (ha : a.WellFormed) (d : Disk) (area : Area) :
    ∃ t b, Tree.ofCollected area false (Tree.found? d false area) a = .ok (t, b) ∧ t.area = area ∧ t.includeHidden = false ∧
      b.WellFormed ∧ b.Veils (t.root.toList ++ rs) ∧ ∀ r, t.root = some r → b.contains r = true := by
  unfold Tree.found?
  cases d.find? false area.path with
  | none => exact ⟨_, a, rfl, rfl, rfl, ha, h, nofun⟩
  | some e =>
    obtain ⟨root, b, hb, hs, -, hbelow⟩ := ha.undotted_taken (s := Tree.scope area false) rfl area.path.entryName e
    have hl := sameLinks_setAnchor b root area.path.parent?
    refine ⟨_, _, by rw [Option.map_some, Tree.ofCollected, hb, ok_map], rfl, rfl, hl.wellFormed hs.wellFormed, ?_, ?_⟩
    · refine (h.grown ha hs.toGrown (fun _ => List.mem_cons_of_mem root) (fun r hr hold => ?_) fun j hj hnot => ?_).congr hl
        (name?_setAnchor b root _)
      · exact (List.mem_cons.1 hr).resolve_left fun he => hs.fresh root (.refl b root) (he ▸ hold)
      · exact hs.discreet hbelow j hj fun he => hnot (he ▸ List.mem_cons_self)
    · intro r hr
      obtain rfl := Option.some.inj hr
      rw [hl.contains, hs.contains_top]

theorem veils_build (h : x.arena.Veils rs) (ha : x.arena.WellFormed) (hi : x.includeHidden = false) (d : Disk)
    (areas : List Area) : ∃ built y, x.perform (build d (areas.map fun a => (a, Tree.found? d false a))) = (.ok built, y) ∧
      built.map (·.area) = areas ∧ (∀ t ∈ built, t.includeHidden = false) ∧ y.includeHidden = false ∧ y.arena.WellFormed ∧
      y.arena.Veils (Tree.roots built ++ rs) := by
  induction areas generalizing x rs with
  | nil => exact ⟨[], x, rfl, rfl, nofun, hi, ha, h⟩
  | cons area areas ih =>
    obtain ⟨t, b, hof, harea, hhidden, hb, hv, hlive⟩ := veils_ofCollected h ha d area
    obtain ⟨u, y, hwatch, hua, hur, -, huh, hya, hframe⟩ := perform_watchTree d (x.withArena b) t hlive
    have hvy : y.arena.Veils (t.root.toList ++ rs) := by rw [hya]; exact hv
    obtain ⟨built, z, hbuild, hareas, hbh, hzi, hz, hvz⟩ :=
      ih hvy (by rw [hya]; exact hb) (hframe.includeHidden.trans hi)
    refine ⟨u :: built, z, ?_, by rw [List.map_cons, hua, harea, hareas], ?_, hzi, hz, veils_of_mem hvz fun r => ?_⟩
    · simp only [List.map_cons, build, perform_bind, perform_get, perform_lift, hi, hof, perform_set, hwatch, hbuild,
        perform_pure]
    · exact List.forall_mem_cons.2 ⟨huh.trans hhidden, hbh⟩
    · simp only [Tree.roots_cons, hur, List.mem_append]
      tauto

theorem mem_inOrder {wanted : List Area} {ts : List Tree} :
    t ∈ inOrder wanted ts ↔ t ∈ ts ∧ ∃ area ∈ wanted, sameArea area t.area = true := by
  simp only [inOrder, List.mem_flatMap, List.mem_filter]
  tauto

theorem veils_gather (h : x.Veiling) (areas : List Area) (c : Cancellation) : Veils x (gather d areas c) := by
  obtain ⟨hv, hwf⟩ := veils_emptied h areas
  have hkept : ∀ t ∈ x.keptTrees areas, t.includeHidden = false := fun t ht => by
    obtain ⟨u, hu, rfl⟩ := List.mem_map.1 ((keptTrees_sublist x areas).subset ht)
    exact h.trees u hu
  unfold Veils
  rcases gather_cases x d areas c with ⟨-, hrun⟩ | hrun
  · rw [hrun]
    exact ⟨hwf, h.includeHidden, hkept, hv⟩
  · obtain ⟨built, y, hbuild, hareas, hbh, hyi, hy, hvy⟩ := veils_build hv hwf h.includeHidden d (x.missingAreas areas)
    rw [hrun built y (h.includeHidden ▸ hbuild)]
    refine ⟨hy, hyi, fun t ht => ?_, veils_of_mem hvy fun r => ?_⟩
    · rcases List.mem_append.1 (mem_inOrder.1 ht).1 with ht | ht
      · exact hkept t ht
      · exact hbh t ht
    · -- Every tree that was kept or built is one of a wanted area.
      have hall : ∀ t, t ∈ inOrder (Area.dedup areas) (x.keptTrees areas ++ built) ↔ t ∈ x.keptTrees areas ++ built := by
        intro t
        refine mem_inOrder.trans (and_iff_left_of_imp fun ht => ?_)
        rcases List.mem_append.1 ht with ht | ht
        · exact wanted_of_kept ht
        · have hmem : t.area ∈ built.map (·.area) := List.mem_map_of_mem ht
          rw [hareas] at hmem
          exact ⟨t.area, (List.mem_filter.1 hmem).1, sameArea_iff.2 ⟨same_iff.2 rfl, rfl⟩⟩
      change r ∈ Tree.roots (inOrder (Area.dedup areas) (x.keptTrees areas ++ built)) ↔ _
      rw [List.mem_append, Tree.mem_roots, Tree.mem_roots, Tree.mem_roots]
      simp only [hall, List.mem_append, or_and_right, exists_or]
      exact or_comm

/-! ## Collecting -/

theorem veils_adopt {p c : Nat} (h : x.Veiling) (hc : ¬ClosesCircle x p c) : Veils x (adopt p c) := by
  unfold Veils
  rcases adopt_cases h.wellFormed hc with hsame | ⟨parent, child, parentRoot, childRoot, s, ha, hs, htop, hpar, hb, hname, hy⟩
  · rw [hsame]
    exact h
  · obtain ⟨-, -, hpar', hl, hwf⟩ := linked_adopted h.wellFormed hs ha.other htop hpar hb
    have hcut : (x.arena.cutAt s).Veils (Tree.roots x.trees) :=
      h.veils.cut (h.wellFormed.cut_cutAt s) (fun _ hr => hr) fun _ hr _ => hr
    have hmem := Tree.mem_roots_of_root (List.mem_of_getElem? ha.child_get) ha.child_root
    rw [hy]
    refine ⟨hwf, h.includeHidden, fun u hu => ?_, ?_⟩
    · obtain ⟨t, ht, hsame⟩ := exists_mem_of_adopted hu
      exact hsame.includeHidden.trans (h.trees t ht)
    · rw [roots_adopted]
      exact hcut.linked hl hpar' hmem (name?_attached _ parentRoot childRoot)

theorem veils_adoptAll (h : x.Veiling) (hr : MergeReturns x rest) : Veils x (adoptAll rest) := by
  induction rest generalizing x with
  | nil => exact h
  | cons pc rest ih => exact .bind (veils_adopt h hr.1) fun _ y hy hyv => ih hyv (hr.2 y hy)

theorem veils_collect {c : Cancellation} (h : x.Veiling) (hr : CollectReturns x d areas c) :
    Veils x (collect d areas c) := by
  refine .bind (veils_gather h areas c) fun g y hy hyv => ?_
  have hfinish : ∀ z : Index, z.Veiling → Veils z (do
      let n ← recount
      publishReset g.changed
      return if g.complete then some n else none) := fun z hz => by
    refine .bind (.get (.lift hz fun n _ => hz.congr rfl rfl rfl)) fun n w _ hw => ?_
    unfold publishReset
    split
    · exact hw.congr rfl rfl rfl
    · exact hw
  cases hc : g.complete with
  | false => simpa [hc] using hfinish y hyv
  | true =>
    have hm : Veils y merge := veils_adoptAll hyv (hr g y hy hc)
    simp only [if_true]
    refine .bind hm fun _ z _ hz => ?_
    simpa [hc] using hfinish z hz

/-! ## Runs -/

/-- Whether an operation gives a name with a leading dot to a node that is no root. -/
def GivesDot (x : Index) : Operation → Prop
  | .edit e => x.Dotting e
  | .collect _ _ | .search _ _ | .live _ _ | .watch _ => False

/-- **An operation that comes back leaves an index veiled**, if it gives no such name itself. -/
theorem Veiling.after (h : x.Veiling) (hr : Returns x d o) (hno : ¬x.GivesDot o) : (x.after d o).Veiling := by
  have hwork : Veils x (o.work d) := by
    cases o with
    | collect areas c => exact .bind (veils_collect h hr) fun _ _ _ hy => hy
    | edit e => exact veils_edit h hno
    | search queries c => exact .bind (veils_multiSearch h queries c) fun _ _ _ hy => hy
    | live q c => exact .bind (veils_subscribedSearch h q c) fun _ _ _ hy => hy
    | watch on => exact veils_setWatching h on
  exact hwork

theorem below_cleared (h : a.WellFormed) : (a.cleared id name).Below j id ↔ a.Below j id := by
  unfold Arena.cleared
  split
  · rename_i s hs
    exact (h.cut_cutAt s).below_rest (not_below_rival h hs)
  · rfl

/-- A rename to a name with a leading dot is done, and the node stands below a root that is there. -/
theorem not_veiled_renamePath (h : x.arena.WellFormed) (hdots : x.Dots root old new) :
    ¬(x.perform (renamePath d root old new)).2.Veiled := by
  obtain ⟨i, t, id, ho, hid, hno, hdot⟩ := hdots
  have ht := mem_of_owner? ho
  obtain ⟨r, hr, hb⟩ := Tree.below_of_located? h (Tree.located?_of_renames? hid)
  have hne : id ≠ r := fun he => hno (he ▸ Tree.mem_roots_of_root ht hr)
  have hlive : ∀ q, t.root = some q → x.arena.contains q = true := fun q hq => by
    obtain rfl := Option.some.inj (hr.symm.trans hq)
    rcases hb.cases_head with he | ⟨k, hk, -⟩
    · exact absurd he.symm hne
    · exact h.contains_parent hk
  have hmove : old.sameParent new = true := by
    unfold Tree.renames? at hid
    split at hid
    · rename_i hcond
      exact hcond.1
    · cases hid
  obtain ⟨b, hal, -, -, hsome⟩ := perform_renamePath_looked (d := d) ho (Tree.locate_eq h hlive) (Tree.locate_eq h hlive)
  have hbwf := hal.sameLinks.wellFormed h
  have hidb : b.contains id = true := by rw [hal.contains, hb.contains (hlive r hr)]
  have hren : t.rename b old new = .ok (some id, (b.cleared id new.entryName).renamed id new.entryName) := by
    rw [Tree.rename_eq hbwf (fun q hq => by rw [hal.contains, hlive q hq]) hmove, Tree.renames?_alike hal, hid]
  have hl := sameLinks_renamed (b.cleared id new.entryName) id new.entryName
  have hcid := contains_cleared hbwf hidb new.entryName
  obtain ⟨snap, y, hy, -, haly, htrees⟩ := hsome id _ (hl.wellFormed (hbwf.cleared id _)) (by rw [hl.contains, hcid]) hren
  rw [hy]
  intro hveiled
  have hplain := hveiled t (htrees ▸ ht) r hr id (by
    rw [haly.sameLinks.below, hl.below, below_cleared hbwf, hal.sameLinks.below]
    exact hb) hne (fun u hu hur => hno (Tree.mem_roots_of_root (htrees ▸ hu) hur)) new.entryName
    (by rw [haly.name?, name?_renamed hcid])
  rw [hdot] at hplain
  cases hplain

theorem not_veiled_after (h : x.arena.WellFormed) (hdots : x.GivesDot o) : ¬(x.after d o).Veiled := by
  cases o with
  | edit e =>
    rw [after, Operation.work]
    cases e with
    | rename root old new =>
      rw [Edit.work, perform_discard]
      exact not_veiled_renamePath h hdots
    | event r c =>
      cases c with
      | renamed old new =>
        have hnames : x.Dots (some r) old new := hdots
        obtain ⟨_, _, _, ho, -⟩ := hnames
        rw [perform_event_renamed ho]
        exact not_veiled_renamePath h hdots
      | created | deleted | changed => exact absurd hdots id
    | add | remove | refresh | pin => exact absurd hdots id
  | collect | search | live | watch => exact absurd hdots id

/-- **In a run that leaves out what is hidden no index has a name with a leading dot below a root**, but for the roots of
other trees, exactly if no operation gives such a name to a node that is no root. -/
theorem throughout_veiled_iff (s : Settings) (hs : s.includeHidden = false) (run : List (Disk × Operation))
    (hr : Throughout Returns (ofSettings s) run) : Throughout (fun x d o => (x.after d o).Veiled) (ofSettings s) run ↔
      Throughout (fun x _ o => ¬x.GivesDot o) (ofSettings s) run := by
  refine Along.iff_along hr (veiling_ofSettings hs) (fun x i h hr => ⟨fun hv hdots => ?_, fun hno => ?_⟩) fun x i h hr hno => ?_
  · exact not_veiled_after h.wellFormed hdots hv
  · exact (h.after hr hno).veiled
  · exact h.after hr hno

/-! ## A file that gets a leading dot -/

/-- The settings that leave out what is hidden. -/
def discreet : Settings := { includeHidden := false }

/-- The index of a directory with two files that leaves out what is hidden. -/
def discreetIndex : Index :=
  { filledIndex with
    includeHidden := false
    trees := [{ area := ⟨⟨"a"⟩, true⟩, root := some ⟨0⟩, includeHidden := false }] }

theorem after_collect_discreet :
    (ofSettings discreet).after (rootDisk filled) (.collect [⟨⟨"a"⟩, true⟩] {}) = discreetIndex := by
  cbv

theorem returns_collect_discreet : Returns (ofSettings discreet) (rootDisk filled) (.collect [⟨⟨"a"⟩, true⟩] {}) := by
  refine (sound_ofSettings discreet).returns (by_contra fun hs => ?_)
  obtain ⟨r, hgone, hroot⟩ := (sound_ofSettings discreet).exists_lost_after hs
  rw [after_collect_discreet] at hgone hroot
  obtain rfl : r = ⟨0⟩ := List.mem_singleton.1 hroot
  cases hgone

/-- The directory is collected, and one of its files gets another name. -/
def plainRun : List (Disk × Operation) :=
  [(rootDisk filled, .collect [⟨⟨"a"⟩, true⟩] {}), (rootDisk filled, .edit (.event ⟨"a"⟩ (.renamed ⟨"a/x"⟩ ⟨"a/z"⟩)))]

theorem throughout_veiled_iff_plain : Throughout Returns (ofSettings discreet) plainRun ∧
    Throughout (fun x d o => (x.after d o).Veiled) (ofSettings discreet) plainRun := by
  have hr : Throughout Returns (ofSettings discreet) plainRun := ⟨returns_collect_discreet, trivial, trivial⟩
  refine ⟨hr, (throughout_veiled_iff discreet rfl plainRun hr).2 ⟨id, ?_, trivial⟩⟩
  rintro ⟨-, -, -, -, -, -, hdot⟩
  exact absurd hdot (by decide +kernel)

/-- The directory once one of its files has got a leading dot. -/
def dottedDisk : Disk := rootDisk (.directory [(".x", .file (.zeros 0) 0 false), ("y", .file (.zeros 0) 0 false)])

/-- **Not every index that leaves out what is hidden is without names with a leading dot**: a file that is renamed to one
stays. -/
theorem not_forall_veiled : ¬∀ s run, s.includeHidden = false → Throughout Returns (ofSettings s) run →
    ((ofSettings s).behind run).Veiled := by
  intro h
  have hdots : discreetIndex.GivesDot (.edit (.event ⟨"a"⟩ (.renamed ⟨"a/x"⟩ ⟨"a/.x"⟩))) := by
    refine ⟨0, { area := ⟨⟨"a"⟩, true⟩, root := some ⟨0⟩, includeHidden := false }, ⟨1⟩, rfl, rfl, ?_, by decide +kernel⟩
    simp [discreetIndex, Tree.roots]
  have hwf : discreetIndex.arena.WellFormed := by
    rw [← after_collect_discreet]
    exact (maintains_after (sound_ofSettings discreet).wellFormed returns_collect_discreet).wellFormed
  have hlast := h discreet [(rootDisk filled, .collect [⟨⟨"a"⟩, true⟩] {}),
    (dottedDisk, .edit (.event ⟨"a"⟩ (.renamed ⟨"a/x"⟩ ⟨"a/.x"⟩)))] rfl ⟨returns_collect_discreet, trivial, trivial⟩
  simp only [behind, List.foldl_cons, List.foldl_nil, step, after_collect_discreet] at hlast
  exact not_veiled_after hwf hdots hlast

end Index

end FileIndex
