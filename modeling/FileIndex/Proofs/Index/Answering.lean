/-
What the operations on one path answer, and what they leave of the arena and the trees, in any index whose arena is in
order. Its trees may have lost their roots, so that a look-up may end in a fault; nothing has changed then.
-/
import FileIndex.Proofs.Index.Intact

namespace FileIndex

open Arena

variable {x : Index} {d : Disk} {a b : Arena} {t t' : Tree} {i : Nat} {id top : NodeId} {p old new : Path}
  {root : Option Path} {fault : Fault} {on : Bool}

/-- A node stands first among the snapshots of all that is at and below it. -/
theorem Arena.WellFormed.exists_head?_snapshots (h : a.WellFormed) (hid : a.contains id = true) :
    ∃ s, (a.snapshots (a.subtree id)).1.head? = some s ∧ s.id = id := by
  have hids := h.snapshots_ids (a.subtree id)
  rw [h.subtree_eq hid, List.filter_cons_of_pos hid] at hids
  obtain ⟨s, nodes, hs, hid, -⟩ := List.map_eq_cons_iff.1 hids
  rw [h.subtree_eq (by assumption), hs]
  exact ⟨s, rfl, hid⟩

namespace Tree

/-! ## Look-ups -/

theorem findNamed_alike (h : Alike a b) (name : String) (ids : List NodeId) :
    findNamed b name ids = findNamed a name ids := by
  induction ids with
  | nil => rfl
  | cons j ids ih =>
    have hname := h.name? j
    unfold name? at hname
    rw [findNamed, findNamed, ih, Arena.get, Arena.get]
    cases hb : b.get? j with
    | none => rw [hb] at hname; cases ha : a.get? j <;> simp_all
    | some m => rw [hb] at hname; cases ha : a.get? j <;> simp_all

theorem findChild_alike (h : Alike a b) (parent : NodeId) (name : String) :
    findChild b parent name = findChild a parent name := by
  have hchildren := h.children parent
  have hlive := h.contains parent
  unfold children at hchildren
  unfold Arena.contains at hlive
  rw [findChild, findChild, Arena.get, Arena.get]
  cases hb : b.get? parent <;> cases ha : a.get? parent <;> simp_all [findNamed_alike h]

theorem locateBelow_alike (h : Alike a b) (current : NodeId) (rest : List Path.Component) :
    locateBelow b current rest = locateBelow a current rest := by
  induction rest generalizing current with
  | nil => rfl
  | cons c rest ih => cases c <;> simp only [locateBelow, findChild_alike h, ih]

/-- Look-ups do not see which paths are known, also where they fault. -/
theorem locate_alike (h : Alike a b) (t : Tree) (q : Path) : t.locate b q = t.locate a q := by
  simp only [locate, locateBelow_alike h]

end Tree

namespace Index

/-! ## Additions -/

theorem perform_addPath_error (ho : x.owner? root p = some (i, t)) (hadd : t.add x.arena d p = .error fault) :
    x.perform (addPath d root p) = (.error fault, x) := by
  simp only [addPath, perform_bind, perform_get, ho, perform_lift, hadd]

theorem perform_addPath_none (ho : x.owner? root p = some (i, t)) (hadd : t.add x.arena d p = .ok (none, t', b)) :
    x.perform (addPath d root p) = (.ok none, { x with arena := b, trees := x.trees.set i t' }) := by
  simp only [addPath, perform_bind, perform_get, ho, perform_lift, hadd, perform_set, perform_pure]
  rfl

theorem perform_addPath_some (h : x.arena.WellFormed) (ho : x.owner? root p = some (i, t))
    (hadd : t.add x.arena d p = .ok (some top, t', b)) :
    ∃ s y, x.perform (addPath d root p) = (.ok (some s), y) ∧ s.id = top ∧ Alike b y.arena ∧
      y.trees = x.trees.set i t' := by
  have hb := (Tree.maintains_add h hadd).wellFormed
  have htop := addOutcome_contains (Tree.addOutcome_of_ok h hadd)
  obtain ⟨s, hs, hid⟩ := hb.exists_head?_snapshots htop
  refine ⟨s, (x.perform (addPath d root p)).2, ?_⟩
  simp only [addPath, perform_bind, perform_get, ho, perform_lift, hadd, perform_set, perform_snapshotsBelow,
    isBareRoot_eq htop, perform_modify, perform_pure]
  exact ⟨Prod.ext (congrArg Except.ok hs) rfl, hid, alike_snapshots b _, rfl⟩

/-! ## Changes in place -/

theorem perform_publishUpdate_some (h : x.arena.WellFormed) (hid : x.arena.contains id = true) :
    ∃ s y, x.perform (publishUpdate id) = (.ok (some s), y) ∧ s.id = id ∧ Alike x.arena y.arena ∧
      y.trees = x.trees := by
  have hids := h.snapshots_ids [id]
  rw [List.filter_cons_of_pos hid, List.filter_nil] at hids
  obtain ⟨s, hs, hsid⟩ : ∃ s, (x.arena.snapshot id).1 = some s ∧ s.id = id := by
    have hone : (x.arena.snapshots [id]).1 = (x.arena.snapshot id).1.toList := by simp [snapshots]
    rw [hone] at hids
    cases hs : (x.arena.snapshot id).1 with
    | none => rw [hs] at hids; cases hids
    | some s => rw [hs] at hids; exact ⟨s, rfl, by simpa using hids⟩
  have hsnap : x.perform (snapshot id) = (.ok (some s), { x with arena := (x.arena.snapshot id).2 }) := by
    rw [← hs]
    rfl
  refine ⟨s, publish { x with arena := (x.arena.snapshot id).2 } (.update [s]), ?_, hsid, alike_snapshot x.arena id, rfl⟩
  simp only [publishUpdate, perform_bind, hsnap, perform_modify, perform_pure]

theorem perform_refreshPath_error (ho : x.owner? root p = some (i, t)) (hre : t.refresh x.arena d p = .error fault) :
    x.perform (refreshPath d root p) = (.error fault, x) := by
  simp only [refreshPath, perform_bind, perform_get, ho, perform_lift, hre]

theorem perform_refreshPath_none (ho : x.owner? root p = some (i, t)) (hre : t.refresh x.arena d p = .ok (none, b)) :
    x.perform (refreshPath d root p) = (.ok none, x) := by
  obtain rfl : b = x.arena := by
    unfold Tree.refresh at hre
    obtain ⟨found, -, hre⟩ := bind_eq_ok.1 hre
    split at hre
    · obtain ⟨c, -, hre⟩ := bind_eq_ok.1 hre
      cases hre
    · cases hre
      rfl
  simp only [refreshPath, perform_bind, perform_get, ho, perform_lift, hre, perform_set, perform_pure]
  rfl

theorem perform_refreshPath_some (h : x.arena.WellFormed) (ho : x.owner? root p = some (i, t))
    (hre : t.refresh x.arena d p = .ok (some id, b)) :
    ∃ s y metadata, x.perform (refreshPath d root p) = (.ok (some s), y) ∧ s.id = id ∧
      t.located? x.arena p = some id ∧ x.arena.contains id = true ∧ d.metadata? p = some metadata ∧
      Alike (Tree.refreshed x.arena id metadata) y.arena ∧ y.trees = x.trees := by
  have hrefresh := hre
  unfold Tree.refresh at hre
  obtain ⟨found, hl, hre⟩ := bind_eq_ok.1 hre
  cases Tree.locate_eq_ok h hl
  split at hre
  · rename_i j metadata hj hm
    obtain ⟨c, hc, hre⟩ := bind_eq_ok.1 hre
    cases hre
    have hid : x.arena.contains id = true := by
      by_contra hgone
      rw [Arena.change, if_neg hgone] at hc
      cases hc
    rw [Tree.change_eq hid, Except.ok.injEq] at hc
    subst hc
    have hl : SameLinks x.arena (Tree.refreshed x.arena id metadata) := sameLinks_modify (fun _ => rfl) fun _ => rfl
    obtain ⟨s, y, hrun, hs, hal, hts⟩ := perform_publishUpdate_some
      (x := x.withArena (Tree.refreshed x.arena id metadata)) (hl.wellFormed h) (hl.contains id ▸ hid)
    refine ⟨s, y, metadata, ?_, hs, hj, hid, hm, hal, hts⟩
    simp only [refreshPath, perform_bind, perform_get, ho, perform_lift, hrefresh, perform_set]
    exact hrun
  · cases hre

theorem perform_setPinned_answer (h : x.arena.WellFormed) (p : Path) (on : Bool) :
    (x.perform (setPinned p on)).2 = x ∨ ∃ s, (x.perform (setPinned p on)).1 = .ok (some s) := by
  cases ho : x.owner? none p with
  | none => exact .inl (by rw [perform_setPinned_unowned ho])
  | some it =>
    obtain ⟨i, t⟩ := it
    cases hpin : t.setPinned x.arena p on with
    | error fault => exact .inl (by simp only [setPinned, perform_bind, perform_get, ho, perform_lift, hpin])
    | ok v =>
      obtain ⟨found, b⟩ := v
      have hrun : x.perform (setPinned p on) = (x.withArena b).perform (found.elim (return none) publishUpdate) := by
        cases found <;> simp only [setPinned, perform_bind, perform_get, ho, perform_lift, hpin, perform_set, withArena,
          Option.elim_none, Option.elim_some]
      unfold Tree.setPinned at hpin
      obtain ⟨o, -, hpin⟩ := bind_eq_ok.1 hpin
      split at hpin
      · rename_i id
        obtain ⟨c, hc, hpin⟩ := bind_eq_ok.1 hpin
        cases hpin
        have hid : x.arena.contains id = true := by
          by_contra hgone
          rw [Arena.change, if_neg hgone] at hc
          cases hc
        have hb := maintains_change (d := ⟨.directory []⟩) h (inPlace_pinned on) hc
        rw [Tree.change_eq hid, Except.ok.injEq] at hc
        have hl : SameLinks x.arena b := hc ▸ sameLinks_modify (fun _ => rfl) fun _ => rfl
        obtain ⟨s, y, hy, -⟩ := perform_publishUpdate_some (x := x.withArena b) hb.wellFormed (hl.contains id ▸ hid)
        exact .inr ⟨s, by rw [hrun]; exact congrArg Prod.fst hy⟩
      · cases hpin
        exact .inl (by rw [hrun]; rfl)

/-! ## Removals -/

theorem perform_removePath_answer (h : x.arena.WellFormed) (root : Option Path) (p : Path) :
    (x.perform (removePath root p)).2 = x ∨ (x.perform (removePath root p)).1 = .error .releasedSlot ∨
      ∃ s, (x.perform (removePath root p)).1 = .ok (some s) := by
  cases ho : x.owner? root p with
  | none => exact .inl (by rw [perform_removePath_unowned ho])
  | some it =>
    obtain ⟨i, t⟩ := it
    cases hl : t.locate x.arena p with
    | error fault => exact .inl (by simp only [removePath, perform_bind, perform_get, ho, perform_lift, hl])
    | ok found =>
      cases found with
      | none => exact .inl (by simp only [removePath, perform_bind, perform_get, ho, perform_lift, hl, perform_pure])
      | some id =>
        cases hbare : isBareRoot x.arena t id with
        | error fault =>
          exact .inl (by simp only [removePath, perform_bind, perform_get, ho, perform_lift, hl, hbare])
        | ok bare =>
          by_cases hid : x.arena.contains id = true
          · obtain ⟨b, htake, hsame, -⟩ := Tree.takeOut_spec h hid p.parent?
            have hu := (h.detached_detach id).unlinked h
            obtain ⟨s, hs, -⟩ := (hsame.wellFormed (hu.wellFormed h)).exists_head?_snapshots
              (by rw [hsame.contains, hu.contains, hid])
            refine .inr (.inr ⟨s, ?_⟩)
            rw [← hs]
            simp only [removePath, perform_bind, perform_get, ho, perform_lift, hl, hbare, perform_modify, htake,
              perform_snapshotsBelow, perform_pure]
            rfl
          · have htake : Tree.takeOut x.arena id p.parent? = .error .releasedSlot := by
              rw [Tree.takeOut, if_pos (by simpa using hid)]
            exact .inr (.inl (by simp only [removePath, perform_bind, perform_get, ho, perform_lift, hl, hbare,
              perform_modify, htake]))

/-! ## Renames -/

/-- Looking at what a rename replaces changes nothing but the paths that are known. -/
theorem perform_replacedBy_ok (x : Index) (source target : Option NodeId) :
    ∃ nodes b, x.perform (replacedBy source target) = (.ok nodes, x.withArena b) ∧ Alike x.arena b := by
  unfold replacedBy
  split
  · split
    · exact ⟨[], x.arena, rfl, .refl _⟩
    · exact ⟨_, _, rfl, alike_snapshots _ _⟩
  · exact ⟨[], x.arena, rfl, .refl _⟩

/-- A rename whose look-ups fault leaves the index as it is. -/
theorem perform_renamePath_lost (ho : x.owner? root old = some (i, t))
    (hl : ¬∃ s e, t.locate x.arena old = .ok s ∧ t.locate x.arena new = .ok e) :
    ∃ fault, x.perform (renamePath d root old new) = (.error fault, x) := by
  cases hs : t.locate x.arena old with
  | error fault =>
    exact ⟨fault, by simp only [renamePath, perform_bind, perform_get, ho, perform_lift, hs]⟩
  | ok s =>
    cases he : t.locate x.arena new with
    | error fault =>
      exact ⟨fault, by simp only [renamePath, perform_bind, perform_get, ho, perform_lift, hs, he]⟩
    | ok e => exact absurd ⟨s, e, hs, he⟩ hl

/-- What a rename does once it has looked at what it replaces. -/
theorem perform_renamePath_looked {s e : Option NodeId} (ho : x.owner? root old = some (i, t))
    (hs : t.locate x.arena old = .ok s) (he : t.locate x.arena new = .ok e) :
    ∃ b, Alike x.arena b ∧
      (∀ fault, t.rename b old new = .error fault →
        x.perform (renamePath d root old new) = (.error fault, x.withArena b)) ∧
      (∀ c, t.rename b old new = .ok (none, c) →
        x.perform (renamePath d root old new) = (x.withArena c).perform (addPath d root new)) ∧
      ∀ id c, c.WellFormed → c.contains id = true → t.rename b old new = .ok (some id, c) →
        ∃ snap y, x.perform (renamePath d root old new) = (.ok (some snap), y) ∧ snap.id = id ∧ Alike c y.arena ∧
          y.trees = x.trees := by
  obtain ⟨nodes, b, hrun, hal⟩ := perform_replacedBy_ok x s e
  refine ⟨b, hal, fun fault hren => ?_, fun c hren => ?_, fun id c hc hid hren => ?_⟩
  · simp only [renamePath, perform_bind, perform_get, ho, perform_lift, hs, he, hrun, withArena, hren]
  · simp only [renamePath, perform_bind, perform_get, ho, perform_lift, hs, he, hrun, withArena, hren, perform_modify]
  · obtain ⟨snap, hsnap, hsid⟩ := hc.exists_head?_snapshots hid
    refine ⟨snap, (x.perform (renamePath d root old new)).2, ?_⟩
    simp only [renamePath, perform_bind, perform_get, ho, perform_lift, hs, he, hrun, withArena, hren, perform_modify]
    cases nodes.isEmpty <;>
      exact ⟨Prod.ext (congrArg Except.ok hsnap) rfl, hsid, alike_snapshots c _, rfl⟩

/-- A rename that is reported for a known area is one in its tree. -/
theorem perform_event_renamed {r : Path} (ho : x.owner? (some r) old = some (i, t)) :
    (x.perform ((Edit.event r (.renamed old new)).work d)).2 = (x.perform (renamePath d (some r) old new)).2 := by
  have hknown : (x.owner? (some r) r).isNone = false := by
    rw [show x.owner? (some r) r = x.owner? (some r) old from rfl, ho]
    rfl
  rw [Edit.work, applyChange, perform_bind, perform_get]
  simp only [hknown, Bool.false_eq_true, if_false]
  rw [perform_discard]

end Index

end FileIndex
