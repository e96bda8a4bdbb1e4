/-
Paths that lead back. What a tree finds at a path is a node whose own path is that one, and an edit answers with it and
tells of it under that path (`LeadsBack`, `TellsTruth`), as long as every step spares the roots and gives none a name
that does not fit (`throughout_leadsBack_iff`). A rename of the entry where another tree has its root does not care about
the area of that tree.
-/
import FileIndex.Proofs.Index.Intact
import FileIndex.Proofs.Index.Naming

namespace FileIndex

open Arena

variable {x y : Index} {d : Disk} {e : Effect} {o : Operation} {t : Tree} {a b : Arena} {id j : NodeId} {i : Nat}
  {s : Snapshot} {p old new : Path} {root : Option Path} {on : Bool} {run : List (Disk × Operation)}

/-- An edit with its answer; a reported change has none. -/
def Edit.request (d : Disk) : Edit → IndexM (Option Snapshot)
  | .add root p => Index.addPath d root p
  | .remove root p => Index.removePath root p
  | .rename root old new => Index.renamePath d root old new
  | .refresh root p => Index.refreshPath d root p
  | .pin p on => Index.setPinned p on
  | .event root c => do
    Index.applyChange d root c
    return none

/-- The index that has the answer of an edit: what a removal answers with was there before. -/
def Edit.shown (x y : Index) : Edit → Index
  | .remove _ _ => x
  | _ => y

/-- The path that an edit is about, if it is about the node at a path and nothing else. -/
def Edit.addressed? : Edit → Option Path
  | .remove _ p | .refresh _ p | .pin p _ => some p
  | .add _ _ | .rename _ _ _ | .event _ _ => none

namespace Index

/-! ## What is told of paths -/

/-- Whether a snapshot has the path where its node is found. -/
def Carries (x : Index) (s : Snapshot) : Prop :=
  ∀ t ∈ x.trees, ∀ p, t.locate x.arena p = .ok (some s.id) → s.path.same p = true

/-- Whether the snapshots of a change have the paths where their nodes are found: those of what was removed before the
change, all others behind it. -/
def Truthful (x y : Index) : IndexChange → Prop
  | .remove nodes => ∀ s ∈ nodes, x.Carries s
  | .add nodes | .update nodes | .rename nodes _ => ∀ s ∈ nodes, y.Carries s
  | .reset => True

/-- Whether an edit answers with no snapshot, and tells of none, that has another path than its node is found at; where
it is about the node at a path, the answer has that path. -/
structure TellsTruth (x : Index) (d : Disk) (e : Edit) : Prop where
  addressed : ∀ p s, e.addressed? = some p → (x.perform (e.request d)).1 = .ok (some s) → s.path.same p = true
  answer : ∀ s, (x.perform (e.request d)).1 = .ok (some s) → (e.shown x (x.after d (.edit e))).Carries s
  feed : ∃ changes : List IndexChange, (x.after d (.edit e)).feed = changes.foldl Feed.publish x.feed ∧
    ∀ c ∈ changes, Truthful x (x.after d (.edit e)) c

/-- The snapshot of a node has the path where the node is found. -/
theorem Orderly.carries_of_view? (h : x.Orderly) (hf : x.Fitting) (hs : x.arena.view? j = some s) : x.Carries s := by
  intro t ht p hl
  rw [Tree.locate_eq h.sound.wellFormed (h.sound.contains_root ht), Except.ok.injEq, view?_id hs] at hl
  obtain ⟨q, hq, hsame⟩ := h.workedPath?_located hf ht hl
  obtain ⟨n, -, hs⟩ := Option.bind_eq_some_iff.1 hs
  rw [hq, Option.map_some, Option.some.injEq] at hs
  rw [← hs]
  exact same_iff.2 hsame

theorem Orderly.carries_of_mem_views {ids : List NodeId} (h : x.Orderly) (hf : x.Fitting) (hs : s ∈ x.arena.views ids) :
    x.Carries s := by
  obtain ⟨j, -, hj⟩ := List.mem_filterMap.1 hs
  exact h.carries_of_view? hf hj

/-! ## Removals -/

/-- What a removal tells and answers with are snapshots of what was taken out. -/
theorem perform_removePath_told (h : x.Sound) (ho : x.owner? root p = some (i, t))
    (hl : t.located? x.arena p = some id) : ∃ b y, Tree.takeOut x.arena id p.parent? = .ok b ∧
      x.perform (removePath root p) = (.ok (b.snapshots (b.subtree id)).1.head?, y) ∧
      y.feed = x.feed.publish (.remove (b.snapshots (b.subtree id)).1) := by
  have hid := contains_of_located? h ho hl
  have hlocate : t.locate x.arena p = .ok (some id) := by
    rw [Tree.locate_eq h.wellFormed (h.contains_root (mem_of_owner? ho)), hl]
  obtain ⟨b, htake, -⟩ := Tree.takeOut_spec h.wellFormed hid p.parent?
  refine ⟨b, (x.perform (removePath root p)).2, htake, ?_⟩
  simp only [removePath, perform_bind, perform_get, ho, perform_lift, hlocate, isBareRoot_eq hid, perform_modify, htake,
    perform_snapshotsBelow, perform_pure]
  exact ⟨rfl, rfl⟩

/-- What was taken out has the paths where it was found before. -/
theorem Orderly.carries_of_takeOut (h : x.Orderly) (hf : x.Fitting) (ht : t ∈ x.trees)
    (hl : t.located? x.arena p = some id) (htake : Tree.takeOut x.arena id p.parent? = .ok b)
    (hs : s ∈ (b.snapshots (b.subtree id)).1) : x.Carries s := by
  have ha := h.sound.wellFormed
  obtain ⟨root, hr, hb⟩ := Tree.below_of_located? ha hl
  have hid := hb.contains (h.sound.contains_root ht root hr)
  obtain ⟨n, hn⟩ := contains_iff.1 hid
  obtain ⟨w, hw, hwp⟩ := h.workedPath?_located hf ht hl
  have hdir : ((p.parent?.getD ⟨""⟩).child n.name).components = w.components :=
    (Tree.namedBy_of_located? (hf t ht) hl (name?_of_get? hn)).trans hwp.symm
  rw [snapshots_fst_eq] at hs
  obtain ⟨j, hj, hs⟩ := List.mem_filterMap.1 hs
  have hbelow : x.arena.Below id j := by
    obtain ⟨b', htake', hlinks, -⟩ := Tree.takeOut_spec ha hid p.parent?
    obtain rfl := Except.ok.inj (htake.symm.trans htake')
    rw [hlinks.subtree, (ha.detached_detach id).subtree_self ha hid] at hj
    exact ha.below_of_mem_subtree hj
  obtain ⟨q, v, hq, hv, hsame⟩ := Tree.takeOut_path? ha h.sound.paths htake hn hw hdir hbelow
  rw [snapshot_fst_eq, hq] at hs
  obtain ⟨k, -, hs⟩ := Option.bind_eq_some_iff.1 hs
  obtain rfl := Option.some.inj hs
  intro u hu p' hl'
  rw [Tree.locate_eq ha (h.sound.contains_root hu), Except.ok.injEq] at hl'
  obtain ⟨v', hv', hp'⟩ := h.workedPath?_located hf hu hl'
  obtain rfl := Option.some.inj (hv.symm.trans hv')
  exact same_iff.2 (hsame.trans hp')

theorem Orderly.truthful_removePath (h : x.Orderly) (hf : x.Fitting) (root : Option Path) (p : Path) (y : Index) :
    (∀ s, (x.perform (removePath root p)).1 = .ok (some s) → x.Carries s) ∧
      ∃ changes : List IndexChange, (x.perform (removePath root p)).2.feed = changes.foldl Feed.publish x.feed ∧
        ∀ c ∈ changes, Truthful x y c := by
  cases ho : x.owner? root p with
  | none =>
    rw [perform_removePath_unowned ho]
    exact ⟨by simp, [], rfl, by simp⟩
  | some it =>
    obtain ⟨i, t⟩ := it
    cases hl : t.located? x.arena p with
    | none =>
      rw [perform_removePath_none h.sound ho hl]
      exact ⟨by simp, [], rfl, by simp⟩
    | some id =>
      obtain ⟨b, z, htake, hrun, hfeed⟩ := perform_removePath_told h.sound ho hl
      have hcarries := fun s => h.carries_of_takeOut hf (mem_of_owner? ho) hl htake (s := s)
      rw [hrun]
      refine ⟨fun s hs => hcarries s (List.mem_of_head? (Except.ok.inj hs)), [_], hfeed, fun c hc => ?_⟩
      rw [List.mem_singleton.1 hc]
      exact hcarries

theorem Orderly.truthful_deleted (h : x.Orderly) (hf : x.Fitting) (r p : Path) (y : Index) :
    ∃ changes : List IndexChange, (x.after d (.edit (.event r (.deleted p)))).feed = changes.foldl Feed.publish x.feed ∧
      ∀ c ∈ changes, Truthful x y c := by
  simp only [Index.after, Operation.work, Edit.work, applyChange, perform_bind, perform_get]
  cases (x.owner? (some r) r).isNone with
  | true => exact ⟨[], rfl, by simp⟩
  | false =>
    simp only [Bool.false_eq_true, if_false]
    exact perform_discard x (removePath (some r) p) ▸ (h.truthful_removePath hf (some r) p y).2

/-! ## All other edits -/

/-- An effect that removes nothing is told of under the right paths. -/
theorem Realizes.truthful (hx : x.Orderly) (hf : x.Fitting) (hy : y.Orderly) (hfy : y.Fitting) (hr : Realizes x e y)
    (hno : ∀ t id, e ≠ .cut t id) : ∃ changes : List IndexChange, y.feed = changes.foldl Feed.publish x.feed ∧
      ∀ c ∈ changes, Truthful x y c := by
  cases hr with
  | idle => exact ⟨[], rfl, by simp⟩
  | refuse _ _ _ ht => exact ⟨[], ht.feed, by simp⟩
  | @grow _ _ _ _ b made _ _ _ hal _ _ hnone hsome =>
    cases made with
    | none => exact ⟨[], (hnone rfl).feed, by simp⟩
    | some top =>
      refine ⟨_, (hsome top rfl).feed, fun c hc => ?_⟩
      rw [List.mem_singleton.1 hc, ← hal.views (hal.symm.sameLinks.wellFormed hy.sound.wellFormed)]
      exact fun s => hy.carries_of_mem_views hfy
  | cut => exact absurd rfl (hno _ _)
  | rename _ _ _ _ _ _ _ ht =>
    refine ⟨_, ht.feed, fun c hc => ?_⟩
    rcases List.mem_append.1 hc with hc | hc
    · unfold toldReplaced at hc
      split at hc
      · cases hc
      · rw [List.mem_singleton.1 hc]
        exact fun s => hx.carries_of_mem_views hf
    · rw [List.mem_singleton.1 hc]
      exact fun s => hy.carries_of_mem_views hfy
  | update _ _ _ _ _ hs ht =>
    refine ⟨_, ht.feed, fun c hc => ?_⟩
    rw [List.mem_singleton.1 hc]
    exact fun s' hs' => hy.carries_of_view? hfy (List.mem_singleton.1 hs' ▸ hs)

/-- Nothing but a removal, or a deletion that is reported, removes a node. -/
theorem effect_ne_cut {e : Edit} (hremove : ∀ root p, e ≠ .remove root p) (hdeleted : ∀ r p, e ≠ .event r (.deleted p)) :
    e.effect x d ≠ .cut t id := by
  have hadd : ∀ root p, x.addEffect d root p ≠ .cut t id := fun _ _ =>
    addEffect_of (P := (· ≠ .cut t id)) (by simp) (by simp)
  have hrefresh : ∀ root p, x.refreshEffect d root p ≠ .cut t id := fun _ _ =>
    refreshEffect_of (P := (· ≠ .cut t id)) (by simp) (by simp)
  have hrename : ∀ root old new, x.renameEffect d root old new ≠ .cut t id := fun root _ new =>
    renameEffect_of (P := (· ≠ .cut t id)) (by simp) (by simp) (by simp) (hadd root new)
  cases e with
  | add root p => exact hadd root p
  | remove root p => exact absurd rfl (hremove root p)
  | rename root old new => exact hrename root old new
  | refresh root p => exact hrefresh root p
  | pin p on => exact pinEffect_of (P := (· ≠ .cut t id)) (by simp) (by simp)
  | event r c =>
    refine eventEffect_of (P := (· ≠ .cut t id)) (by simp) (hadd _) (hrefresh _) (fun p hc => ?_) fun old new _ =>
      hrename _ old new
    exact absurd (congrArg (Edit.event r) hc) (hdeleted r p)

/-! ## Answers -/

theorem view?_of_addPath (h : x.Sound) (hrun : x.perform (addPath d root p) = (.ok (some s), y)) :
    ∃ j, y.arena.view? j = some s := by
  cases ho : x.owner? root p with
  | none =>
    rw [perform_addPath_unowned ho] at hrun
    cases hrun
  | some it =>
    obtain ⟨i, t⟩ := it
    obtain ⟨made, t', b, z, -, -, hz, hsound, hal, -⟩ := perform_addPath h ho d
    obtain ⟨hs, rfl⟩ := Prod.mk.inj (hz.symm.trans hrun)
    obtain ⟨top, -, htop⟩ := Option.bind_eq_some_iff.1 (Except.ok.inj hs)
    exact ⟨top, (hal.view? (hal.symm.sameLinks.wellFormed hsound.wellFormed) top).trans htop⟩

/-- A node that is changed in place is found where it was, and its snapshot is the answer. -/
theorem Updated.answer {f : Node → Node} (hu : Updated x y f id) (hf : InPlace f) (ht : t ∈ x.trees)
    (hl : t.located? x.arena p = some id) (hs : y.arena.view? id = some s) :
    ∃ t ∈ y.trees, t.located? y.arena p = some s.id ∧ y.arena.view? s.id = some s := by
  rw [view?_id hs]
  refine ⟨t, hu.trees ▸ ht, ?_, hs⟩
  have hlinks : SameLinks x.arena (x.arena.modify id f) := sameLinks_modify hf.parent hf.children
  have hd : (x.arena.modify id f).descend? = x.arena.descend? :=
    funext fun j => funext (descend?_congr hlinks.children (name?_modify hf.name x.arena id) j)
  rw [Tree.located?_alike hu.alike, Tree.located?, hd]
  exact hl

theorem located?_of_refreshPath (h : x.Sound) (hrun : x.perform (refreshPath d root p) = (.ok (some s), y)) :
    ∃ t ∈ y.trees, t.located? y.arena p = some s.id ∧ y.arena.view? s.id = some s := by
  cases ho : x.owner? root p with
  | none =>
    rw [perform_refreshPath_unowned ho] at hrun
    cases hrun
  | some it =>
    obtain ⟨i, t⟩ := it
    by_cases hno : t.located? x.arena p = none ∨ d.metadata? p = none
    · rw [perform_refreshPath_absent h ho hno] at hrun
      cases hrun
    · rw [not_or] at hno
      obtain ⟨id, hid⟩ := Option.ne_none_iff_exists'.1 hno.1
      obtain ⟨m, hm⟩ := Option.ne_none_iff_exists'.1 hno.2
      obtain ⟨z, hz, hu⟩ := perform_refreshPath h ho hid hm
      obtain ⟨hs, rfl⟩ := Prod.mk.inj (hz.symm.trans hrun)
      exact hu.answer (inPlace_metadata m) (mem_of_owner? ho) hid (Except.ok.inj hs)

theorem located?_of_setPinned (h : x.Sound) (hrun : x.perform (setPinned p on) = (.ok (some s), y)) :
    ∃ t ∈ y.trees, t.located? y.arena p = some s.id ∧ y.arena.view? s.id = some s := by
  cases ho : x.owner? none p with
  | none =>
    rw [perform_setPinned_unowned ho] at hrun
    cases hrun
  | some it =>
    obtain ⟨i, t⟩ := it
    cases hl : t.located? x.arena p with
    | none =>
      rw [perform_setPinned_absent h ho hl] at hrun
      cases hrun
    | some id =>
      obtain ⟨z, hz, hu⟩ := perform_setPinned h ho hl on
      obtain ⟨hs, rfl⟩ := Prod.mk.inj (hz.symm.trans hrun)
      exact hu.answer (inPlace_pinned on) (mem_of_owner? ho) hl (Except.ok.inj hs)

/-- A removal answers with the node that was found. -/
theorem located?_of_removePath (h : x.Sound) (hs : (x.perform (removePath root p)).1 = .ok (some s)) :
    ∃ t ∈ x.trees, t.located? x.arena p = some s.id := by
  cases ho : x.owner? root p with
  | none =>
    rw [perform_removePath_unowned ho] at hs
    cases hs
  | some it =>
    obtain ⟨i, t⟩ := it
    cases hl : t.located? x.arena p with
    | none =>
      rw [perform_removePath_none h ho hl] at hs
      cases hs
    | some id =>
      obtain ⟨y, nodes, hrun, -, -, -, hids, -⟩ := perform_removePath h ho hl
      rw [hrun, Except.ok.injEq] at hs
      have hhead : nodes.head?.map Snapshot.id = some id := by
        rw [← List.head?_map, hids, h.wellFormed.subtree_eq (contains_of_located? h ho hl)]
        rfl
      rw [hs] at hhead
      exact ⟨t, mem_of_owner? ho, hl.trans hhead.symm⟩

theorem view?_of_renamePath (h : x.Sound) (hrun : x.perform (renamePath d root old new) = (.ok (some s), y)) :
    ∃ j, y.arena.view? j = some s := by
  cases ho : x.owner? root old with
  | none =>
    rw [perform_renamePath_unowned ho] at hrun
    cases hrun
  | some it =>
    obtain ⟨i, t⟩ := it
    by_cases hmove : old.sameParent new = true
    · cases hn : t.renames? x.arena old new with
      | none =>
        rw [perform_renamePath_absent h ho hmove hn] at hrun
        exact view?_of_addPath (h.looked t old new) hrun
      | some id =>
        obtain ⟨z, hz, -⟩ := perform_renamePath (d := d) h ho hmove hn
        obtain ⟨hs, rfl⟩ := Prod.mk.inj (hz.symm.trans hrun)
        exact ⟨id, Except.ok.inj hs⟩
    · rw [perform_renamePath_moves h ho hmove] at hrun
      cases hrun

/-! ## Every edit -/

theorem Orderly.same_of_located? (h : x.Orderly) (hs : x.Carries s) (ht : t ∈ x.trees)
    (hl : t.located? x.arena p = some s.id) : s.path.same p = true :=
  hs t ht p (by rw [Tree.locate_eq h.sound.wellFormed (h.sound.contains_root ht), hl])

/-- **An edit between two orderly indexes in which all roots fit tells the truth about paths.** -/
theorem Orderly.tellsTruth {e : Edit} (h : x.Orderly) (hf : x.Fitting) (hy : (x.after d (.edit e)).Orderly)
    (hfy : (x.after d (.edit e)).Fitting) : x.TellsTruth d e := by
  have hview : ∀ {j s}, (x.after d (.edit e)).arena.view? j = some s → (x.after d (.edit e)).Carries s :=
    hy.carries_of_view? hfy
  have hrun : ∀ {w : IndexM (Option Snapshot)} {s}, e.work d = (do let _ ← w) → (x.perform w).1 = .ok (some s) →
      x.perform w = (.ok (some s), x.after d (.edit e)) := fun {w s} hw hs =>
    Prod.ext hs (by rw [Index.after, Operation.work, hw, perform_discard])
  have hstill := (ends_edit h.sound d e).realizes.truthful h hf hy hfy
  cases e with
  | add root p =>
    refine ⟨fun _ _ hno => (by cases hno), fun s hs => ?_, hstill fun _ _ => effect_ne_cut (by simp) (by simp)⟩
    obtain ⟨j, hj⟩ := view?_of_addPath h.sound (hrun rfl hs)
    exact hview hj
  | remove root p =>
    obtain ⟨hanswer, hfeed⟩ := h.truthful_removePath hf root p (x.after d (.edit (.remove root p)))
    refine ⟨?_, hanswer, ?_⟩
    · rintro p s ⟨⟩ hs
      obtain ⟨t, ht, hl⟩ := located?_of_removePath h.sound hs
      exact h.same_of_located? (hanswer s hs) ht hl
    · have hafter : x.after d (.edit (.remove root p)) = (x.perform (removePath root p)).2 := by
        rw [Index.after, Operation.work, Edit.work, perform_discard]
      rwa [← hafter] at hfeed
  | rename root old new =>
    refine ⟨fun _ _ hno => (by cases hno), fun s hs => ?_, hstill fun _ _ => effect_ne_cut (by simp) (by simp)⟩
    obtain ⟨j, hj⟩ := view?_of_renamePath h.sound (hrun rfl hs)
    exact hview hj
  | refresh root p =>
    refine ⟨?_, fun s hs => ?_, hstill fun _ _ => effect_ne_cut (by simp) (by simp)⟩
    · rintro p s ⟨⟩ hs
      obtain ⟨t, ht, hl, hj⟩ := located?_of_refreshPath h.sound (hrun rfl hs)
      exact hy.same_of_located? (hview hj) ht hl
    · obtain ⟨-, -, -, hj⟩ := located?_of_refreshPath h.sound (hrun rfl hs)
      exact hview hj
  | pin p on =>
    refine ⟨?_, fun s hs => ?_, hstill fun _ _ => effect_ne_cut (by simp) (by simp)⟩
    · rintro p s ⟨⟩ hs
      obtain ⟨t, ht, hl, hj⟩ := located?_of_setPinned h.sound (hrun rfl hs)
      exact hy.same_of_located? (hview hj) ht hl
    · obtain ⟨-, -, -, hj⟩ := located?_of_setPinned h.sound (hrun rfl hs)
      exact hview hj
  | event r c =>
    refine ⟨fun _ _ hno => (by cases hno), fun s hs => ?_, ?_⟩
    · rw [Edit.request, perform_bind] at hs
      cases hr : x.perform (applyChange d r c) with
      | mk res z => cases res <;> rw [hr] at hs <;> cases hs
    · by_cases hc : ∃ p, c = .deleted p
      · obtain ⟨p, rfl⟩ := hc
        exact h.truthful_deleted hf r p _
      · refine hstill fun _ _ => effect_ne_cut (by simp) ?_
        rintro _ p ⟨⟩
        exact hc ⟨p, rfl⟩

/-! ## Runs -/

/-- An operation that does not spare the roots leaves a path where something is found that is not there. -/
theorem Sound.not_leadsBack (h : x.Sound) (hs : ¬SparesRoots x d o) : ¬(x.after d o).LeadsBack := by
  obtain ⟨r, hgone, hroot⟩ := h.exists_lost_after hs
  obtain ⟨t, ht, hr⟩ := Tree.mem_roots.1 hroot
  have hlocate : t.locate (x.after d o).arena t.area.path = .ok (some r) := by
    rw [Tree.locate, Path.below?_eq_some.2 (List.append_nil _).symm, hr]
    rfl
  intro hl
  exact get?_eq_none.1 hgone (hl t ht _ _ hlocate).1

/-- **Behind every step of a run what is found at a path has that path, and every edit tells the truth about paths,
exactly if every step spares the roots and gives none a name that does not fit.** -/
theorem throughout_leadsBack_iff (s : Settings) (run : List (Disk × Operation)) (hv : ∀ i ∈ run, i.1.Valid) :
    Throughout (fun x d o => (x.after d o).LeadsBack ∧ ∀ e, o = .edit e → x.TellsTruth d e) (ofSettings s) run ↔
      Throughout (fun x d o => SparesRoots x d o ∧ NamesRoots x d o) (ofSettings s) run := by
  refine along_iff_of_mem (I := fun x => x.Orderly ∧ x.Fitting) ⟨orderly_ofSettings s, nofun⟩ ?_ ?_
  · rintro x ⟨d, o⟩ hi ⟨hx, hf⟩
    constructor
    · rintro ⟨hl, -⟩
      have hs : SparesRoots x d o := by_contra fun hs => hx.sound.not_leadsBack hs hl
      exact ⟨hs, (hx.fitting_after_iff hf (hv _ hi) hs).1 ((hx.after (hv _ hi) hs).leadsBack_iff.1 hl)⟩
    · rintro ⟨hs, hn⟩
      have hy := hx.after (hv _ hi) hs
      have hfy := (hx.fitting_after_iff hf (hv _ hi) hs).2 hn
      refine ⟨hy.leadsBack_iff.2 hfy, ?_⟩
      rintro e rfl
      exact hx.tellsTruth hf hy hfy
  · rintro x ⟨d, o⟩ hi ⟨hx, hf⟩ ⟨hs, hn⟩
    exact ⟨hx.after (hv _ hi) hs, (hx.fitting_after_iff hf (hv _ hi) hs).2 hn⟩

/-- The directory is collected, and one of its files gets another name. -/
def renamedRun : List (Disk × Operation) :=
  [(rootDisk filled, .collect [⟨⟨"a"⟩, true⟩] {}), (rootDisk filled, .edit (.rename none ⟨"a/x"⟩ ⟨"a/z"⟩))]

theorem sparesRoots_collect_filled :
    SparesRoots (ofSettings {}) (rootDisk filled) (.collect [⟨⟨"a"⟩, true⟩] {}) := by
  by_contra hs
  obtain ⟨r, hgone, hroot⟩ := (sound_ofSettings {}).exists_lost_after hs
  rw [after_collect_filled] at hgone hroot
  obtain rfl : r = ⟨0⟩ := List.mem_singleton.1 hroot
  cases hgone

theorem not_climbs_a : ¬Path.Climbs ⟨"a"⟩ := by
  rintro ⟨-, front, hf, -⟩
  have hcs : Path.components ⟨"a"⟩ = [.name "a"] := by decide +kernel
  have hlast := congrArg List.getLast? (hcs.symm.trans hf)
  rw [List.getLast?_concat] at hlast
  cases hlast

theorem namesRoots_collect_filled :
    NamesRoots (ofSettings {}) (rootDisk filled) (.collect [⟨⟨"a"⟩, true⟩] {}) := by
  intro g y _ _ a ha _
  obtain ⟨b, hb, hpath⟩ := exists_of_mem_dedup (List.mem_filter.1 ha).1
  obtain rfl := List.mem_singleton.1 hb
  exact hpath ▸ not_climbs_a

theorem throughout_leadsBack_iff_renamed : (∀ i ∈ renamedRun, i.1.Valid) ∧
    Throughout (fun x d o => (x.after d o).LeadsBack ∧ ∀ e, o = .edit e → x.TellsTruth d e) (ofSettings {}) renamedRun := by
  have hv : ∀ i ∈ renamedRun, i.1.Valid := by
    rintro i hi
    rcases List.mem_cons.1 hi with rfl | hi
    · exact valid_rootDisk 0 0
    · exact List.mem_singleton.1 hi ▸ valid_rootDisk 0 0
  have heffect : (Edit.rename none ⟨"a/x"⟩ ⟨"a/z"⟩).effect filledIndex (rootDisk filled) =
      .rename ⟨1⟩ "z" ⟨"a/x"⟩ [] := rfl
  have hrename : SparesRoots filledIndex (rootDisk filled) (.edit (.rename none ⟨"a/x"⟩ ⟨"a/z"⟩)) ∧
      NamesRoots filledIndex (rootDisk filled) (.edit (.rename none ⟨"a/x"⟩ ⟨"a/z"⟩)) := by
    rw [SparesRoots, NamesRoots, heffect]
    refine ⟨fun s hs => ?_, fun t ht hr => ?_⟩
    · cases (show none = some s from hs)
    · obtain rfl := List.mem_singleton.1 ht
      cases hr
  refine ⟨hv, (throughout_leadsBack_iff {} renamedRun hv).2
    ⟨⟨sparesRoots_collect_filled, namesRoots_collect_filled⟩, ?_, trivial⟩⟩
  rw [step, after_collect_filled]
  exact hrename

/-! ## A root under another name -/

theorem orderly_sharedIndex : sharedIndex.Orderly := by
  rw [← after_collect_shared]
  refine (orderly_ofSettings {}).after valid_sharedDisk (by_contra fun hs => ?_)
  obtain ⟨r, hgone, hroot⟩ := (sound_ofSettings {}).exists_lost_after hs
  rw [after_collect_shared] at hgone hroot
  have hr : r = ⟨0⟩ ∨ r = ⟨3⟩ := by simpa [sharedIndex, Tree.roots] using hroot
  rcases hr with rfl | rfl <;> cases hgone

/-- The change of the watched directory that gives the root of the second tree another name. -/
def sharedRename : Edit := .event ⟨"a"⟩ (.renamed ⟨"a/s"⟩ ⟨"a/t"⟩)

theorem effect_sharedRename : sharedRename.effect sharedIndex sharedDisk = .rename ⟨3⟩ "t" ⟨"a/s"⟩ [] := rfl

theorem sparesRoots_sharedRename : SparesRoots sharedIndex sharedDisk (.edit sharedRename) := by
  rw [SparesRoots, effect_sharedRename]
  intro s hs
  cases (show none = some s from hs)

/-- **Not everything that is found at a path has that path**: a rename of the entry where another tree has its root
leaves that tree with a root of another name. -/
theorem not_forall_leadsBack : ¬∀ s run, (∀ i ∈ run, i.1.Valid) → ((ofSettings s).behind run).LeadsBack := by
  intro h
  have hl := h {} [(sharedDisk, .collect sharedAreas {}), (sharedDisk, .edit sharedRename)]
    (by simp [valid_sharedDisk])
  simp only [behind, List.foldl_cons, List.foldl_nil, step, after_collect_shared] at hl
  have hx := orderly_sharedIndex
  have hy := hx.after valid_sharedDisk sparesRoots_sharedRename
  have hr := (ends_edit hx.sound sharedDisk sharedRename).realizes
  rw [effect_sharedRename] at hr
  have ht : { area := ⟨⟨"a/s"⟩, true⟩, root := some ⟨3⟩, includeHidden := true, isChild := true } ∈ sharedIndex.trees :=
    List.mem_cons_of_mem _ List.mem_cons_self
  have hnamed := hr.namedBy_of_fitting hx.sound hy.sound (hy.leadsBack_iff.1 hl) ht rfl
  exact absurd hnamed (by unfold Path.NamedBy; decide +kernel)

end Index

end FileIndex
