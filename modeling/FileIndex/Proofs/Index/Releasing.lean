/-
What is told of nodes that go. A slot that is given away, or to another entry, is to be told of: that the node was
removed, or that everything starts anew (`Announces`). Two operations give slots away in silence: a rename over an
entry that its look-up does not find, and a collect that builds nothing and in which a tree takes the place of an entry
that came in between. A run tells of every node that goes exactly as long as it does neither (`Speaks`).
-/
import FileIndex.Proofs.Index.Adopting
import FileIndex.Proofs.Index.Hearing
import FileIndex.Proofs.Tree.Views

namespace FileIndex

open Arena

/-- Whether a change says of a node that its number does not count any more. -/
def IndexChange.Ends : IndexChange → NodeId → Prop
  | .reset, _ => True
  | .remove nodes, id => id ∈ nodes.map Snapshot.id
  | _, _ => False

/-- Whether a change says of a node that it is not as it was. -/
def IndexChange.Alters : IndexChange → NodeId → Prop
  | .rename nodes _, id | .update nodes, id => id ∈ nodes.map Snapshot.id
  | _, _ => False

namespace Effect

/-- Whether an effect lets a node go. -/
def Takes (x : Index) : Effect → NodeId → Prop
  | .cut _ id, j => x.arena.Below id j
  | .rename id name _ _, j => ∃ s, x.arena.rival? id name = some s ∧ x.arena.Below s j
  | _, _ => False

/-- Whether an effect leaves a node with another snapshot. -/
def Alters (x : Index) : Effect → NodeId → Prop
  | .rename id _ _ _, j => x.arena.Below id j
  | .update id _, j => j = id
  | _, _ => False

/-- Whether an effect tells of a node that it goes. -/
def Ends (x : Index) : Effect → NodeId → Prop
  | .cut _ id, j => x.arena.Below id j
  | .rename _ _ _ replaced, j => j ∈ replaced
  | _, _ => False

/-- Whether an effect lets no node go in silence: a rename knows of the entry that it replaces. -/
def Speaks (x : Index) : Effect → Prop
  | .rename id name _ replaced => ∀ s, x.arena.rival? id name = some s → replaced ≠ []
  | _ => True

end Effect

namespace Index

variable {x y m z : Index} {d : Disk} {o : Operation} {e : Effect} {areas : List Area} {c : Cancellation} {g : Gathered}
  {rest : List (Nat × Nat)} {j : NodeId}

/-- Whether the slot of a node still holds what it held before an operation: a node with the same snapshot, but for
the mark of an addition, or one of which it was told what became of it. -/
def Retains (x : Index) (d : Disk) (o : Operation) (id : NodeId) : Prop :=
  (x.after d o).arena.contains id = true ∧
    (((x.after d o).arena.view? id).map Snapshot.settle = (x.arena.view? id).map Snapshot.settle ∨
      ∃ change ∈ x.heard d o, change.Alters id)

/-- Whether an operation tells of every node that goes. -/
def Announces (x : Index) (d : Disk) (o : Operation) : Prop :=
  ∀ id, x.arena.contains id = true → ¬x.Retains d o id → ∃ change ∈ x.heard d o, change.Ends id

/-- Whether a collect that neither releases nor builds a tree finds no entry in the place of another tree. -/
def CollectSpeaks (x : Index) (d : Disk) (areas : List Area) (c : Cancellation) : Prop :=
  match x.perform (gather d areas c) with
  | (.ok g, y) => g.complete = true → g.changed = false → ∀ p ∈ pairs y.trees.length, y.displaced? p.1 p.2 = none
  | (.error _, _) => True

/-- Whether an operation lets no node go in silence. -/
def Speaks (x : Index) (d : Disk) : Operation → Prop
  | .collect areas c => CollectSpeaks x d areas c
  | .edit e => (e.effect x d).Speaks x
  | .search _ _ | .live _ _ | .watch _ => True

/-! ## Edits -/

/-- The nodes that an effect leaves of those that there were. -/
theorem Realizes.contains_iff (h : x.Sound) (hr : Realizes x e y) (hj : x.arena.contains j = true) :
    y.arena.contains j = true ↔ ¬e.Takes x j := by
  have ha := h.wellFormed
  cases hr with
  | idle => simp [Effect.Takes, hj]
  | refuse hal _ _ _ => simp [Effect.Takes, hal.contains, hj]
  | grow _ hout hal _ _ _ _ =>
    simp only [Effect.Takes, not_false_eq_true, iff_true]
    rw [hal.contains]
    cases hout with
    | unchanged => exact hj
    | root _ hg _ | below _ _ hg _ => exact (hg.contains_iff j).2 (.inl hj)
  | cut _ _ hc _ _ _ _ => simp [Effect.Takes, hc.contains_iff, hj]
  | rename _ _ hal _ hd _ _ _ =>
    rw [contains_renamed ha hal hd]
    simp [Effect.Takes, hj]
  | update _ hf hal _ _ _ _ =>
    have hl := (sameLinks_modify hf.parent hf.children).trans hal.sameLinks
    simp [Effect.Takes, hl.contains, hj]

/-- A node that an effect neither takes nor alters keeps its snapshot. -/
theorem Realizes.view? (h : x.Sound) (hr : Realizes x e y) (hj : x.arena.contains j = true) (ht : ¬e.Takes x j)
    (hn : ¬e.Alters x j) : y.arena.view? j = x.arena.view? j := by
  have ha := h.wellFormed
  have hy := (hr.contains_iff h hj).2 ht
  cases hr with
  | idle => rfl
  | refuse hal _ _ _ => exact hal.view? ha j
  | grow _ hout hal _ _ _ _ =>
    cases hout with
    | unchanged => exact hal.view? ha j
    | root _ hg _ | below _ _ hg _ => rw [hal.view? hg.wellFormed, hg.view?_old ha hj]
  | cut _ _ hc _ _ _ _ => exact hc.view?_rest ha hy
  | rename _ _ hal _ hd _ _ _ => exact view?_renamed_rest ha hal hd hy hn
  | update _ hf hal _ _ _ _ =>
    rw [hal.view? ((sameLinks_modify hf.parent hf.children).wellFormed ha),
      view?_modify ha hf.parent hf.children hf.name hf.anchor hn]

theorem ends_toldReplaced (nodes : List Snapshot) :
    (∃ change ∈ toldReplaced nodes, change.Ends j) ↔ j ∈ nodes.map Snapshot.id := by
  unfold toldReplaced
  cases nodes with
  | nil => simp
  | cons s nodes => simp only [List.isEmpty_cons, Bool.false_eq_true, if_false, List.mem_singleton, exists_eq_left,
      IndexChange.Ends]

/-- What an effect tells of the nodes that there were. -/
theorem Realizes.exists_told (h : x.Sound) (hr : Realizes x e y) :
    ∃ changes : List IndexChange, y.feed = changes.foldl Feed.publish x.feed ∧
      (∀ j, (∃ change ∈ changes, change.Ends j) ↔ e.Ends x j) ∧
      ∀ j, e.Alters x j → y.arena.contains j = true → ∃ change ∈ changes, change.Alters j := by
  have ha := h.wellFormed
  cases hr with
  | idle => exact ⟨[], rfl, by simp [Effect.Ends], nofun⟩
  | refuse _ _ _ ht => exact ⟨[], ht.feed, by simp [Effect.Ends], nofun⟩
  | @grow _ _ _ _ _ made _ _ _ _ _ _ hnone hsome =>
    cases made with
    | none => exact ⟨[], (hnone rfl).feed, by simp [Effect.Ends], nofun⟩
    | some top => exact ⟨_, (hsome top rfl).feed, by simp [Effect.Ends, IndexChange.Ends], nofun⟩
  | cut _ hid _ _ _ hids ht =>
    refine ⟨_, ht.feed, fun j => ?_, nofun⟩
    simp only [List.mem_singleton, exists_eq_left, IndexChange.Ends, Effect.Ends, hids, ha.mem_subtree hid]
  | @rename id name old replaced b _ hid hr hal _ hd _ _ ht =>
    have hy : y.arena.WellFormed := hd.sameLinks.wellFormed
      ((sameLinks_renamed _ id name).wellFormed ((hal.sameLinks.wellFormed ha).cleared id name))
    have hidy : y.arena.contains id = true :=
      (contains_renamed ha hal hd).2 ⟨hid, fun s hs => not_below_rival ha hs⟩
    have hgone : (x.arena.views replaced).map Snapshot.id = replaced := by
      refine ha.map_id_views fun i hi => ?_
      rcases hr with rfl | ⟨s, hs, rfl⟩
      · cases hi
      · obtain ⟨-, -, p, -, hsp, -⟩ := rival?_spec ha hs
        exact ha.contains_of_mem_subtree (contains_of_parent? hsp) i hi
    refine ⟨_, ht.feed, fun j => ?_, fun j hj hlive => ?_⟩
    · simp only [List.mem_append, List.mem_singleton, or_and_right, exists_or, exists_eq_left]
      rw [ends_toldReplaced, hgone]
      exact or_iff_left fun hends => hends
    · refine ⟨_, List.mem_append_right _ (List.mem_singleton_self _), ?_⟩
      rw [IndexChange.Alters, hy.map_id_views (hy.contains_of_mem_subtree hidy), hy.mem_subtree hidy,
        below_renamed ha hal hd hlive]
      exact hj
  | update _ _ _ _ _ hs ht =>
    refine ⟨_, ht.feed, by simp [Effect.Ends, IndexChange.Ends], ?_⟩
    rintro j rfl -
    exact ⟨_, List.mem_singleton_self _, by simp [IndexChange.Alters, view?_id hs]⟩

/-- An effect tells of every node that it takes exactly if no rename replaces an entry that it does not know. -/
theorem Realizes.speaks_iff (h : x.Sound) (hr : Realizes x e y) :
    e.Speaks x ↔ ∀ j, x.arena.contains j = true → e.Takes x j → e.Ends x j := by
  cases hr with
  | rename _ hr =>
    constructor
    · rintro hspeaks j - ⟨s, hs, hb⟩
      rcases hr with rfl | ⟨u, hu, rfl⟩
      · exact absurd rfl (hspeaks s hs)
      · obtain rfl : u = s := Option.some.inj (hu.symm.trans hs)
        obtain ⟨-, -, p, -, hup, -⟩ := rival?_spec h.wellFormed hu
        exact (h.wellFormed.mem_subtree (contains_of_parent? hup)).2 hb
    · rintro hall s hs rfl
      obtain ⟨-, -, p, -, hsp, -⟩ := rival?_spec h.wellFormed hs
      exact List.not_mem_nil (hall s (contains_of_parent? hsp) ⟨s, hs, .refl _ s⟩)
  | cut => exact iff_of_true trivial fun _ _ ht => ht
  | _ => exact iff_of_true trivial nofun

theorem announces_edit_iff (h : x.Sound) (d : Disk) (e : Edit) :
    x.Announces d (.edit e) ↔ (e.effect x d).Speaks x := by
  have hreal : Realizes x (e.effect x d) (x.after d (.edit e)) := (ends_edit h d e).realizes
  -- A subscriber hears of the same effect.
  have hlone := (ends_edit (h.withFeed loneFeed) d e).realizes
  rw [effect_withFeed] at hlone
  obtain ⟨changes, hfeed, hends, halters⟩ := hlone.exists_told (h.withFeed loneFeed)
  have hheard : x.heard d (.edit e) = changes := heard_eq hfeed
  rw [hreal.speaks_iff h]
  unfold Announces Retains
  rw [hheard]
  constructor
  · intro hall j hj ht
    exact (hends j).1 (hall j hj fun hk => (hreal.contains_iff h hj).1 hk.1 ht)
  · intro hall j hj hn
    by_cases ht : (e.effect x d).Takes x j
    · exact (hends j).2 (hall j hj ht)
    · -- What is left is as it was, or it was told what became of it.
      refine absurd ⟨(hreal.contains_iff h hj).2 ht, ?_⟩ hn
      by_cases hc : (e.effect x d).Alters x j
      · exact .inr (halters j hc ((hlone.contains_iff (h.withFeed loneFeed) hj).2 ht))
      · exact .inl (by rw [hreal.view? h hj ht hc])

/-! ## Collects -/

/-- In an index in order, gathering that neither releases nor builds a tree leaves all nodes as they are. -/
theorem arena_gather (h : x.Sound) (hn : x.Nested) (hg : x.perform (gather d areas c) = (.ok g, y))
    (hc : g.changed = false) : y.arena = x.arena := by
  -- A tree that stands below another one would have that one released.
  have hseparate : (x.disposedTrees areas).isEmpty = true → (x.emptied areas).arena = x.arena := by
    intro hempty
    have hdisp := List.isEmpty_iff.1 hempty
    have hnone : x.trees.filter (·.isChild) = [] := by
      refine List.filter_eq_nil_iff.2 fun t ht hchild => ?_
      obtain ⟨r, q, hr, hq⟩ := (h.forest.child_iff t ht).1 hchild
      obtain ⟨u, hu, huq⟩ := Tree.mem_roots.1 (h.forest.merged r (Tree.mem_roots_of_root ht hr) q hq)
      have habove := hn t ht u hu r q hr huq hq
      refine List.filter_eq_nil_iff.1 hdisp _ (List.mem_map_of_mem hu) ?_
      have hdirty : (x.trees.filter (·.isChild)).any (fun c => u.area.isParentOf c.area) = true :=
        List.any_eq_true.2 ⟨t, List.mem_filter.2 ⟨ht, hchild⟩, habove⟩
      simp [stays, hdirty]
    rw [emptied, hdisp]
    simp [releaseTrees, separate, hnone, detachRoots]
  rcases gather_cases x d areas c with ⟨-, hrun⟩ | hrun
  · rw [hrun, Prod.mk.injEq, Except.ok.injEq] at hg
    obtain ⟨rfl, rfl⟩ := hg
    exact hseparate (by simpa using hc)
  · obtain ⟨hflat, hk, -⟩ := flat_emptied h areas
    obtain ⟨built, z, hbuild, hareas, -⟩ := perform_build d ((x.missingAreas areas).map
      fun a => (a, Tree.found? d x.includeHidden a)) hflat hk
    rw [hrun built z hbuild, Prod.mk.injEq, Except.ok.injEq] at hg
    obtain ⟨rfl, rfl⟩ := hg
    rw [Bool.or_eq_false_iff, Bool.not_eq_false', Bool.not_eq_false', List.isEmpty_iff (l := built)] at hc
    obtain ⟨hempty, rfl⟩ := hc
    have hnil : (x.missingAreas areas).map (fun a => (a, Tree.found? d x.includeHidden a)) = [] := by
      simpa using hareas.symm
    rw [hnil] at hbuild
    obtain rfl : _ = z := congrArg Prod.snd hbuild
    exact hseparate hempty

/-- Adoptions make no nodes. -/
theorem Merging.live (h : x.Merging rest) (hs : MergeSpares x rest) (hm : x.perform (adoptAll rest) = (.ok ⟨⟩, m))
    (hj : m.arena.contains j = true) : x.arena.contains j = true := by
  obtain ⟨m', hrun, -, hlive, -⟩ := Merging.induct (I := fun z _ => ∀ j, z.arena.contains j = true →
      x.arena.contains j = true) h hs (fun _ hj => hj) (fun _ _ _ _ _ _ hI => hI)
    fun z p c rest _ _ _ _ s hz ha _ hI j hj => hI j ((ha.contains_adopted hz).1 hj).1
  obtain rfl : m = m' := congrArg Prod.snd (hm.symm.trans hrun)
  exact hlive j hj

/-- Adoptions keep all nodes exactly if no tree takes the place of any. -/
theorem Merging.keeps_iff (h : x.Merging rest) (hs : MergeSpares x rest)
    (hm : x.perform (adoptAll rest) = (.ok ⟨⟩, m)) : (∀ p ∈ rest, x.displaced? p.1 p.2 = none) ↔
      ∀ j, x.arena.contains j = true → m.arena.contains j = true := by
  induction rest generalizing x with
  | nil =>
    obtain rfl : x = m := congrArg Prod.snd hm
    exact iff_of_true (by simp) fun _ hj => hj
  | cons pc rest ih =>
    obtain ⟨p, c⟩ := pc
    obtain ⟨hfirst, hrest⟩ := hs
    rw [adoptAll] at hm
    rw [List.forall_mem_cons]
    cases hd : x.displaced? p c with
    | none =>
      have hrun := perform_adopt_idle h.sound.forest hd
      rw [perform_bind_ok hrun] at hm
      rw [hrun] at hrest
      exact (and_iff_right rfl).trans (ih h.tail hrest hm)
    | some s =>
      obtain ⟨parent, child, parentRoot, childRoot, ha⟩ := adoption_of_displaced? hd
      have hrun := ha.perform h.sound.forest (h.isChild_eq_false ha)
      rw [perform_bind_ok hrun] at hm
      rw [hrun] at hrest
      refine iff_of_false (fun hall => by cases hall.1) fun hkeeps => ?_
      have hlive := (h.adopted ha (hfirst s hd)).live hrest hm
        (hkeeps s (contains_of_parent? (ha.parent?_displaced h.sound.forest)))
      exact ((ha.contains_adopted h).1 hlive).2 (.refl _ s)

/-- Adoptions that take no node's place do nothing. -/
theorem perform_adoptAll_idle (h : x.Sound) (hidle : ∀ p ∈ rest, x.displaced? p.1 p.2 = none) :
    x.perform (adoptAll rest) = (.ok ⟨⟩, x) := by
  induction rest with
  | nil => rfl
  | cons pc rest ih =>
    rw [adoptAll, perform_bind_ok (perform_adopt_idle h.forest (hidle pc (by simp)))]
    exact ih fun p hp => hidle p (by simp [hp])

/-- Adoptions that take no node's place take none of a root. -/
theorem mergeSpares_idle (h : x.Sound) (hidle : ∀ p ∈ rest, x.displaced? p.1 p.2 = none) : MergeSpares x rest := by
  induction rest with
  | nil => trivial
  | cons pc rest ih =>
    have hfirst := hidle pc (by simp)
    refine ⟨fun s hs => ?_, ?_⟩
    · rw [hfirst] at hs
      cases hs
    · rw [perform_adopt_idle h.forest hfirst]
      exact ih fun p hp => hidle p (by simp [hp])

theorem announces_collect_iff (h : x.Sound) (hn : x.Nested) (hs : CollectSpares x d areas c) :
    x.Announces d (.collect areas c) ↔ CollectSpeaks x d areas c := by
  obtain ⟨g, y, m, hgoes⟩ := exists_goes h hs
  have hheard := heard_collect h hs hgoes
  have hspeaks : CollectSpeaks x d areas c ↔ (g.complete = true → g.changed = false →
      ∀ p ∈ pairs y.trees.length, y.displaced? p.1 p.2 = none) := by
    rw [CollectSpeaks, hgoes.gathered]
  rw [hspeaks]
  cases hc : g.changed with
  | true =>
    rw [hc, if_pos rfl] at hheard
    refine iff_of_true (fun id _ _ => ⟨.reset, ?_, trivial⟩) fun _ hn => nomatch hn
    rw [hheard]
    exact List.mem_singleton_self _
  | false =>
    rw [hc] at hheard
    have hy := arena_gather h hn hgoes.gathered hc
    -- Nothing is told, so that every node has to be there, as it was.
    have hsilent : x.Announces d (.collect areas c) ↔
        ∀ j, x.arena.contains j = true → x.Retains d (.collect areas c) j := by
      unfold Announces
      rw [hheard]
      simp
    rw [hsilent]
    cases hcomplete : g.complete with
    | false =>
      refine iff_of_true (fun j hj => ?_) fun hn => nomatch hn
      have hsame : (x.after d (.collect areas c)).arena = x.arena := by
        rw [hgoes.arena, hgoes.canceled hcomplete, hy]
      exact ⟨by rw [hsame, hj], .inl (by rw [hsame])⟩
    | true =>
      have hmerging := hgoes.gathering.merging
      have hm := hgoes.merged hcomplete
      rw [perform_merge] at hm
      have hkeeps := hmerging.keeps_iff (hgoes.spares hcomplete) hm
      simp only [forall_const]
      constructor
      · intro hall
        refine hkeeps.2 fun j hj => ?_
        rw [← hgoes.arena]
        exact (hall j (hy ▸ hj)).1
      · intro hidle j hj
        have hrun := perform_adoptAll_idle hgoes.gathering.sound hidle
        have hsame : (x.after d (.collect areas c)).arena = x.arena := by
          rw [hgoes.arena, ← hy]
          exact congrArg (fun r => r.2.arena) (hm.symm.trans hrun)
        exact ⟨by rw [hsame, hj], .inl (by rw [hsame])⟩

/-! ## Runs -/

/-- What was created takes the slot of no root. -/
theorem spares_created (x : Index) (d : Disk) (r p : Path) : x.SparesRoots d (.edit (.event r (.created p))) := by
  have hadd : ∀ q, (x.addEffect d (some r) q).Spares x := fun _ =>
    addEffect_of (P := Effect.Spares x) trivial fun _ _ _ _ _ _ _ => trivial
  have hrefresh : ∀ q, (x.refreshEffect d (some r) q).Spares x := fun _ =>
    refreshEffect_of (P := Effect.Spares x) trivial fun _ _ => trivial
  exact eventEffect_of (P := Effect.Spares x) (c := .created p) trivial hadd hrefresh (by simp) (by simp)

/-- An operation that keeps all nodes, with their snapshots but for marks of additions, has nothing to tell. -/
theorem announces_of_views (hl : SameLinks x.arena (x.after d o).arena)
    (hv : ∀ j, ((x.after d o).arena.view? j).map Snapshot.settle = (x.arena.view? j).map Snapshot.settle) :
    x.Announces d o := fun j hj hn => absurd ⟨by rw [hl.contains, hj], .inl (hv j)⟩ hn

theorem announces_iff_speaks (h : x.Sound) (hn : x.Nested) (hs : SparesRoots x d o) :
    x.Announces d o ↔ x.Speaks d o := by
  cases o with
  | collect areas c => exact announces_collect_iff h hn hs
  | edit e => exact announces_edit_iff h d e
  | search queries c =>
    refine iff_of_true ?_ trivial
    obtain ⟨hu, -⟩ := perform_multiSearch h queries c
    have hafter : x.after d (.search queries c) = (x.perform (multiSearch queries c)).2 := by
      rw [after, Operation.work, perform_discard]
    exact announces_of_views (hafter ▸ hu.links) (hafter ▸ hu.views)
  | live q c =>
    refine iff_of_true ?_ trivial
    obtain ⟨⟨y, hu, hy⟩, -⟩ := perform_subscribedSearch h q c
    have hafter : (x.after d (.live q c)).arena = y.arena := by
      rw [after, Operation.work, perform_discard]
      rcases hy with hy | hy <;> rw [hy]
    exact announces_of_views (hafter ▸ hu.links) (hafter ▸ hu.views)
  | watch on =>
    refine iff_of_true ?_ trivial
    obtain ⟨ha, -⟩ := keys_watch h d on
    exact announces_of_views (ha ▸ .refl _) fun j => by rw [ha]

/-- **A run keeps its roots and tells of every node that goes exactly as long as each step spares the roots and lets no
node go in silence.** -/
theorem announces_iff (s : Settings) (run : List (Disk × Operation)) :
    Throughout (fun x d o => KeepsRoots x d o ∧ x.Announces d o) (ofSettings s) run ↔
      Throughout (fun x d o => SparesRoots x d o ∧ x.Speaks d o) (ofSettings s) run := by
  refine along_iff (I := fun x => x.Sound ∧ x.Nested) ⟨sound_ofSettings s, nested_ofSettings s⟩ ?_ ?_
  · rintro x ⟨d, o⟩ ⟨hx, hn⟩
    exact (and_congr_left' hx.keeps_iff_spares).trans (and_congr_right fun hs => announces_iff_speaks hx hn hs)
  · rintro x ⟨d, o⟩ ⟨hx, hn⟩ ⟨hs, -⟩
    exact ⟨(hx.after hs).1, hn.after hx hs⟩

/-! ## A node that goes in silence -/

/-- A directory with nothing in it. -/
def bareDisk : Disk := ⟨.directory [("a", .directory [])]⟩

/-- The same directory with a file in it. -/
def filledDisk : Disk := ⟨.directory [("a", .directory [("f", .file (.zeros 0) 0 false)])]⟩

/-- An area that does not reach below its entries, and the place of the file in it as an area of its own. -/
def doubledAreas : List Area := [⟨⟨"a"⟩, false⟩, ⟨⟨"a/f"⟩, true⟩]

/-- The file comes once the areas were collected, and is reported for both of them. -/
def doubledRun : List (Disk × Operation) :=
  [(bareDisk, .collect doubledAreas {}), (filledDisk, .edit (.event ⟨"a/f"⟩ (.created ⟨"a/f"⟩))),
    (filledDisk, .edit (.event ⟨"a"⟩ (.created ⟨"a/f"⟩)))]

/-- The index of the areas without the file. -/
def bareIndex : Index where
  arena :=
    { slots := #[
        some { name := "a", fuzzy := "A", word := "A", metadata := (Entry.directory []).metadata,
               anchor := some ⟨""⟩ }]
      live := 1 }
  trees :=
    [{ area := ⟨⟨"a"⟩, false⟩, root := some ⟨0⟩, includeHidden := true },
      { area := ⟨⟨"a/f"⟩, true⟩, root := none, includeHidden := true }]

/-- The index once the file was reported for its own area. -/
def rootedIndex : Index where
  arena :=
    { slots := #[
        some { name := "a", fuzzy := "A", word := "A", metadata := (Entry.directory []).metadata,
               anchor := some ⟨""⟩ },
        some { name := "f", fuzzy := "F", word := "F", metadata := {}, flags := { added := true },
               anchor := some ⟨"a"⟩, knownPath := some ⟨"a/f"⟩ }]
      live := 2 }
  trees :=
    [{ area := ⟨⟨"a"⟩, false⟩, root := some ⟨0⟩, includeHidden := true },
      { area := ⟨⟨"a/f"⟩, true⟩, root := some ⟨1⟩, includeHidden := true }]
  size := 1
  counter := 1

/-- The index behind the run: the file has a node in either tree. -/
def doubledIndex : Index :=
  { rootedIndex with
    arena :=
      { slots := #[
          some { name := "a", fuzzy := "A", word := "A", metadata := (Entry.directory []).metadata,
                 anchor := some ⟨""⟩, children := [⟨2⟩] },
          some { name := "f", fuzzy := "F", word := "F", metadata := {}, flags := { added := true },
                 anchor := some ⟨"a"⟩, knownPath := some ⟨"a/f"⟩ },
          some { name := "f", fuzzy := "F", word := "F", metadata := {}, flags := { added := true },
                 parent := some ⟨0⟩, knownPath := some ⟨"a/f"⟩ }]
        live := 3 }
    size := 2
    counter := 2 }

theorem perform_gather_bare : (ofSettings {}).perform (gather bareDisk doubledAreas {}) =
    (.ok { complete := true, changed := true }, bareIndex) := by
  cbv

theorem gathering_bare : bareIndex.Gathering := by
  obtain ⟨g, y, hg, hy, -⟩ := perform_gather (sound_ofSettings {}) bareDisk doubledAreas {}
  rw [perform_gather_bare, Prod.mk.injEq] at hg
  exact hg.2 ▸ hy

theorem displaced?_bare : ∀ p ∈ pairs bareIndex.trees.length, bareIndex.displaced? p.1 p.2 = none := by
  decide +kernel

theorem after_collect_bare : (ofSettings {}).after bareDisk (.collect doubledAreas {}) = bareIndex := by
  have hmerge : bareIndex.perform merge = (.ok ⟨⟩, bareIndex) := by
    rw [perform_merge]
    exact perform_adoptAll_idle gathering_bare.sound displaced?_bare
  rw [after, Operation.work, perform_discard, collect, perform_bind_ok perform_gather_bare]
  simp only [if_true, perform_bind_ok hmerge]
  rfl

theorem after_created_rooted :
    bareIndex.after filledDisk (.edit (.event ⟨"a/f"⟩ (.created ⟨"a/f"⟩))) = rootedIndex := by
  cbv

theorem after_created_doubled :
    rootedIndex.after filledDisk (.edit (.event ⟨"a"⟩ (.created ⟨"a/f"⟩))) = doubledIndex := by
  cbv

theorem behind_doubledRun : (ofSettings {}).behind doubledRun = doubledIndex := by
  simp only [doubledRun, behind, List.foldl_cons, List.foldl_nil, step, after_collect_bare, after_created_rooted,
    after_created_doubled]

theorem sparesRoots_doubledRun : Throughout SparesRoots (ofSettings {}) doubledRun := by
  simp only [doubledRun, Throughout, Along, step, after_collect_bare, after_created_rooted]
  refine ⟨?_, spares_created .., spares_created .., trivial⟩
  rw [SparesRoots, CollectSpares, perform_gather_bare]
  exact fun _ => mergeSpares_idle gathering_bare.sound displaced?_bare

theorem perform_gather_doubled : doubledIndex.perform (gather filledDisk doubledAreas {}) =
    (.ok { complete := true, changed := false }, doubledIndex) := by
  cbv

theorem mergeSpares_doubled (h : doubledIndex.Sound) : MergeSpares doubledIndex (pairs doubledIndex.trees.length) := by
  have ha : Adoption doubledIndex 0 1 _ _ ⟨0⟩ ⟨1⟩ ⟨2⟩ :=
    ⟨rfl, rfl, by decide, rfl, by decide +kernel, rfl, rfl, ⟨"f", rfl, rfl⟩, by decide⟩
  have hadopt := ha.perform h.forest rfl
  have h00 : doubledIndex.perform (adopt 0 0) = (.ok ⟨⟩, doubledIndex) := rfl
  have hpairs : pairs doubledIndex.trees.length = [(0, 0), (0, 1), (1, 0), (1, 1)] := rfl
  rw [hpairs, MergeSpares, MergeSpares, h00, hadopt]
  refine ⟨fun s hs => ?_, fun s hs => ?_, fun s hs => ?_, fun s hs => ?_, trivial⟩
  · cases (show none = some s from hs)
  · obtain rfl : ⟨2⟩ = s := Option.some.inj hs
    decide
  · cases (show none = some s from hs)
  · cases (show none = some s from hs)

/-- **Not every run tells of all nodes that go**: a collect that changes no tree lets one take the place of an entry
that came in between. -/
theorem not_forall_announces : ¬∀ s run, Throughout Announces (ofSettings s) run := by
  intro h
  have hrun := h {} (doubledRun ++ [(filledDisk, .collect doubledAreas {})])
  simp only [doubledRun, List.cons_append, List.nil_append, Throughout, Along, step, after_collect_bare,
    after_created_rooted, after_created_doubled] at hrun
  obtain ⟨hsound, hnested⟩ := sound_behind sparesRoots_doubledRun
  rw [behind_doubledRun] at hsound hnested
  have hspares : CollectSpares doubledIndex filledDisk doubledAreas {} := by
    rw [CollectSpares, perform_gather_doubled]
    exact fun _ => mergeSpares_doubled hsound
  have hspeaks := (announces_collect_iff hsound hnested hspares).1 hrun.2.2.2.1
  rw [CollectSpeaks, perform_gather_doubled] at hspeaks
  cases hspeaks rfl rfl (0, 1) (by decide)

end Index

end FileIndex
