/-
Trees in trees. A root with a parent lies directly in the area of the tree that its parent is the root of: collects
set it up so, and no edit changes it (`Index.Nested`). What a collect does on the way is told step by step
(`Goes`), and what its adoptions keep is proved by induction on the pairs that are left (`Merging.induct`).
-/
import FileIndex.Proofs.Index.Run

namespace FileIndex.Index

open Arena

variable {x y m z : Index} {d : Disk} {o : Operation} {e : Effect} {areas : List Area} {c : Cancellation}
  {g : Gathered} {rest : List (Nat × Nat)} {t u : Tree} {r q s : NodeId}

/-- Whether every root with a parent lies directly in the area of that parent's tree. -/
def Nested (x : Index) : Prop := ∀ t ∈ x.trees, ∀ u ∈ x.trees, ∀ r q, t.root = some r → u.root = some q →
  x.arena.parent? r = some q → u.area.isParentOf t.area = true

theorem nested_ofSettings (s : Settings) : (ofSettings s).Nested := nofun

/-! ## Operations that lose nodes at most -/

/-- What an operation leaves that takes nodes away at most: no new node, and no other parent for any of them. -/
structure Shrinks (x y : Index) : Prop where
  live : ∀ j, y.arena.contains j = true → x.arena.contains j = true
  parent? : ∀ j, y.arena.contains j = true → y.arena.parent? j = x.arena.parent? j
  trees : ∀ t' ∈ y.trees, ∃ t ∈ x.trees, t.area = t'.area ∧ ∀ r, t'.root = some r → t.root = some r

theorem shrinks_of_links (hl : SameLinks x.arena y.arena) (ht : y.trees = x.trees) : Shrinks x y where
  live j hj := by rwa [hl.contains] at hj
  parent? j _ := hl.parent? j
  trees t ht' := ⟨t, ht ▸ ht', rfl, fun _ hr => hr⟩

theorem Shrinks.nested (h : Shrinks x y) (hy : y.Sound) (hn : x.Nested) : y.Nested := by
  intro t ht u hu r q hr hq hp
  obtain ⟨t', ht', hta, htr⟩ := h.trees t ht
  obtain ⟨u', hu', hua, hur⟩ := h.trees u hu
  rw [h.parent? r (hy.contains_root ht r hr)] at hp
  exact hta ▸ hua ▸ hn t' ht' u' hu' r q (htr r hr) (hur q hq) hp

theorem Realizes.shrinks (h : x.Sound) (hr : Realizes x e y) : Shrinks x y ∨ ∃ i t b made, e = .grow i t b made := by
  cases hr with
  | idle => exact .inl (shrinks_of_links (.refl _) rfl)
  | refuse hal _ ht _ => exact .inl (shrinks_of_links hal.sameLinks ht)
  | @grow i t t' p b made => exact .inr ⟨i, t', b, made, rfl⟩
  | cut _ _ hc _ ht _ _ =>
    refine .inl ⟨fun j hj => (hc.contains_iff.1 hj).1, fun j hj => hc.parent?_rest (hc.not_below hj), fun t' ht' => ?_⟩
    rw [ht] at ht'
    obtain ⟨t, hm, rfl⟩ := List.mem_map.1 ht'
    refine ⟨t, hm, ?_, fun r hr => ?_⟩ <;> unfold forgetRoots at *
    · split <;> rfl
    · split at hr
      · cases hr
      · exact hr
  | @rename id name old replaced b _ _ _ hal _ hc _ ht _ =>
    have hlinks : SameLinks (b.cleared id name) y.arena := (sameLinks_renamed _ id name).trans hc.sameLinks
    refine .inl ⟨fun j hj => ?_, fun j hj => ?_, fun t ht' => ⟨t, ht ▸ ht', rfl, fun _ hr => hr⟩⟩ <;>
      rw [hlinks.contains, Arena.cleared] at hj
    · split at hj
      · have hcut := (hal.sameLinks.wellFormed h.wellFormed).cut_cutAt
        rw [← hal.contains]
        exact ((hcut _).contains_iff.1 hj).1
      · rwa [← hal.contains]
    · rw [hlinks.parent?, Arena.cleared]
      split at hj
      · have hcut := (hal.sameLinks.wellFormed h.wellFormed).cut_cutAt
        rw [(hcut _).parent?_rest ((hcut _).not_below hj), hal.parent?]
      · exact hal.parent? j
  | update _ hf hal _ ht _ _ =>
    exact .inl (shrinks_of_links ((sameLinks_modify hf.parent hf.children).trans hal.sameLinks) ht)

/-- What an addition comes to: nothing, or a tree of new nodes. -/
theorem Realizes.grown {i : Nat} {t' : Tree} {b : Arena} {made : Option NodeId}
    (hr : Realizes x (.grow i t' b made) y) : ∃ t p, x.trees[i]? = some t ∧ Tree.AddOutcome t x.arena p made t' b ∧
      Alike b y.arena ∧ y.trees = x.trees.set i t' := by
  cases hr with
  | grow hi hout hal _ ht _ _ => exact ⟨_, _, hi, hout, hal, ht⟩

theorem Realizes.nested (h : x.Sound) (hr : Realizes x e y) (hs : e.Spares x) (hn : x.Nested) : y.Nested := by
  have hy := hr.sound h hs
  rcases hr.shrinks h with hshrinks | ⟨i, t', b, made, rfl⟩
  · exact hshrinks.nested hy hn
  · obtain ⟨t, p, hi, hout, hal, htrees⟩ := hr.grown
    have hsame : x.trees.set i t = x.trees := by
      obtain ⟨hlt, rfl⟩ := List.getElem?_eq_some_iff.1 hi
      exact List.set_getElem_self hlt
    cases hout with
    | unchanged => exact (shrinks_of_links hal.sameLinks (htrees.trans hsame)).nested hy hn
    | below _ _ hg _ =>
      intro u hu v hv r q hr hq hp
      rw [htrees, hsame] at hu hv
      rw [hal.parent?, hg.parent?_old (h.contains_root hu r hr)] at hp
      exact hn u hu v hv r q hr hq hp
    | @root b top _ hroot hg _ =>
      -- The new root has no parent and no child that is a root.
      have hold : ∀ u ∈ y.trees, ∀ r, u.root = some r → r ≠ top → u ∈ x.trees := by
        intro u hu r hr hne
        rw [htrees] at hu
        rcases List.mem_or_eq_of_mem_set hu with hu | rfl
        · exact hu
        · exact absurd (Option.some.inj hr).symm hne
      intro u hu v hv r q hr hq hp
      rw [hal.parent?] at hp
      have hrt : r ≠ top := by
        rintro rfl
        rw [hg.parent?_top] at hp
        cases hp
      have hux := hold u hu r hr hrt
      have hlive := h.contains_root hux r hr
      rw [hg.parent?_old hlive] at hp
      have hqt : q ≠ top := by
        rintro rfl
        exact hg.fresh q (.refl _ q) (h.wellFormed.contains_parent hp)
      exact hn u hux v (hold v hv q hq hqt) r q hr hq hp

/-! ## Adoptions -/

/-- What idle pairs and adoptions keep is so behind a merge. -/
theorem Merging.induct {I : Index → List (Nat × Nat) → Prop} (h : x.Merging rest) (hs : MergeSpares x rest)
    (hI : I x rest)
    (hidle : ∀ (x : Index) (p c : Nat) rest, x.Merging ((p, c) :: rest) → x.displaced? p c = none →
      I x ((p, c) :: rest) → I x rest)
    (hadopt : ∀ (x : Index) (p c : Nat) rest parent child parentRoot childRoot s, x.Merging ((p, c) :: rest) →
      Adoption x p c parent child parentRoot childRoot s → s ∉ Tree.roots x.trees → I x ((p, c) :: rest) →
      I (x.adopted c s parentRoot childRoot) rest) :
    ∃ y, x.perform (adoptAll rest) = (.ok ⟨⟩, y) ∧ y.Merging [] ∧ I y [] ∧ y.feed = x.feed ∧
      y.includeHidden = x.includeHidden := by
  induction rest generalizing x with
  | nil => exact ⟨x, rfl, h, hI, rfl, rfl⟩
  | cons pc rest ih =>
    obtain ⟨p, c⟩ := pc
    obtain ⟨hs, hrest⟩ := hs
    cases hd : x.displaced? p c with
    | none =>
      have hrun := perform_adopt_idle h.sound.forest hd
      rw [hrun] at hrest
      rw [adoptAll, perform_bind_ok hrun]
      exact ih h.tail hrest (hidle x p c rest h hd hI)
    | some s =>
      obtain ⟨parent, child, parentRoot, childRoot, ha⟩ := adoption_of_displaced? hd
      have hrun := ha.perform h.sound.forest (h.isChild_eq_false ha)
      rw [hrun] at hrest
      rw [adoptAll, perform_bind_ok hrun]
      exact ih (h.adopted ha (hs s hd)) hrest
        (hadopt x p c rest parent child parentRoot childRoot s h ha (hs s hd) hI)

/-! ## Collects -/

/-- How a collect goes: it gathers, trees adopt each other unless a walk was canceled, and subscribers are told to
start anew if a tree was released or built. -/
structure Goes (d : Disk) (x : Index) (areas : List Area) (c : Cancellation) (g : Gathered) (y m z : Index) :
    Prop where
  gathered : x.perform (gather d areas c) = (.ok g, y)
  gathering : y.Gathering
  gathers : Gathers d x areas c g y
  spares : g.complete = true → MergeSpares y (pairs y.trees.length)
  merged : g.complete = true → y.perform merge = (.ok ⟨⟩, m)
  canceled : g.complete = false → m = y
  arena : z.arena = m.arena
  trees : z.trees = m.trees
  feed : z.feed = if g.changed then x.feed.publish .reset else x.feed

/-- What the end of a collect leaves, and what it tells. -/
theorem perform_end (h : m.Sound) (g : Gathered) : ∃ r z, m.perform (do
    let n ← recount
    publishReset g.changed
    return if g.complete then some n else none) = (.ok r, z) ∧ z.arena = m.arena ∧ z.trees = m.trees ∧
    z.feed = if g.changed then m.feed.publish .reset else m.feed := by
  have hcount := perform_recount h
  cases hc : g.changed with
  | false =>
    refine ⟨if g.complete then some m.entryIds.length else none, m.setSize m.entryIds.length, ?_, rfl, rfl, rfl⟩
    simp only [perform_bind, hcount, publishReset, Bool.false_eq_true, if_false, perform_pure]
  | true =>
    refine ⟨if g.complete then some m.entryIds.length else none, (m.setSize m.entryIds.length).publish .reset, ?_,
      rfl, rfl, rfl⟩
    simp only [perform_bind, hcount, publishReset, if_true, perform_modify, perform_pure]

theorem exists_goes (h : x.Sound) (hs : CollectSpares x d areas c) :
    ∃ g y m, Goes d x areas c g y m (x.after d (.collect areas c)) := by
  obtain ⟨g, y, hg, hy, hgathers⟩ := perform_gather h d areas c
  unfold CollectSpares at hs
  rw [hg] at hs
  -- Without a merge the index behind it is the gathered one.
  obtain ⟨m, hm, hfeed, hmerged, hcanceled⟩ : ∃ m : Index, m.Sound ∧ m.feed = x.feed ∧
      (g.complete = true → y.perform merge = (.ok ⟨⟩, m)) ∧ (g.complete = false → m = y) := by
    cases hc : g.complete with
    | false => exact ⟨y, hy.sound, hgathers.feed, nofun, fun _ => rfl⟩
    | true =>
      obtain ⟨m, hm, hms, hf⟩ := perform_adoptAll hy.merging (hs hc)
      exact ⟨m, hms, hf.trans hgathers.feed, fun _ => hm, nofun⟩
  obtain ⟨r, z, hz, ha, ht, hf⟩ := perform_end hm g
  rw [hfeed] at hf
  have hafter : x.after d (.collect areas c) = z := by
    rw [after, Operation.work, perform_discard, collect, perform_bind_ok hg]
    cases hc : g.complete with
    | false =>
      obtain rfl : m = y := hcanceled hc
      rw [hc] at hz
      exact congrArg Prod.snd hz
    | true =>
      rw [hc] at hz
      rw [if_pos rfl, perform_bind_ok (hmerged hc)]
      exact congrArg Prod.snd hz
  exact ⟨g, y, m, hg, hy, hgathers, hs, hmerged, hcanceled, hafter ▸ ha, hafter ▸ ht, hafter ▸ hf⟩

theorem Gathering.nested (h : y.Gathering) : y.Nested := h.merging.nested

theorem Goes.nested (h : Goes d x areas c g y m z) : z.Nested := by
  have hm : m.Nested := by
    cases hc : g.complete with
    | false => exact (h.canceled hc) ▸ h.gathering.nested
    | true =>
      obtain ⟨m', hrun, hmerging, -⟩ := Merging.induct (I := fun _ _ => True) h.gathering.merging (h.spares hc) trivial
        (fun _ _ _ _ _ _ _ => trivial) fun _ _ _ _ _ _ _ _ _ _ _ _ _ => trivial
      obtain rfl : m = m' := by
        have := (h.merged hc).symm.trans hrun
        exact congrArg Prod.snd this
      exact hmerging.nested
  unfold Nested
  rw [h.arena, h.trees]
  exact hm

/-! ## Runs -/

/-- Watching changes nothing of the arena, and of the trees nothing but the watchers. -/
theorem keys_watch (h : x.Sound) (d : Disk) (on : Bool) :
    (x.after d (.watch on)).arena = x.arena ∧ (x.after d (.watch on)).trees.map key = x.trees.map key := by
  cases on with
  | false =>
    refine ⟨rfl, ?_⟩
    change (x.trees.map fun t => { t with watcher := none }).map key = _
    rw [List.map_map]
    rfl
  | true =>
    obtain ⟨us, y, hus, hkeys, hya, -⟩ := perform_watchTrees d x.trees
      { x with isWatching := true, trees := [] } fun t ht r hr => h.contains_root ht r hr
    have hafter : x.after d (.watch true) = y.withTrees us := by
      simp only [after, Operation.work, setWatching, perform_bind, perform_get, perform_modify, if_true, hus]
    rw [hafter]
    exact ⟨hya, hkeys⟩

/-- What searches and watching leave has lost nothing. -/
theorem shrinks_after (h : x.Sound) (hc : ∀ areas c, o ≠ .collect areas c) (he : ∀ e, o ≠ .edit e) :
    Shrinks x (x.after d o) := by
  unfold Index.after
  cases o with
  | collect areas c => exact absurd rfl (hc areas c)
  | edit e => exact absurd rfl (he e)
  | search queries c =>
    obtain ⟨hu, -⟩ := perform_multiSearch h queries c
    rw [Operation.work, perform_discard]
    exact shrinks_of_links hu.links hu.trees
  | live q c =>
    obtain ⟨⟨y, hu, hy⟩, -⟩ := perform_subscribedSearch h q c
    rw [Operation.work, perform_discard]
    rcases hy with hy | hy <;> rw [hy]
    · exact shrinks_of_links hu.links hu.trees
    · exact shrinks_of_links (y := { y with feed := y.feed.subscribe.2 }) hu.links hu.trees
  | watch on =>
    obtain ⟨ha, hkeys⟩ := keys_watch h d on
    refine ⟨fun j hj => ha ▸ hj, fun j _ => by rw [← Index.after, ha], fun t' ht' => ?_⟩
    have hmem : key t' ∈ x.trees.map key := hkeys ▸ List.mem_map_of_mem ht'
    obtain ⟨t, ht, hkey⟩ := List.mem_map.1 hmem
    simp only [key, Prod.mk.injEq] at hkey
    exact ⟨t, ht, hkey.1, fun r hr => hkey.2.1.trans hr⟩

theorem Nested.after (h : x.Nested) (hx : x.Sound) (hs : SparesRoots x d o) : (x.after d o).Nested := by
  have hy := (hx.after hs).1
  cases o with
  | collect areas c =>
    obtain ⟨g, y, m, hgoes⟩ := exists_goes hx hs
    exact hgoes.nested
  | edit e => exact (ends_edit hx d e).realizes.nested hx hs h
  | search _ _ | live _ _ | watch _ => exact (shrinks_after hx (by simp) (by simp)).nested hy h

/-- What a run that spares the roots leaves is in order. -/
theorem sound_behind {s : Settings} {run : List (Disk × Operation)} (h : Throughout SparesRoots (ofSettings s) run) :
    ((ofSettings s).behind run).Sound ∧ ((ofSettings s).behind run).Nested :=
  h.invariant (I := fun x => x.Sound ∧ x.Nested) ⟨sound_ofSettings s, nested_ofSettings s⟩
    fun _ _ hx hs => ⟨(hx.1.after hs).1, hx.2.after hx.1 hs⟩

end FileIndex.Index
