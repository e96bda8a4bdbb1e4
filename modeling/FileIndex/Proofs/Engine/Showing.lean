/-
What live results make of the effects of edits. They follow what they are told, so they stay what a search would find
as long as an effect tells of all nodes that come, go or change for the query, and gives none that the query admits
and a search does not go over (`Effect.Shows`).
-/
import FileIndex.Proofs.Engine.Matching
import FileIndex.Proofs.Index.Effect

namespace FileIndex

open Arena

/-- Whether what an effect tells is what a query has to know. The arenas are those before and behind it. -/
def Effect.Shows (q : CompiledQuery) (a b : Arena) : Effect → Prop
  | .idle | .refuse | .cut _ _ => True
  -- Growth without an answer is told to nobody.
  | .grow _ _ _ none => ∀ j, ¬a.contains j = true → ¬b.Finds q j
  -- All new nodes are given, also the directory at the root of an area.
  | .grow _ _ _ (some top) => ∀ j, b.Below top j → b.Admits q j → b.Searchable j
  -- What is replaced is told of if it was found at the new path.
  | .rename id name _ replaced =>
    (∀ j, b.Below id j → b.Admits q j → b.Searchable j) ∧
      (replaced = [] → ∀ s, a.rival? id name = some s → ∀ j, a.Below s j → ¬a.Finds q j)
  -- The kind of a topmost node decides about all nodes below it, but only the node itself is told of.
  | .update id _ =>
    (b.Admits q id → b.Searchable id) ∧
      ∀ j, j ≠ id → b.Admits q j → (b.Searchable j ↔ a.Searchable j)

variable {a b d : Arena} {l : LiveResults} {replaced : List NodeId} {nodes : List Snapshot} {s : Snapshot}
  {x y : Index} {e : Effect} {id i j top : NodeId} {parent : Option NodeId} {name : String}

namespace LiveResults

theorem followAll_toldReplaced (l : LiveResults) (nodes : List Snapshot) :
    l.followAll (Index.toldReplaced nodes) = .ok (l.without nodes) := by
  cases nodes with
  | nil =>
    simp only [without, List.any_nil, Bool.not_false, List.filter_true]
    rfl
  | cons s nodes => rfl

/-- Following a rename, and before it the removal of what it replaces. -/
theorem followAll_rename (h : l.query.Total) (nodes : List Snapshot) (old : Path) (gone : List Snapshot) :
    ∃ entries, l.followAll (Index.toldReplaced gone ++ [.rename nodes old]) = .ok { l with entries } ∧
      entries.Perm (l.entries.filter (·.id ∉ gone.map Snapshot.id ++ nodes.map Snapshot.id) ++
        nodes.filter fun s => l.query.admitting s.item) := by
  obtain ⟨entries, he, hp⟩ := follow_spec (l := l.without gone) (c := .rename nodes old) h nofun nofun
  refine ⟨entries, ?_, ?_⟩
  · rw [followAll_append (followAll_toldReplaced l gone), followAll_singleton, he]
    rfl
  · rw [without_entries, List.filter_filter] at hp
    refine hp.trans (.of_eq ?_)
    congr 1
    refine List.filter_congr fun s _ => ?_
    change (decide (s.id ∉ nodes.map Snapshot.id) && decide (s.id ∉ gone.map Snapshot.id)) = _
    rw [Bool.eq_iff_iff]
    simp only [List.mem_append, not_or, Bool.and_eq_true, decide_eq_true_eq, and_comm]

end LiveResults

namespace Index

/-! ## Effect by effect -/

theorem shows_idle (hm : a.Matches l.query l.entries) (hal : Alike a b) (ha : a.WellFormed) :
    b.Matches l.query l.entries :=
  hm.congr hal.searchable fun j => by rw [hal.view? ha]

/-- Growth of which nothing is told. -/
theorem shows_untold (hm : a.Matches l.query l.entries) (hb : b.WellFormed)
    (hold : ∀ j, a.contains j = true → (b.Searchable j ↔ a.Searchable j) ∧ b.view? j = a.view? j) :
    b.Matches l.query l.entries ↔ ∀ j, ¬a.contains j = true → ¬b.Finds l.query j := by
  have hp : l.entries.Perm (l.entries.filter (·.id ∉ ([] : List NodeId)) ++
      (b.views []).filter fun s => l.query.admitting s.item) := by simp [views]
  rw [hm.iff_of_change hb hp List.nodup_nil (by simp) (by simp) fun j _ hj _ => by rw [(hold j hj).2]]
  simp only [List.not_mem_nil, not_false_eq_true, and_true, false_and, or_false]
  have hsame : ∀ j, a.contains j = true → (b.Finds l.query j ↔ a.Finds l.query j) := fun j hj =>
    finds_congr (hold j hj).1 (by rw [(hold j hj).2])
  constructor
  · exact fun hall j hj hf => hj ((hall j).1 hf).1.live
  · intro hall j
    by_cases hj : a.contains j = true
    · exact hsame j hj
    · exact ⟨fun hf => absurd hf (hall j hj), fun hf => absurd hf.1.live hj⟩

/-- Growth of which all new nodes are given. -/
theorem shows_grown (hq : l.query.Total) (hm : a.Matches l.query l.entries) (ha : a.WellFormed)
    (hg : Grown a b parent top) (hal : Alike b y.arena) :
    ∃ entries, l.followAll [.add (b.views (b.subtree top))] = .ok { l with entries } ∧
      (y.arena.Matches l.query entries ↔
        ∀ j, y.arena.Below top j → y.arena.Admits l.query j → y.arena.Searchable j) := by
  have hb := hg.wellFormed
  have hsub : ∀ j, j ∈ b.subtree top ↔ b.Below top j := fun j => hb.mem_subtree hg.contains_top
  have hids : (b.views (b.subtree top)).map Snapshot.id = b.subtree top :=
    hb.map_id_views (hb.contains_of_mem_subtree hg.contains_top)
  have hfresh : ∀ j ∈ b.subtree top, ¬a.contains j = true := fun j hj => hg.fresh j ((hsub j).1 hj)
  obtain ⟨entries, he, hp⟩ := LiveResults.follow_spec (c := .add (b.views (b.subtree top))) hq nofun
    fun nodes hn => by
      cases hn
      refine ⟨by rw [hids]; exact hb.nodup_subtree top, fun s hs hmem => ?_⟩
      exact hfresh s.id (hids ▸ List.mem_map_of_mem hs) ((hm.mem_iff s.id).1 hmem).1.live
  refine ⟨entries, by rw [LiveResults.followAll_singleton, he], ?_⟩
  simp only [IndexChange.nodes, IndexChange.given, hids] at hp
  rw [← hal.views hb] at hp
  rw [hm.iff_of_change (hal.sameLinks.wellFormed hb) hp (hb.nodup_subtree top)
    (fun j hj => by rw [hal.contains]; exact ((hsub j).1 hj).contains hg.contains_top)
    (fun j hj => .inl hj) fun j _ hj _ => by rw [hal.view? hb, hg.view?_old ha hj]]
  simp only [hal.sameLinks.below, hsub]
  constructor
  · exact fun hall j hj hadm => ((hall j).2 (.inr ⟨hj, hadm⟩)).1
  · intro hall j
    by_cases hj : b.Below top j
    · simp only [hj, not_true_eq_false, and_false, true_and, false_or]
      exact ⟨fun hf => hf.2, fun hadm => ⟨hall j hj hadm, hadm⟩⟩
    · simp only [hj, not_false_eq_true, and_true, false_and, or_false]
      by_cases hlive : a.contains j = true
      · exact finds_congr ((hal.searchable j).trans (hg.searchable_old ha hlive))
          (by rw [hal.view? hb, hg.view?_old ha hlive])
      · have hgone : ¬y.arena.contains j = true := by
          rw [hal.contains, hg.contains_iff]
          exact fun h => h.elim hlive hj
        exact iff_of_false (fun hf => hgone hf.1.live) fun hf => hlive hf.1.live

theorem shows_cut (hq : l.query.Total) (hm : a.Matches l.query l.entries) (ha : a.WellFormed)
    (hid : a.contains id = true) (hc : Cut a b id) (hids : nodes.map Snapshot.id = a.subtree id) :
    ∃ entries, l.followAll [.remove nodes] = .ok { l with entries } ∧ b.Matches l.query entries := by
  obtain ⟨entries, he, hp⟩ := LiveResults.follow_spec (c := .remove nodes) hq (by simp) (by simp)
  refine ⟨entries, by rw [LiveResults.followAll_singleton, he], ?_⟩
  simp only [IndexChange.nodes, IndexChange.given, hids] at hp
  replace hp : entries.Perm (l.entries.filter (·.id ∉ a.subtree id) ++
      (b.views []).filter fun s => l.query.admitting s.item) := hp
  rw [hm.iff_of_change hc.wellFormed hp List.nodup_nil (by simp) (by simp)
    fun j _ _ hj => by rw [hc.view?_rest ha hj]]
  intro j
  simp only [ha.mem_subtree hid, List.not_mem_nil, false_and, or_false]
  by_cases hj : b.contains j = true
  · rw [finds_congr (hc.searchable_rest ha (hc.not_below hj)) (by rw [hc.view?_rest ha hj])]
    exact (and_iff_left (hc.not_below hj)).symm
  · rw [hc.contains_iff] at hj
    exact iff_of_false (fun hf => hj (hc.contains_iff.1 hf.1.live)) fun hf => hj ⟨hf.1.1.live, hf.2⟩

theorem shows_rename (hq : l.query.Total) (hm : a.Matches l.query l.entries) (ha : a.WellFormed)
    (hid : a.contains id = true)
    (hr : replaced = [] ∨ ∃ s, a.rival? id name = some s ∧ replaced = a.subtree s) (hal : Alike a b)
    (hd : Alike ((b.cleared id name).renamed id name) d) (old : Path) :
    ∃ entries, l.followAll (toldReplaced (a.views replaced) ++ [.rename (d.views (d.subtree id)) old]) =
        .ok { l with entries } ∧
      (d.Matches l.query entries ↔ (Effect.rename id name old replaced).Shows l.query a d) := by
  have hwf : d.WellFormed := hd.sameLinks.wellFormed
    ((sameLinks_renamed _ id name).wellFormed ((hal.sameLinks.wellFormed ha).cleared id name))
  have hlive : ∀ j, d.contains j = true ↔ _ := fun j => contains_renamed ha hal hd
  have hidd : d.contains id = true := (hlive id).2 ⟨hid, fun s hs => not_below_rival ha hs⟩
  have hsub : ∀ j, j ∈ d.subtree id ↔ d.Below id j := fun j => hwf.mem_subtree hidd
  have hgone : ∀ j ∈ replaced, a.contains j = true ∧ ¬d.contains j = true := by
    intro j hj
    rcases hr with rfl | ⟨s, hs, rfl⟩
    · cases hj
    · obtain ⟨-, -, p, -, hsp, -⟩ := rival?_spec ha hs
      have hb := ha.below_of_mem_subtree hj
      exact ⟨hb.contains (contains_of_parent? hsp), fun hl => ((hlive j).1 hl).2 s hs hb⟩
  have hids : (d.views (d.subtree id)).map Snapshot.id = d.subtree id :=
    hwf.map_id_views (hwf.contains_of_mem_subtree hidd)
  have hrest : ∀ j, d.contains j = true → ¬d.Below id j → d.view? j = a.view? j := fun j hj hn =>
    view?_renamed_rest ha hal hd hj (by rwa [← below_renamed ha hal hd hj])
  obtain ⟨entries, he, hp⟩ := l.followAll_rename hq (d.views (d.subtree id)) old (a.views replaced)
  refine ⟨entries, he, ?_⟩
  rw [ha.map_id_views fun j hj => (hgone j hj).1, hids] at hp
  rw [hm.iff_of_change hwf hp (hwf.nodup_subtree id) (hwf.contains_of_mem_subtree hidd)
    (fun j hj => .inl (List.mem_append_right _ hj)) fun j hj _ hjd => by
      rw [hrest j hjd fun hb => hj (List.mem_append_right _ ((hsub j).2 hb))]]
  simp only [List.mem_append, not_or, hsub]
  constructor
  · refine fun hall => ⟨fun j hj hadm => ((hall j).2 (.inr ⟨hj, hadm⟩)).1, ?_⟩
    rintro rfl s hs j hj hf
    have hdead : ¬d.contains j = true := fun hl => ((hlive j).1 hl).2 s hs hj
    exact hdead ((hall j).2 (.inl ⟨hf, List.not_mem_nil, fun hb => hdead (hb.contains hidd)⟩)).1.live
  · rintro ⟨hgiven, hlost⟩ j
    by_cases hj : d.contains j = true
    · by_cases hb : d.Below id j
      · simp only [hb, not_true_eq_false, and_false, true_and, false_or]
        exact ⟨fun hf => hf.2, fun hadm => ⟨hgiven j hb hadm, hadm⟩⟩
      · have hnot : j ∉ replaced := fun hm => (hgone j hm).2 hj
        simp only [hb, hnot, not_false_eq_true, and_true, false_and, or_false]
        refine finds_congr ?_ (by rw [hrest j hj hb])
        rw [searchable_renamed ha hal hd]
        exact and_iff_left ((hlive j).1 hj).2
    · refine iff_of_false (fun hf => hj hf.1.live) ?_
      rintro (⟨hf, hnot, -⟩ | ⟨hb, -⟩)
      · -- The node went with the rival, so it was told of or is not found.
        obtain ⟨s, hs, hb⟩ : ∃ s, a.rival? id name = some s ∧ a.Below s j := by
          by_contra hno
          push Not at hno
          exact hj ((hlive j).2 ⟨hf.1.live, hno⟩)
        rcases hr with rfl | ⟨u, hu, rfl⟩
        · exact hlost rfl s hs j hb hf
        · obtain rfl : u = s := Option.some.inj (hu.symm.trans hs)
          obtain ⟨-, -, p, -, hup, -⟩ := rival?_spec ha hu
          exact hnot ((ha.mem_subtree (contains_of_parent? hup)).2 hb)
      · exact hj (hb.contains hidd)

theorem shows_update {f : Node → Node} (hq : l.query.Total) (hm : a.Matches l.query l.entries)
    (ha : a.WellFormed) (hid : a.contains id = true) (hf : InPlace f) (hal : Alike (a.modify id f) b)
    (hs : b.view? id = some s) : ∃ entries, l.followAll [.update [s]] = .ok { l with entries } ∧
      (b.Matches l.query entries ↔ (Effect.update id f).Shows l.query a b) := by
  have hl : SameLinks a (a.modify id f) := sameLinks_modify hf.parent hf.children
  have hwf := hal.sameLinks.wellFormed (hl.wellFormed ha)
  have hview : ∀ j, j ≠ id → b.view? j = a.view? j := fun j hj => by
    rw [hal.view? (hl.wellFormed ha), view?_modify ha hf.parent hf.children hf.name hf.anchor hj]
  have hgiven : b.views [id] = [s] := views_cons hs
  obtain ⟨entries, he, hp⟩ := LiveResults.follow_spec (c := .update [s]) hq nofun nofun
  refine ⟨entries, by rw [LiveResults.followAll_singleton, he], ?_⟩
  simp only [IndexChange.nodes, IndexChange.given, List.map_singleton, view?_id hs] at hp
  rw [← hgiven] at hp
  rw [hm.iff_of_change hwf hp (List.nodup_singleton id)
    (fun j hj => by rw [List.mem_singleton.1 hj, hal.contains, hl.contains, hid]) (fun j hj => .inl hj)
    fun j hj _ _ => by rw [hview j fun h => hj (List.mem_singleton.2 h)]]
  simp only [List.mem_singleton]
  constructor
  · intro hall
    refine ⟨fun hadm => ((hall id).2 (.inr ⟨rfl, hadm⟩)).1, fun j hj hadm => ?_⟩
    have hsame : b.Admits l.query j ↔ a.Admits l.query j := admits_congr (by rw [hview j hj])
    have := hall j
    simp only [Finds, hj, hadm, hsame.1 hadm, not_false_eq_true, and_true, or_false] at this
    exact this
  · rintro ⟨hself, hothers⟩ j
    by_cases hj : j = id
    · subst hj
      simp only [not_true_eq_false, and_false, true_and, false_or]
      exact ⟨fun h => h.2, fun hadm => ⟨hself hadm, hadm⟩⟩
    · have hsame : b.Admits l.query j ↔ a.Admits l.query j := admits_congr (by rw [hview j hj])
      simp only [hj, not_false_eq_true, and_true, false_and, or_false, Finds, ← hsame]
      exact and_congr_left fun hadm => hothers j hj hadm

/-- **Following what an effect tells keeps the results what a search would find exactly if the effect shows the
query all it has to know.** -/
theorem Realizes.follow (h : x.Sound) (hr : Realizes x e y) (hq : l.query.Total)
    (hm : x.arena.Matches l.query l.entries) :
    ∃ changes entries, y.feed = changes.foldl Feed.publish x.feed ∧
      l.followAll changes = .ok { l with entries } ∧
      (y.arena.Matches l.query entries ↔ e.Shows l.query x.arena y.arena) := by
  have ha := h.wellFormed
  cases hr with
  | idle => exact ⟨[], l.entries, rfl, rfl, iff_of_true hm trivial⟩
  | refuse hal _ _ ht => exact ⟨[], l.entries, ht.feed, rfl, iff_of_true (shows_idle hm hal ha) trivial⟩
  | @grow i t t' p b made _ _ hout hal _ _ hnone hsome =>
    cases hout with
    | unchanged =>
      refine ⟨[], l.entries, (hnone rfl).feed, rfl, iff_of_true (shows_idle hm hal ha) ?_⟩
      exact fun j hj hf => hj (by rw [← hal.contains]; exact hf.1.live)
    | root _ hg hmade | below _ _ hg hmade =>
      have hb := hg.wellFormed
      rcases hmade with rfl | ⟨rfl, -⟩
      · obtain ⟨entries, he, hiff⟩ := shows_grown hq hm ha hg.toGrown hal
        exact ⟨_, entries, (hsome _ rfl).feed, he, hiff⟩
      · refine ⟨[], l.entries, (hnone rfl).feed, rfl, shows_untold hm (hal.sameLinks.wellFormed hb) ?_⟩
        exact fun j hj => ⟨(hal.searchable j).trans (hg.searchable_old ha hj), by
          rw [hal.view? hb, hg.view?_old ha hj]⟩
  | cut _ hid hc _ _ hids ht =>
    obtain ⟨entries, he, hmatch⟩ := shows_cut hq hm ha hid hc hids
    exact ⟨_, entries, ht.feed, he, iff_of_true hmatch trivial⟩
  | @rename id name old replaced b _ hid hr hal _ hc _ _ ht =>
    obtain ⟨entries, he, hiff⟩ := shows_rename hq hm ha hid hr hal hc old
    exact ⟨_, entries, ht.feed, he, hiff⟩
  | update hid hf hal _ _ hs ht =>
    obtain ⟨entries, he, hiff⟩ := shows_update hq hm ha hid hf hal hs
    exact ⟨_, entries, ht.feed, he, hiff⟩

end Index

end FileIndex
