/-
An index of one area that reaches all the way down, and the entry that it holds (`Index.Holds`): the root mirrors the
entry, and what lies below is counted. What a change of one path does to such an index is what it does to the entry.
-/
import FileIndex.Proofs.Index.Count
import FileIndex.Proofs.Tree.Mending

namespace FileIndex.Index

open Arena

variable {x y : Index} {t : Tree} {root p old new : Path} {d : Disk} {r id j : NodeId} {e f g : Entry} {ef : Effect}
  {names dir : List String} {name target : String} {children more : List (String × Entry)}

/-! ## An index with one tree -/

/-- In an index with one tree, all nodes stand below its root. -/
theorem Sound.below_root (h : x.Sound) (ht : x.trees = [t]) (hr : t.root = some r) (hj : x.arena.contains j = true) :
    x.arena.Below r j ∧ x.arena.parent? r = none := by
  obtain ⟨u, hu, top, htop, hparent, hb, -⟩ := h.forest.exists_top hj
  rw [ht, List.mem_singleton] at hu
  obtain rfl : r = top := by rw [hu, hr] at htop; exact Option.some.inj htop
  exact ⟨hb, hparent⟩

theorem Sound.isChild_eq_false (h : x.Sound) (ht : x.trees = [t]) : t.isChild = false := by
  have hm : t ∈ x.trees := by simp [ht]
  refine Bool.eq_false_iff.2 fun hc => ?_
  obtain ⟨s, q, hs, hq⟩ := (h.forest.child_iff t hm).1 hc
  rw [(h.below_root ht hs (h.contains_root hm s hs)).2] at hq
  cases hq

theorem Sound.searchable_iff_ne (h : x.Sound) (ht : x.trees = [t]) (hr : t.root = some r)
    (hd : x.arena.isDirectory r = true) (hj : x.arena.contains j = true) : x.arena.Searchable j ↔ j ≠ r := by
  obtain ⟨hb, hparent⟩ := h.below_root ht hr hj
  rw [searchable_iff hj hparent hb, hd]
  simp

/-- The entries of an index whose root mirrors a directory are as many as lie below the directory. -/
theorem Sound.length_entryIds (h : x.Sound) (ht : x.trees = [t]) (hr : t.root = some r) (hm : x.arena.Mirrors r e)
    (hd : e.isDirectory = true) (hp : e.Proper) : x.entryIds.length = e.count := by
  have hids : x.entryIds = (x.arena.subtree r).tail := by
    have htop : x.topTrees = [t] := by simp [topTrees, ht, h.isChild_eq_false ht]
    rw [entryIds, htop, List.flatMap_singleton, Tree.entryIds, hr]
    simp only [hm.isDirectory.trans hd, if_true]
  rw [hids, List.length_tail, hm.length_subtree h.wellFormed hp, Nat.add_sub_cancel]

/-! ## What an index holds -/

/-- An index of one area, a directory with all that lies in it. Its root mirrors an entry, and it counts as many
entries as lie below that. -/
structure Holds (root : Path) (x : Index) (t : Tree) (r : NodeId) (e : Entry) : Prop where
  sound : x.Sound
  trees : x.trees = [t]
  area : t.area = ⟨root, true⟩
  includeHidden : t.includeHidden = true
  top : t.root = some r
  mirrors : x.arena.Mirrors r e
  isDirectory : e.isDirectory = true
  proper : e.Proper
  size : x.size = e.count
  counter : x.counter = e.count

namespace Holds

theorem tallied (h : Holds root x t r e) : x.Tallied where
  size := by rw [h.size, h.sound.length_entryIds h.trees h.top h.mirrors h.isDirectory h.proper]
  counter := by rw [h.counter, h.size]

theorem owner? (h : Holds root x t r e) (p : Path) : x.owner? (some root) p = some (0, t) := by
  simp [Index.owner?, h.trees, h.area, Path.same]

theorem get_tree (h : Holds root x t r e) : x.trees[0]? = some t := by simp [h.trees]

theorem components (h : Holds root x t r e) (hp : p.components = root.components ++ names.map .name) :
    p.components = t.area.path.components ++ names.map .name := by rw [h.area, hp]

theorem located? (h : Holds root x t r e) (hp : p.components = root.components ++ names.map .name) :
    t.located? x.arena p = x.arena.descend? r names := by
  rw [Tree.located?, h.top, Option.bind_some, Tree.names?_eq_some.2 (h.components hp), Option.bind_some]

/-- Where there is an entry, there is a node. -/
theorem exists_node (h : Holds root x t r e) (hf : (e.at? names).isSome = true) :
    ∃ id, x.arena.descend? r names = some id :=
  Option.isSome_iff_exists.1 (h.mirrors.at?_isSome names ▸ hf)

/-- A node that names lead to stands below the root. -/
theorem ne_root (h : Holds root x t r e) (hid : x.arena.descend? r names = some id) (hne : names ≠ []) :
    id ≠ r ∧ ¬x.arena.Below id r := by
  have ha := h.sound.wellFormed
  have hb := ha.below_of_descend? hid
  have hparent := (h.sound.below_root h.trees h.top h.mirrors.contains).2
  have hid : id ≠ r := by
    rintro rfl
    obtain ⟨front, last, rfl⟩ := (List.eq_nil_or_concat names).resolve_left hne
    rw [List.concat_eq_append, descend?_concat] at hid
    obtain ⟨q, -, hq⟩ := Option.bind_eq_some_iff.1 hid
    rw [ha.parent?_of_child? hq] at hparent
    cases hparent
  exact ⟨hid, fun hbr => hid (ha.below_antisymm hbr hb)⟩

/-- What comes of a change: the tree is the same, and the root mirrors another entry. -/
theorem of_realizes (h : Holds root x t r e) (hr : Realizes x ef y) (hspares : ef.Spares x) (haccounts : ef.Accounts x)
    (ht : y.trees = [t]) (hm : y.arena.Mirrors r f) (hd : f.isDirectory = true) (hp : f.Proper) :
    Holds root y t r f := by
  have hy := hr.sound h.sound hspares
  obtain ⟨⟨hsize, hcounter⟩, -⟩ := (hr.adds_iff h.sound h.tallied hspares).2 haccounts
  have hlength := hy.length_entryIds ht h.top hm hd hp
  exact ⟨hy, ht, h.area, h.includeHidden, h.top, hm, hd, hp, hsize.trans hlength, hcounter.trans (hsize.trans hlength)⟩

/-! ## Adding -/

/-- Nothing is added where there is an entry. -/
theorem perform_addPath_present (h : Holds root x t r e) (hp : p.components = root.components ++ names.map .name)
    (hf : (e.at? names).isSome = true) (d : Disk) :
    ∃ y, x.perform (addPath d (some root) p) = (.ok none, y) ∧ Holds root y t r e := by
  obtain ⟨id, hid⟩ := h.exists_node hf
  have hadd := Tree.add_present (t := t) h.sound.wellFormed h.top h.mirrors.contains (by rw [h.area]) h.includeHidden
    (h.components hp) hid d
  have heffect : x.addEffect d (some root) p = .grow 0 t x.arena none := by
    simp only [addEffect, h.owner? p, hadd]
  obtain ⟨⟨o, ho, hsome⟩, hr⟩ := yields_add h.sound d (some root) p
  rw [heffect] at hsome hr
  obtain rfl : o = none := by simpa [Effect.answered] using hsome
  refine ⟨_, Prod.ext ho rfl, h.of_realizes hr trivial (fun j hj hn => absurd hj hn) ?_ ?_ h.isDirectory h.proper⟩
  · cases hr with
    | grow _ _ _ _ htrees =>
      rw [htrees, h.trees]
      rfl
  · cases hr with
    | grow _ _ hal => exact h.mirrors.alike h.sound.wellFormed hal

/-- An entry whose metadata are read again is replaced by one that holds the same. -/
theorem perform_refreshPath_read (h : Holds root x t r e) (hp : p.components = root.components ++ names.map .name)
    (hne : names ≠ []) (hf : e.at? names = some f) (hc : g.child? = f.child?) (hg : g.Proper)
    (hread : d.metadata? p = some g.metadata) :
    ∃ s y, x.perform (refreshPath d (some root) p) = (.ok (some s), y) ∧ Holds root y t r (e.make names g) := by
  have ha := h.sound.wellFormed
  have hsome : (e.at? names).isSome = true := by rw [hf]; rfl
  obtain ⟨id, hid⟩ := h.exists_node hsome
  have heffect : x.refreshEffect d (some root) p = .update id fun n => { n with metadata := g.metadata } := by
    simp only [refreshEffect, h.owner? p, h.located? hp, hid, hread]
  obtain ⟨⟨o, ho, hsome⟩, hr⟩ := yields_refresh h.sound d (some root) p
  rw [heffect] at hsome hr
  obtain ⟨s, rfl⟩ := Option.isSome_iff_exists.1 hsome
  refine ⟨s, _, Prod.ext ho rfl, h.of_realizes hr trivial (fun hparent _ => ?_) ?_ ?_
    (Entry.isDirectory_make h.isDirectory hne g) (h.proper.make hg names)⟩
  · exact absurd (ha.below_of_descend? hid |>.eq_of_parent?_eq_none hparent) (h.ne_root hid hne).1.symm
  · cases hr with
    | update _ _ _ _ htrees => rw [htrees, h.trees]
  · cases hr with
    | update _ _ hal =>
      have hl : SameLinks x.arena (Tree.refreshed x.arena id g.metadata) := sameLinks_modify (fun _ => rfl) fun _ => rfl
      exact (h.mirrors.refreshed ha h.proper hid hf hc).alike (hl.wellFormed ha) hal

theorem perform_refreshPath (h : Holds root x t r e) (hp : p.components = root.components ++ names.map .name)
    (hne : names ≠ []) (hf : e.at? names = some f) (hc : g.child? = f.child?) (hg : g.Proper)
    (hfind : d.find? false p = some g) :
    ∃ s y, x.perform (refreshPath d (some root) p) = (.ok (some s), y) ∧ Holds root y t r (e.make names g) :=
  h.perform_refreshPath_read hp hne hf hc hg (by rw [Disk.metadata?, hfind]; rfl)

/-! ## Removing -/

theorem perform_removePath (h : Holds root x t r e)
    (hp : p.components = root.components ++ (dir ++ [name]).map .name)
    (hdir : e.at? dir = some (.directory children)) (hf : (children.lookup name).isSome = true) :
    ∃ o y, x.perform (removePath (some root) p) = (.ok o, y) ∧
      Holds root y t r (e.make dir (.directory (Entry.setChild children name none))) := by
  have ha := h.sound.wellFormed
  have hsome : (e.at? (dir ++ [name])).isSome = true := by rw [Entry.at?_concat hdir, hf]
  obtain ⟨id, hid⟩ := h.exists_node hsome
  obtain ⟨hne, hnb⟩ := h.ne_root hid (by simp)
  have hlive := ha.contains_of_descend? h.mirrors.contains hid
  have heffect : x.removeEffect (some root) p = .cut t id := by
    simp only [removeEffect, h.owner? p, h.located? hp, hid, Option.elim]
  obtain ⟨⟨o, ho, -⟩, hr⟩ := yields_remove h.sound (some root) p
  rw [heffect] at hr
  refine ⟨o, _, Prod.ext ho rfl, h.of_realizes hr trivial (fun j hj => .inl ?_) ?_ ?_ ?_ ?_⟩
  · rw [h.sound.searchable_iff_ne h.trees h.top (h.mirrors.isDirectory.trans h.isDirectory) (hj.contains hlive)]
    rintro rfl
    exact hnb hj
  · cases hr with
    | cut _ _ _ _ htrees =>
      rw [htrees, h.trees, List.map_singleton, forgetRoots_of_not_mem]
      intro s hs hm
      obtain rfl : r = s := Option.some.inj (h.top.symm.trans hs)
      exact hnb (ha.below_of_mem_subtree hm)
  · cases hr with
    | cut _ _ hc => exact h.mirrors.cut ha h.proper hid hdir hc
  · exact Entry.isDirectory_make_directory h.isDirectory dir _
  · exact h.proper.make ((h.proper.at? hdir).setChild name fun _ hno => by cases hno) dir

/-! ## Renaming -/

theorem sameParent_of_names (hold : old.components = root.components ++ (dir ++ [name]).map .name)
    (hnew : new.components = root.components ++ (dir ++ [target]).map .name) : old.sameParent new = true := by
  rw [List.map_append, ← List.append_assoc] at hold hnew
  exact Path.sameParent_of_components hold hnew

/-- A rename of what is not there any more leaves what is there under the new name. -/
theorem perform_renamePath_absent (h : Holds root x t r e)
    (hold : old.components = root.components ++ (dir ++ [name]).map .name)
    (hnew : new.components = root.components ++ (dir ++ [target]).map .name)
    (hnone : e.at? (dir ++ [name]) = none) (hf : (e.at? (dir ++ [target])).isSome = true) (d : Disk) :
    ∃ y, x.perform (renamePath d (some root) old new) = (.ok none, y) ∧ Holds root y t r e := by
  have hmove := sameParent_of_names hold hnew
  have hn : t.renames? x.arena old new = none := by
    have hl : t.located? x.arena old = none := by
      rw [h.located? hold, ← Option.isNone_iff_eq_none, ← Option.not_isSome, ← h.mirrors.at?_isSome, hnone]
      rfl
    rw [Tree.renames?, hl, ite_self]
  have hlooked : x.looked t old new = x := by
    rw [looked, replacedNodes_eq_nil hmove hn]
    rfl
  rw [Index.perform_renamePath_absent h.sound (h.owner? old) hmove hn, hlooked]
  exact h.perform_addPath_present hnew hf d

theorem perform_renamePath (h : Holds root x t r e)
    (hold : old.components = root.components ++ (dir ++ [name]).map .name)
    (hnew : new.components = root.components ++ (dir ++ [target]).map .name)
    (hdir : e.at? dir = some (.directory children)) (hf : (children.lookup name).isSome = true)
    (hm : ∀ m, more.lookup m =
      if m = target then children.lookup name else if m = name then none else children.lookup m)
    (hmore : (Entry.directory more).Proper) (d : Disk) :
    ∃ o y, x.perform (renamePath d (some root) old new) = (.ok o, y) ∧
      Holds root y t r (e.make dir (.directory more)) := by
  have ha := h.sound.wellFormed
  have hmove := sameParent_of_names hold hnew
  have hentry : new.entryName = target := Path.entryName_of_components (by
    rw [hnew, List.map_append, ← List.append_assoc]
    rfl)
  have hsome : (e.at? (dir ++ [name])).isSome = true := by rw [Entry.at?_concat hdir, hf]
  obtain ⟨id, hid⟩ := h.exists_node hsome
  obtain ⟨hne, hnb⟩ := h.ne_root hid (by simp)
  have hlive := ha.contains_of_descend? h.mirrors.contains hid
  have hn : t.renames? x.arena old new = some id := by
    have hnot : ¬old.same t.area.path = true := by
      rw [same_iff, h.area, hold]
      simp
    rw [Tree.renames?, if_pos ⟨hmove, hnot⟩, h.located? hold, hid]
  have heffect : x.renameEffect d (some root) old new = .rename id target old (replacedNodes t x.arena old new) := by
    simp only [renameEffect, h.owner? old, hmove, if_true, hn, hentry]
  -- What stands in the way stands in the same directory, and so it is found at the new path.
  have hrival : ∀ s, x.arena.rival? id target = some s →
      (s ≠ r ∧ ¬x.arena.Below s r) ∧ x.arena.contains s = true ∧ replacedNodes t x.arena old new = x.arena.subtree s := by
    intro s hs
    obtain ⟨hsi, -, q, hq, -, hc⟩ := rival?_spec ha hs
    have hs' : x.arena.descend? r (dir ++ [target]) = some s := by
      rw [descend?_concat] at hid ⊢
      obtain ⟨q', hq', hi⟩ := Option.bind_eq_some_iff.1 hid
      obtain rfl : q = q' := Option.some.inj (hq.symm.trans (ha.parent?_of_child? hi))
      rw [hq', Option.bind_some, hc]
    refine ⟨h.ne_root hs' (by simp), contains_of_child? hc, ?_⟩
    rw [replacedNodes, h.located? hold, hid, h.located? hnew, hs']
    simp only [if_neg (Ne.symm hsi)]
  obtain ⟨⟨o, ho, -⟩, hr⟩ := yields_rename h.sound d (some root) hmove
  rw [heffect] at hr
  refine ⟨o, _, Prod.ext ho rfl, h.of_realizes hr (fun s hs hroot => ?_) (fun s hs j hj => ?_) ?_ ?_
    (Entry.isDirectory_make_directory h.isDirectory dir _) (h.proper.make hmore dir)⟩
  · rw [h.trees, Tree.mem_roots] at hroot
    obtain ⟨u, hu, hus⟩ := hroot
    rw [List.mem_singleton.1 hu, h.top] at hus
    exact (hrival s hs).1.1 (Option.some.inj hus).symm
  · obtain ⟨⟨-, hsr⟩, hlives, hreplaced⟩ := hrival s hs
    rw [h.sound.searchable_iff_ne h.trees h.top (h.mirrors.isDirectory.trans h.isDirectory) (hj.contains hlives), hreplaced]
    refine iff_of_true ?_ (List.ne_nil_of_mem (ha.self_mem_subtree hlives))
    rintro rfl
    exact hsr hj
  · cases hr with
    | rename _ _ _ _ _ _ htrees => rw [htrees, h.trees]
  · cases hr with
    | rename _ _ hal _ hc =>
      have hb := hal.sameLinks.wellFormed ha
      have hmb := h.mirrors.alike ha hal
      have hidb : Arena.descend? _ r (dir ++ [name]) = some id :=
        (descend?_congr hal.children hal.name? r (dir ++ [name])).trans hid
      have hw := (sameLinks_renamed (Arena.cleared _ id target) id target).wellFormed (hb.cleared id target)
      exact (hmb.rename hb h.proper hidb hdir hm).alike hw hc

end Holds

end FileIndex.Index
