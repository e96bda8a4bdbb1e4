/-
The places of nodes, which the areas of their trees give them (`PlacedAt`). The path of a node leads to its place, unless
a name on the way is one that does not belong there (`Astray`): a tree may have been given another name than its area's.

What areas reach on a disk (`Area.reach`), and the entries of an index that was collected from nothing: as many as
all areas reach together, each of them once, however the areas overlap.
-/
import FileIndex.Proofs.Index.Nested
import FileIndex.Proofs.Index.Standing
import FileIndex.Proofs.Tree.Anchors
import Mathlib.Data.Set.Card

namespace FileIndex

open Arena

theorem Arena.contains_of_name? {a : Arena} {j : NodeId} {name : String} (h : a.name? j = some name) :
    a.contains j = true := by
  obtain ⟨n, hn, -⟩ := Option.map_eq_some_iff.1 h
  exact contains_iff.2 ⟨n, hn⟩

namespace Index

variable {x z : Index} {t : Tree} {i j r : NodeId} {cs : List Path.Component}

/-- The place of a node: the root of a tree is at the path of the tree's area, any other node below its parent. -/
inductive PlacedAt (x : Index) : NodeId → List Path.Component → Prop
  | atRoot {t : Tree} {r : NodeId} : t ∈ x.trees → t.root = some r → PlacedAt x r t.area.path.components
  | inside {j p : NodeId} {name : String} {cs : List Path.Component} : j ∉ Tree.roots x.trees →
    x.arena.parent? j = some p → x.arena.name? j = some name → PlacedAt x p cs →
    PlacedAt x j (cs ++ [.name name])

/-- Whether a name belongs to the place of a node: a root has that of its area, any other node that of an entry. -/
structure Suits (x : Index) (i : NodeId) (name : String) : Prop where
  root : ∀ t ∈ x.trees, t.root = some i →
    t.area.path.entryName = name ∧ t.area.path.components.getLast? ≠ some .up
  inside : i ∉ Tree.roots x.trees → Path.components ⟨name⟩ = [.name name]

/-- Whether a node has a name that does not belong to its place, or is below such a node. -/
def Astray (x : Index) (j : NodeId) : Prop :=
  ∃ i name, x.arena.Below i j ∧ x.arena.name? i = some name ∧ ¬x.Suits i name

/-! ## Where nodes are -/

/-- In a sound index a node has one place. -/
theorem PlacedAt.unique (hx : x.Sound) {cs' : List Path.Component} (h : x.PlacedAt j cs) (g : x.PlacedAt j cs') :
    cs = cs' := by
  induction h generalizing cs' with
  | @atRoot t r ht hr =>
    cases g with
    | atRoot hu hs => rw [hx.forest.eq_of_root ht hu hr hs]
    | inside hn => exact absurd (Tree.mem_roots_of_root ht hr) hn
  | @inside j p name cs hn hpar hname _ ih =>
    cases g with
    | atRoot hu hs => exact absurd (Tree.mem_roots_of_root hu hs) hn
    | inside _ hpar' hname' h' =>
      obtain rfl := Option.some.inj (hpar.symm.trans hpar')
      obtain rfl := Option.some.inj (hname.symm.trans hname')
      rw [ih h']

theorem PlacedAt.congr (ha : z.arena = x.arena) (ht : z.trees = x.trees) (h : x.PlacedAt j cs) : z.PlacedAt j cs := by
  induction h with
  | atRoot hmem hr => exact .atRoot (ht ▸ hmem) hr
  | inside hn hp hname _ ih => exact .inside (ht ▸ hn) (ha ▸ hp) (ha ▸ hname) ih

theorem suits_of_not_astray (h : ¬x.Astray j) {name : String} (hb : x.arena.Below i j)
    (hn : x.arena.name? i = some name) : x.Suits i name :=
  by_contra fun hno => h ⟨i, name, hb, hn, hno⟩

theorem name?_of_not_astray (h : x.Sound) (ht : t ∈ x.trees) (hr : t.root = some r) (hs : ¬x.Astray r) :
    x.arena.name? r = some t.area.path.entryName := by
  obtain ⟨n, hn⟩ := contains_iff.1 (h.contains_root ht r hr)
  have hname := name?_of_get? hn
  rw [hname, ((suits_of_not_astray hs (.refl _ r) hname).root t ht hr).1]

/-- **The path of a node leads to its place**, unless the node has gone astray. -/
theorem exists_placedAt (h : x.Sound) (hnest : x.Nested) (ha : ∀ t ∈ x.trees, t.Anchored x.arena)
    (hj : x.arena.contains j = true) (hs : ¬x.Astray j) :
    ∃ p, x.arena.workedPath? j = some p ∧ x.PlacedAt j p.components := by
  have hf := h.forest
  obtain ⟨top, htop, hb⟩ := hf.wellFormed.grounded hj
  induction hb with
  | refl =>
    obtain ⟨t, ht, hr⟩ := Tree.mem_roots.1 (hf.owned top hj htop)
    obtain ⟨n, hn⟩ := contains_iff.1 hj
    obtain ⟨hname, hup⟩ := (suits_of_not_astray hs (.refl _ top) (name?_of_get? hn)).root t ht hr
    refine ⟨_, workedPath?_top hn (parent?_of_get? hn ▸ htop), ?_⟩
    rw [← anchor?_of_get? hn, ha t ht top hr hj, ← hname, Path.components_entry hup]
    exact .atRoot ht hr
  | @tail q j _ hp ih =>
    obtain ⟨p, hw, hplace⟩ := ih (hf.wellFormed.contains_parent hp)
      fun ⟨i, name, hb, hn⟩ => hs ⟨i, name, hb.tail hp, hn⟩
    obtain ⟨n, hn⟩ := contains_iff.1 hj
    have hsuits := suits_of_not_astray hs (.refl _ j) (name?_of_get? hn)
    refine ⟨p.child n.name, ?_, ?_⟩
    · rw [hf.wellFormed.workedPath?_child hn (parent?_of_get? hn ▸ hp), hw, Option.map_some]
    · by_cases hroot : j ∈ Tree.roots x.trees
      · -- The directory of the tree's area is where the parent stands.
        obtain ⟨t, ht, hr⟩ := Tree.mem_roots.1 hroot
        obtain ⟨u, hu, hq⟩ := Tree.mem_roots.1 (hf.merged j hroot q hp)
        obtain ⟨hname, hup⟩ := hsuits.root t ht hr
        obtain ⟨dir, hdir, hsame⟩ := (Option.any_eq_true _ _).1 (hnest t ht u hu j q hr hq hp)
        have hcomponents : p.components = dir.components :=
          (hplace.unique h (.atRoot hu hq)).trans (same_iff.1 hsame).symm
        have hentry := Path.components_entry hup
        rw [hdir, Option.getD_some, hname] at hentry
        rw [Path.child, Path.components_join_congr hcomponents rfl]
        exact hentry ▸ .atRoot ht hr
      · rw [Path.components_child_of_single (hsuits.inside hroot)]
        exact .inside hroot hp (name?_of_get? hn) hplace

end Index

/-- The places that an area reaches, as the components of their paths: its own if that is no directory, else those of
what lies in it, without what has a hidden name on the way if hidden names are left out, and no deeper than the
directory's own entries if the area is not recursive. Links are not followed. -/
def Area.reach (a : Area) (d : Disk) (hidden : Bool) : Set (List Path.Component) :=
  match d.find? false a.path with
  | none => ∅
  | some e =>
    if e.isDirectory then
      {cs | ∃ names, cs = a.path.components ++ names.map .name ∧ names ≠ [] ∧ (e.at? names).isSome = true ∧
        (a.recursive = true ∨ names.length = 1) ∧ (hidden = true ∨ ∀ n ∈ names, isHiddenName n = false)}
    else {a.path.components}

namespace Index

variable {d : Disk} {x y z : Index} {areas : List Area} {t u : Tree} {r i j p q : NodeId}
  {cs : List Path.Component} {names more : List String} {e : Entry}

/-! ## Areas that no other one contains -/

theorem mem_dedup {a : Area} (h : a ∈ Area.dedup areas) : a ∈ Area.merged areas ∧
    ∀ b ∈ Area.merged areas, b.path.same a.path = false → b.contains a = false := by
  obtain ⟨ha, hn⟩ := List.mem_filter.1 h
  refine ⟨ha, fun b hb hne => ?_⟩
  rw [Bool.not_eq_true', List.any_eq_false] at hn
  simpa [hne] using hn b hb

/-- A recursive area has no other area below it. -/
theorem components_eq_of_recursive {a b : Area} (ha : a ∈ Area.dedup areas) (hb : b ∈ Area.dedup areas)
    (hr : a.recursive = true) (h : a.path.components <+: b.path.components) :
    a.path.components = b.path.components := by
  by_contra hne
  have hsame : a.path.same b.path = false := by
    rw [Bool.eq_false_iff]
    exact fun hs => hne (same_iff.1 hs)
  have := (mem_dedup hb).2 a (mem_dedup ha).1 hsame
  rw [Area.contains, hsame, hr, Bool.false_or, Bool.true_and, Path.startsWith, Bool.eq_false_iff] at this
  exact this (List.isPrefixOf_iff_prefix.2 h)

/-! ## Places in trees that are ready -/

namespace Ready

variable (hy : Ready d y)
include hy

theorem placedAt_of_descend? (ht : t ∈ y.trees) (hr : t.root = some r)
    (hj : y.arena.descend? r names = some j) :
    y.PlacedAt j (t.area.path.components ++ names.map .name) := by
  induction names using List.reverseRecOn generalizing j with
  | nil =>
    cases hj
    simpa using PlacedAt.atRoot ht hr
  | append_singleton names name ih =>
    rw [descend?_concat] at hj
    obtain ⟨p, hp, hj⟩ := Option.bind_eq_some_iff.1 hj
    have hpar := hy.wellFormed.parent?_of_child? hj
    rw [List.map_append, List.map_singleton, ← List.append_assoc]
    refine .inside (fun hroot => ?_) hpar (name?_of_child? hj) (ih hp)
    rw [hy.parent?_root hroot] at hpar
    cases hpar

/-- A place names the tree and the way down from its root. -/
theorem exists_descend? (h : y.PlacedAt j cs) : ∃ t ∈ y.trees, ∃ r names, t.root = some r ∧
    y.arena.descend? r names = some j ∧ cs = t.area.path.components ++ names.map .name := by
  induction h with
  | @atRoot t r ht hr => exact ⟨t, ht, r, [], hr, rfl, by simp⟩
  | @inside j p name cs _ hpar hname _ ih =>
    obtain ⟨t, ht, r, names, hr, hp, rfl⟩ := ih
    obtain ⟨e, -, hm, -⟩ := (hy.stands t ht).mirrors hy.wellFormed hy.valid hr
    refine ⟨t, ht, r, names ++ [name], hr, ?_, by simp⟩
    rw [descend?_concat, hp]
    exact (child?_eq_some (hm.distinct p (hy.wellFormed.below_of_descend? hp))).2
      ⟨hy.wellFormed.mem_children.2 hpar, hname⟩

/-- What an area reaches is what stands in its tree, a directory at its root apart. -/
theorem mem_reach_iff (ht : t ∈ y.trees) : cs ∈ t.area.reach d y.includeHidden ↔
    ∃ r names j, t.root = some r ∧ y.arena.descend? r names = some j ∧
      cs = t.area.path.components ++ names.map .name ∧ (y.arena.isDirectory r = true ↔ names ≠ []) := by
  have hstands := hy.stands t ht
  cases hr : t.root with
  | none =>
    have hf := hstands.found
    rw [hr, Tree.found?] at hf
    cases he : d.find? false t.area.path with
    | none => simp [Area.reach, he]
    | some e =>
      rw [he] at hf
      cases hf
  | some r =>
    obtain ⟨e, he, hm, -, -⟩ := hstands.mirrors hy.wellFormed hy.valid hr
    have hdir : y.arena.isDirectory r = e.isDirectory := by
      rw [hm.isDirectory, Entry.isDirectory_pruned]
    have hsome : ∀ names, (∃ j, y.arena.descend? r names = some j) ↔
        Entry.Reaches (Tree.scope t.area y.includeHidden) true names ∧ (e.at? names).isSome = true := by
      intro names
      rw [← Option.isSome_iff_exists, ← hm.at?_isSome, Entry.at?_pruned_isSome]
    have hskips : ∀ names : List String, (∀ n ∈ names, (Tree.scope t.area y.includeHidden).skips n = false) ↔
        (y.includeHidden = true ∨ ∀ n ∈ names, isHiddenName n = false) := by
      intro names
      cases y.includeHidden <;> simp [Tree.scope, WalkScope.skips]
    have hall : cs ∈ t.area.reach d y.includeHidden ↔ ∃ names, cs = t.area.path.components ++ names.map .name ∧
        (∃ j, y.arena.descend? r names = some j) ∧ (y.arena.isDirectory r = true ↔ names ≠ []) := by
      simp only [hsome, Entry.Reaches, hskips, hdir]
      rw [Area.reach, he]
      dsimp only
      split
      · rename_i hd
        constructor
        · rintro ⟨names, rfl, hne, hat, hr, hh⟩
          exact ⟨names, rfl, ⟨⟨hh, hr.imp_right (·.le)⟩, hat⟩, by simp [hd, hne]⟩
        · rintro ⟨names, rfl, ⟨⟨hh, hr⟩, hat⟩, hne⟩
          refine ⟨names, rfl, hne.1 hd, hat, hr.imp_right fun hl => ?_, hh⟩
          have := List.length_pos_iff.2 (hne.1 hd)
          simp only [if_true] at hl
          omega
      · rename_i hd
        constructor
        · rintro rfl
          exact ⟨[], by simp, ⟨⟨by simp, by simp⟩, rfl⟩, by simp [hd]⟩
        · rintro ⟨names, rfl, -, hne⟩
          obtain rfl : names = [] := by
            by_contra hn
            exact hd (hne.2 hn)
          simp
    rw [hall]
    constructor
    · rintro ⟨names, hcs, ⟨j, hj⟩, hne⟩
      exact ⟨r, names, j, rfl, hj, hcs, hne⟩
    · rintro ⟨_, names, j, ⟨⟩, hj, hcs, hne⟩
      exact ⟨names, hcs, ⟨j, hj⟩, hne⟩

/-- Only directories have anything below them. -/
theorem isDirectory_of_parent? (hp : y.arena.parent? j = some p) : y.arena.isDirectory p = true := by
  obtain ⟨t, ht, r, hr, hb⟩ := hy.exists_tree (contains_of_parent? hp)
  obtain ⟨e, -, hm, -⟩ := (hy.stands t ht).mirrors hy.wellFormed hy.valid hr
  have hne : r ≠ j := by
    rintro rfl
    rw [hy.parent?_root (Tree.mem_roots_of_root ht hr)] at hp
    cases hp
  obtain ⟨names, hnames⟩ := hm.exists_names hy.wellFormed (hb.of_parent? hne hp)
  have hrel := hm.descend hy.wellFormed names
  rw [hnames] at hrel
  cases hf : (e.pruned (Tree.scope t.area y.includeHidden) true).at? names with
  | none =>
    rw [hf] at hrel
    cases hrel
  | some f =>
    rw [hf] at hrel
    cases hrel with
    | some hmp =>
      rw [hmp.isDirectory]
      by_contra hdir
      have hmem := hy.wellFormed.mem_children.2 hp
      rw [hmp.children_eq_nil hy.wellFormed (Bool.eq_false_iff.2 hdir)] at hmem
      cases hmem

/-- Where a node has a parent, its place is one that an area reaches. -/
theorem exists_reach (h : y.PlacedAt j cs) (hp : y.arena.parent? j = some p) :
    ∃ t ∈ y.trees, cs ∈ t.area.reach d y.includeHidden := by
  obtain ⟨t, ht, r, names, hr, hj, hcs⟩ := hy.exists_descend? h
  refine ⟨t, ht, (hy.mem_reach_iff ht).2 ⟨r, names, j, hr, hj, hcs, ?_⟩⟩
  have hne : r ≠ j := by
    rintro rfl
    rw [hy.parent?_root (Tree.mem_roots_of_root ht hr)] at hp
    cases hp
  have hnames : names ≠ [] := by
    rintro rfl
    exact hne (Option.some.inj hj)
  obtain ⟨q, hq, -⟩ := ((hy.wellFormed.below_of_descend? hj).cases_head).resolve_left hne
  simp [hy.isDirectory_of_parent? hq, hnames]

/-- Where two trees have a node at the same place, the one is shallow and has the root of the other for an entry. -/
theorem displaced_of_overlap (hcover : ∀ u ∈ y.trees, ∀ t ∈ y.trees, u.area.recursive = true →
      u.area.path.components <+: t.area.path.components → u.area.path.components = t.area.path.components)
    (hu : u ∈ y.trees) (ht : t ∈ y.trees) (hne : u.area.path.components ≠ t.area.path.components)
    (hr : u.root = some r) (hj : y.arena.descend? r names = some j)
    (he : u.area.path.components ++ names.map .name = t.area.path.components ++ more.map .name)
    (hlen : more.length ≤ names.length) : more = [] ∧ Displaced y u t j := by
  have hle : u.area.path.components.length ≤ t.area.path.components.length := by
    have := congrArg List.length he
    simp only [List.length_append, List.length_map] at this
    omega
  obtain ⟨m, hm⟩ := List.prefix_of_prefix_length_le ⟨_, rfl⟩ ⟨_, he.symm⟩ hle
  rw [← hm, List.append_assoc, List.append_cancel_left_eq] at he
  have hm0 : m ≠ [] := by
    rintro rfl
    exact hne (by simpa using hm)
  have hshallow : u.area.recursive = false := by
    by_contra hrec
    exact hne (hcover u hu t ht (by simpa using hrec) ⟨m, hm⟩)
  obtain ⟨e, -, hmir, -⟩ := (hy.stands u hu).mirrors hy.wellFormed hy.valid hr
  have hreach : Entry.Reaches (Tree.scope u.area y.includeHidden) true names := by
    have hsome := hmir.at?_isSome names
    rw [hj, Option.isSome_some, Entry.at?_pruned_isSome] at hsome
    exact hsome.1
  have hone : names.length ≤ 1 := by simpa [Tree.scope, hshallow] using hreach.2
  have hlm := congrArg List.length he
  have hm1 := List.length_pos_iff.2 hm0
  simp only [List.length_append, List.length_map] at hlm
  obtain rfl : more = [] := List.eq_nil_of_length_eq_zero (by omega)
  obtain ⟨name, rfl⟩ := List.length_eq_one_iff.1 (show names.length = 1 by omega)
  obtain rfl : [.name name] = m := by simpa using he
  refine ⟨rfl, hshallow, isParentOf_of_components hm.symm, ⟨r, hr, ?_⟩, ?_⟩
  · exact hy.wellFormed.parent?_of_child? (by simpa [descend?] using hj)
  · rw [Path.entryName_of_components hm.symm]
    exact name?_of_child? (by simpa [descend?] using hj)

end Ready

/-! ## Places behind a merge -/

namespace Adopting

variable (hx : Adopting d y x []) (hy : Ready d y)
include hx hy

theorem exists_placedAt (hj : x.arena.contains j = true) : ∃ cs, y.PlacedAt j cs := by
  obtain ⟨t, ht, r, hr, hb⟩ := hy.exists_tree (hx.live hj)
  obtain ⟨e, -, hm, -⟩ := (hy.stands t ht).mirrors hy.wellFormed hy.valid hr
  obtain ⟨names, hnames⟩ := hm.exists_names hy.wellFormed hb
  exact ⟨_, hy.placedAt_of_descend? ht hr hnames⟩

/-- A node in the place of a tree has the place of the tree's root. -/
theorem placedAt_displaced (hu : u ∈ x.trees) (hdis : Displaced y u t j) :
    y.PlacedAt j t.area.path.components := by
  obtain ⟨v, hv, hvu⟩ := hx.exists_ready hu
  obtain ⟨r, hr, hp⟩ := hdis.parent
  rw [hy.components_of_displaced hdis, hvu.area]
  exact .inside (hy.not_root_of_displaced hdis) hp hdis.name (.atRoot hv (hvu.root ▸ hr))

/-- Only directories have anything below them, also behind a merge. -/
theorem isDirectory_of_parent? (hp : x.arena.parent? j = some p) : x.arena.isDirectory p = true := by
  have hf := hx.sound.forest
  rw [hx.isDirectory (hx.sound.wellFormed.contains_parent hp)]
  by_cases hroot : j ∈ Tree.roots x.trees
  · -- The root of a tree stands where another entry of the directory has been.
    obtain ⟨t, ht, hr⟩ := Tree.mem_roots.1 hroot
    obtain ⟨v, hv, hpr⟩ := Tree.mem_roots.1 (hf.merged j hroot p hp)
    obtain ⟨u, hu, i, hdis⟩ := hx.taken t ht ((hf.child_iff t ht).2 ⟨j, p, hr, hp⟩)
    obtain ⟨q, hq, hi⟩ := hdis.parent
    have huv : u = v := hx.sound.eq_of_components hu hv
      (components_eq_of_isParentOf hdis.above (hx.nested t ht v hv j p hr hpr hp))
    rw [huv, hpr, Option.some.injEq] at hq
    exact hy.isDirectory_of_parent? (hq ▸ hi)
  · exact hy.isDirectory_of_parent? (p := p)
      ((hx.parent? j (contains_of_parent? hp) (hx.roots ▸ hroot)).symm.trans hp)

variable (hcover : ∀ u ∈ y.trees, ∀ t ∈ y.trees, u.area.recursive = true →
  u.area.path.components <+: t.area.path.components → u.area.path.components = t.area.path.components)
include hcover

/-- A search goes over the nodes at the places that areas reach. -/
theorem searchable_iff (hj : x.arena.contains j = true) (h : y.PlacedAt j cs) :
    x.arena.Searchable j ↔ ∃ t ∈ y.trees, cs ∈ t.area.reach d y.includeHidden := by
  have hf := hx.sound.forest
  cases hp : x.arena.parent? j with
  | some p =>
    obtain ⟨top, htop, hb⟩ := hf.wellFormed.grounded hj
    have hne : top ≠ j := by
      rintro rfl
      rw [htop] at hp
      cases hp
    obtain ⟨q, hq, -⟩ := hb.cases_head.resolve_left hne
    rw [Arena.searchable_iff hj htop hb, hx.isDirectory_of_parent? hy hq]
    refine iff_of_true (by simp [hne.symm]) ?_
    by_cases hroot : j ∈ Tree.roots x.trees
    · obtain ⟨t, ht, hr⟩ := Tree.mem_roots.1 hroot
      obtain ⟨u, hu, i, hdis⟩ := hx.taken t ht ((hf.child_iff t ht).2 ⟨j, p, hr, hp⟩)
      obtain ⟨v, hv, hvt⟩ := hx.exists_ready ht
      obtain ⟨q, -, hi⟩ := hdis.parent
      have hcs : cs = t.area.path.components := by
        rw [hvt.area]
        exact h.unique hy.gathering.sound (.atRoot hv (hvt.root ▸ hr))
      exact hcs ▸ hy.exists_reach (hx.placedAt_displaced hy hu hdis) hi
    · exact hy.exists_reach h ((hx.parent? j hj (hx.roots ▸ hroot)).symm.trans hp)
  | none =>
    obtain ⟨t, ht, hr⟩ := Tree.mem_roots.1 (hf.owned j hj hp)
    obtain ⟨v, hv, hvt⟩ := hx.exists_ready ht
    have hcs : cs = v.area.path.components := h.unique hy.gathering.sound (.atRoot hv (hvt.root ▸ hr))
    have hchild : ¬t.isChild = true := by
      rw [hf.child_iff t ht]
      rintro ⟨r, q, hr', hq⟩
      obtain rfl := Option.some.inj (hr.symm.trans hr')
      rw [hp] at hq
      cases hq
    rw [Arena.searchable_iff hj hp (.refl _ j), hx.isDirectory hj]
    simp only [ne_eq, not_true_eq_false, iff_false]
    constructor
    · exact fun hdir => ⟨v, hv, (hy.mem_reach_iff hv).2 ⟨j, [], j, hvt.root ▸ hr, rfl, by simpa using hcs, by simpa using hdir⟩⟩
    · rintro ⟨u, hu, hreach⟩ hdir
      obtain ⟨r, names, i, hur, hi, hcs', hne⟩ := (hy.mem_reach_iff hu).1 hreach
      by_cases hsame : u.area.path.components = v.area.path.components
      · -- A directory at the root of its own area is not reached by it.
        obtain rfl := hy.gathering.sound.eq_of_components hu hv hsame
        obtain rfl : names = [] := by simpa [hcs] using hcs'
        obtain rfl := Option.some.inj (hur.symm.trans (hvt.root ▸ hr))
        exact hne.1 hdir rfl
      · have he : u.area.path.components ++ names.map .name =
            v.area.path.components ++ ([] : List String).map .name := by
          rw [← hcs', hcs]
          simp
        obtain ⟨-, hdis⟩ := hy.displaced_of_overlap hcover hu hv hsame hur hi he (by simp)
        obtain ⟨u', hu', huu⟩ := hx.exists_adopted hu
        have hroot : t.root.isSome = true := by simp [hr]
        exact hchild (hx.child_of_displaced hy hu' ht hroot
          (hy.wellFormed.contains_of_descend? ((hy.gathering.sound.contains_root hu) r hur) hi)
          (hdis.congr huu.area huu.root hvt.area)).1

omit hcover in
/-- At every place that an area reaches there is a node. -/
theorem exists_node (ht : t ∈ y.trees) (h : cs ∈ t.area.reach d y.includeHidden) :
    ∃ j, x.arena.contains j = true ∧ y.PlacedAt j cs := by
  obtain ⟨r, names, j, hr, hj, rfl, -⟩ := (hy.mem_reach_iff ht).1 h
  have hplaced := hy.placedAt_of_descend? ht hr hj
  by_cases hlive : x.arena.contains j = true
  · exact ⟨j, hlive, hplaced⟩
  · have hyj := hy.wellFormed.contains_of_descend? (hy.gathering.sound.contains_root ht r hr) hj
    obtain ⟨t', ht', u, hu, hchild, hdis⟩ := hx.lost j hyj hlive
    obtain ⟨q, -, hq, -⟩ := (hx.sound.forest.child_iff t' ht').1 hchild
    obtain ⟨v, hv, hvt⟩ := hx.exists_ready ht'
    refine ⟨q, hx.sound.contains_root ht' q hq, ?_⟩
    rw [hplaced.unique hy.gathering.sound (hx.placedAt_displaced hy hu hdis), hvt.area]
    exact .atRoot hv (hvt.root ▸ hq)

end Adopting

/-! ## Collecting from nothing -/

theorem valid_sharedDisk : sharedDisk.Valid where
  isDirectory := rfl
  proper := by simp [sharedDisk, Entry.Proper, Entry.AllProper]
  named := by
    have hname : ∀ n ∈ ["a", "f", "s"], Path.IsFileName n := by
      intro n hn
      simp only [List.mem_cons, List.not_mem_nil, or_false] at hn
      rcases hn with rfl | rfl | rfl <;> exact ⟨by decide, by decide, by decide, by decide, by decide⟩
    have hempty : (Entry.directory []).Named := Entry.named_directory (by simp)
    have ha : (Entry.directory [("f", .file (.zeros 0) 0 false), ("s", .directory [])]).Named := by
      apply Entry.named_directory
      intro c hc
      simp only [List.mem_cons, List.not_mem_nil, or_false] at hc
      rcases hc with rfl | rfl
      · exact ⟨hname "f" (by simp), Entry.named_leaf rfl⟩
      · exact ⟨hname "s" (by simp), hempty⟩
    exact Entry.named_directory fun c hc => List.mem_singleton.1 hc ▸ ⟨hname "a" (by simp), ha⟩
end Index

end FileIndex
