/-
Where the entries of a merged index stand and what the disk has at their paths (`Adopting.exists_spot`). The tree that
the path of an entry belongs to is the one that the entry stands in, unless a tree at that very path has no root
(`Spot.owner?`).
-/
import FileIndex.Proofs.Disk.Respelled
import FileIndex.Proofs.Index.Arranged
import FileIndex.Proofs.Index.Orderly
import FileIndex.Proofs.Index.Reach
import FileIndex.Proofs.Tree.Naming
import FileIndex.Proofs.Tree.Renewing

namespace FileIndex

open Arena
open Path (IsFileName)

variable {x y : Index} {d : Disk} {t u : Tree} {p : Path} {i j q r : NodeId} {n : Nat} {name : String}
  {names : List String} {e f : Entry} {found : Collected} {a : Arena} {cs : List Path.Component}

namespace Index

/-! ## The tree that a path belongs to -/

/-- The number of components of a tree's area. -/
abbrev depth (it : Nat × Tree) : Nat := it.2.area.path.components.length

theorem exists_foldl_longer (l : List (Nat × Tree)) (best : Option (Nat × Tree)) (hne : l ≠ [] ∨ best.isSome = true) :
    ∃ r, l.foldl longer best = some r ∧ (∀ it ∈ l, depth it ≤ depth r) ∧ ∀ it, best = some it → depth it ≤ depth r := by
  induction l generalizing best with
  | nil =>
    obtain ⟨b, hb⟩ := Option.isSome_iff_exists.1 (hne.resolve_left (· rfl))
    exact ⟨b, hb, by simp, fun it hit => (Option.some.inj (hit.symm.trans hb)) ▸ le_rfl⟩
  | cons it l ih =>
    -- Of the two that are compared first, the longer one goes on.
    have hstep : ∃ b, longer best it = some b ∧ depth it ≤ depth b ∧ ∀ c, best = some c → depth c ≤ depth b := by
      cases best with
      | none => exact ⟨it, rfl, le_rfl, nofun⟩
      | some c =>
        simp only [longer]
        by_cases hlt : depth it < depth c
        · exact ⟨c, if_pos hlt, hlt.le, fun _ h => Option.some.inj h ▸ le_rfl⟩
        · exact ⟨it, if_neg hlt, le_rfl, fun _ h => Option.some.inj h ▸ not_lt.1 hlt⟩
    obtain ⟨b, hb, hle, hbest⟩ := hstep
    obtain ⟨r, hr, hall, hrb⟩ := ih (longer best it) (.inr (by rw [hb]; rfl))
    refine ⟨r, hr, List.forall_mem_cons.2 ⟨hle.trans (hrb b hb), hall⟩, fun c hc => (hbest c hc).trans (hrb b hb)⟩

/-- A path in the area of a tree belongs to one whose area lies as deep or deeper. -/
theorem exists_owner? (ht : t ∈ x.trees) (hp : t.area.path.components <+: p.components) :
    ∃ n u, x.owner? none p = some (n, u) ∧ u.area.path.components <+: p.components ∧
      t.area.path.components.length ≤ u.area.path.components.length := by
  obtain ⟨k, hk⟩ := List.mem_iff_getElem?.1 ht
  have hmem : (k, t) ∈ ((List.range x.trees.length).zip x.trees).filter fun it => p.startsWith it.2.area.path := by
    refine List.mem_filter.2 ⟨List.mem_iff_getElem?.2 ⟨k, ?_⟩, List.isPrefixOf_iff_prefix.2 hp⟩
    rw [List.getElem?_zip_eq_some]
    exact ⟨List.getElem?_range (List.getElem?_eq_some_iff.1 hk).1, hk⟩
  obtain ⟨⟨n, u⟩, hu, hall, -⟩ := exists_foldl_longer _ none (.inl (List.ne_nil_of_mem hmem))
  have hin := (longer_mem _ none hu).resolve_right nofun
  exact ⟨n, u, hu, List.isPrefixOf_iff_prefix.1 (List.mem_filter.1 hin).2, hall _ hmem⟩

/-- What is done to trees but to their areas changes nothing of which path belongs to which. -/
theorem owner?_map {g : Tree → Tree} (hg : ∀ t, (g t).area = t.area) (ht : y.trees = x.trees.map g) (root : Option Path)
    (p : Path) : y.owner? root p = (x.owner? root p).map fun it => (it.1, g it.2) := by
  have hzip : (List.range y.trees.length).zip y.trees =
      ((List.range x.trees.length).zip x.trees).map fun it => (it.1, g it.2) := by
    rw [ht, List.length_map, List.zip_map_right]
    rfl
  unfold owner?
  rw [hzip]
  cases root with
  | some r =>
    simp only [List.find?_map]
    congr 2
    funext it
    simp [hg]
  | none =>
    have hfold : ∀ (l : List (Nat × Tree)) (best : Option (Nat × Tree)),
        (l.map fun it => (it.1, g it.2)).foldl longer (best.map fun it => (it.1, g it.2)) =
          (l.foldl longer best).map fun it => (it.1, g it.2) := by
      intro l
      induction l with
      | nil => exact fun _ => rfl
      | cons it l ih =>
        intro best
        rw [List.map_cons, List.foldl_cons, List.foldl_cons, ← ih]
        congr 1
        cases best with
        | none => rfl
        | some b =>
          simp only [longer, Option.map_some, hg]
          split <;> rfl
    simp only [List.filter_map]
    rw [← hfold _ none]
    congr 2
    refine List.filter_congr fun it _ => ?_
    simp [hg]

/-! ## What is left behind a merge -/

theorem PlacedAt.contains (h : x.PlacedAt j cs) (hx : x.Sound) : x.arena.contains j = true := by
  cases h with
  | atRoot ht hr => exact hx.contains_root ht j hr
  | inside _ hp _ _ => exact contains_of_parent? hp

/-- Whether an entry is the root of a tree and a directory: as an entry it belongs to another tree. -/
def HandsOver (x : Index) (j : NodeId) : Prop := j ∈ Tree.roots x.trees ∧ x.arena.isDirectory j = true

/-- Before the merge what has a name below something is no root. -/
theorem Ready.not_root_of_child? (hy : Ready d y) (hc : y.arena.child? q name = some j) : j ∉ Tree.roots y.trees := by
  intro hroot
  have hpar := hy.wellFormed.parent?_of_child? hc
  rw [hy.parent?_root hroot] at hpar
  cases hpar

namespace Adopting

variable (hx : Adopting d y x []) (hy : Ready d y)
include hx hy

/-- What names lead to where the trees stand side by side, they lead to behind the merge if it is left. -/
theorem descend? (hd : x.arena.Distinct) (hj : y.arena.descend? r names = some j) (hlive : x.arena.contains j = true) :
    x.arena.descend? r names = some j := by
  induction names using List.reverseRecOn generalizing j with
  | nil => exact hj
  | append_singleton names name ih =>
    rw [descend?_concat] at hj ⊢
    obtain ⟨q, hq, hc⟩ := Option.bind_eq_some_iff.1 hj
    have hp : x.arena.parent? j = some q :=
      (hx.parent? j hlive (hy.not_root_of_child? hc)).trans (hy.wellFormed.parent?_of_child? hc)
    rw [ih hq (hx.sound.wellFormed.contains_parent hp), Option.bind_some, child?_eq_some (hd q)]
    exact ⟨hx.sound.wellFormed.mem_children.2 hp, (hx.name? hlive).trans (name?_of_child? hc)⟩

/-- At and below an entry that is no directory with a tree of its own all links stay. -/
theorem children_below (hlive : x.arena.contains j = true) (hno : ¬x.HandsOver j) (hb : y.arena.Below j i) :
    x.arena.contains i = true ∧ x.arena.children i = y.arena.children i := by
  by_cases hroot : j ∈ Tree.roots x.trees
  · -- A root that is no directory has nothing below it.
    have hnone : ∀ k, ¬y.arena.parent? k = some j := fun k hk =>
      hno ⟨hroot, (hx.isDirectory hlive).trans (hy.isDirectory_of_parent? hk)⟩
    have hnone' : ∀ k, ¬x.arena.parent? k = some j := fun k hk => hno ⟨hroot, hx.isDirectory_of_parent? hy hk⟩
    obtain rfl : j = i := hb.cases_head.resolve_right fun ⟨k, hk, _⟩ => hnone k hk
    refine ⟨hlive, ?_⟩
    rw [List.eq_nil_iff_forall_not_mem.2 fun k hk => hnone k (hy.wellFormed.mem_children.1 hk),
      List.eq_nil_iff_forall_not_mem.2 fun k hk => hnone' k (hx.sound.wellFormed.mem_children.1 hk)]
  · rw [hx.roots] at hroot
    suffices hall : x.arena.contains i = true ∧ i ∉ Tree.roots y.trees from ⟨hall.1, hx.children i hall.1 hall.2⟩
    induction hb with
    | refl => exact ⟨hlive, hroot⟩
    | @tail i k _ hp ih =>
      have hmem := hy.wellFormed.mem_children.2 hp
      rw [← hx.children i ih.1 ih.2] at hmem
      refine ⟨contains_of_parent? (hx.sound.wellFormed.mem_children.1 hmem), fun hk => ?_⟩
      rw [hy.parent?_root hk] at hp
      cases hp

/-- Such an entry shows what it showed. -/
theorem shows (hlive : x.arena.contains j = true) (hno : ¬x.HandsOver j) (h : y.arena.Shows found j) :
    x.arena.Shows found j := by
  refine Shows.congr hy.wellFormed found h fun i n hb hn => ?_
  obtain ⟨hi, hc⟩ := hx.children_below hy hlive hno hb
  obtain ⟨m, hm⟩ := contains_iff.1 hi
  obtain ⟨n', hn', hname, hmeta, -⟩ := hx.get? i m hm
  obtain rfl := Option.some.inj (hn.symm.trans hn')
  exact ⟨m, hm, hname, hmeta, by rw [← children_of_get? hm, hc, children_of_get? hn]⟩

/-- The path of a root that leads to its area ends in the name of the area. -/
theorem namedBy (ht : t ∈ x.trees) (hr : t.root = some r) (hp : x.arena.workedPath? r = some p)
    (he : p.components = t.area.path.components) : t.area.path.NamedBy t.area.path.entryName := by
  cases hpar : x.arena.parent? r with
  | none =>
    rw [hx.workedPath?_root hy ht hr hpar, Option.some.injEq] at hp
    rw [Path.NamedBy, hp, he]
  | some q =>
    obtain ⟨u, -, i, hdis⟩ := hx.taken t ht ((hx.sound.forest.child_iff t ht).2 ⟨r, q, hr, hpar⟩)
    exact Path.namedBy_of_components (hy.components_of_displaced hdis)

end Adopting

/-! ## Entries and the disk -/

/-- An entry with the way to it and what the disk has there. -/
structure Spot (d : Disk) (x : Index) (j : NodeId) (p : Path) (t : Tree) (r : NodeId) (names : List String)
    (f : Entry) : Prop where
  mem : t ∈ x.trees
  root : t.root = some r
  descend : x.arena.descend? r names = some j
  path : x.arena.workedPath? j = some p
  placed : x.PlacedAt j p.components
  components : p.components = t.area.path.components ++ names.map .name
  inner : names ≠ [] → j ∉ Tree.roots x.trees
  reaches : Entry.Reaches (Tree.scope t.area t.includeHidden) true names
  namedBy : names = [] → t.area.path.NamedBy t.area.path.entryName
  /-- A path that is not too long leads to what the disk has. -/
  find : ¬x.HandsOver j → Disk.fits p → d.find? false p = some f
  shows : ¬x.HandsOver j → ∃ last, x.arena.name? j = some last ∧
    x.arena.Shows (walkEntry .all true last (f.pruned (Tree.scope t.area t.includeHidden) names.isEmpty)) j

/-- The path of an entry belongs to the tree that the entry stands in, unless a tree at that very path has no root. -/
theorem Spot.owner? (h : Spot d x j p t r names f) (hx : x.Orderly) (hone : ∀ i, x.PlacedAt i p.components → i = j) :
    (∃ n, x.owner? none p = some (n, t)) ∨
      ∃ n u, x.owner? none p = some (n, u) ∧ u.root = none ∧ u.area.path.components = p.components ∧ names ≠ [] := by
  obtain ⟨n, u, ho, hin, hdeep⟩ := exists_owner? h.mem ⟨_, h.components.symm⟩
  have hu := mem_of_owner? ho
  by_cases hsame : t.area.path.components = u.area.path.components
  · obtain rfl := hx.sound.eq_of_components h.mem hu hsame
    exact .inl ⟨n, ho⟩
  · -- Below the area of a shallow tree there is no room for another area but at the path itself.
    have hbase := List.prefix_of_prefix_length_le ⟨_, h.components.symm⟩ hin hdeep
    have hshallow : names.length ≤ 1 := by
      refine h.reaches.2.resolve_left fun hrec => hsame (hx.uncovered t h.mem u hu hrec hbase)
    have hlength : t.area.path.components.length < u.area.path.components.length :=
      lt_of_le_of_ne hdeep fun he => hsame (hbase.eq_of_length he)
    have hwhole := congrArg List.length h.components
    rw [List.length_append, List.length_map] at hwhole
    have he : u.area.path.components = p.components := hin.eq_of_length (by have := hin.length_le; omega)
    have hne : names ≠ [] := by
      rintro rfl
      exact hsame (by rw [he, h.components, List.map_nil, List.append_nil])
    refine .inr ⟨n, u, ho, ?_, he, hne⟩
    cases hr : u.root with
    | none => rfl
    | some s =>
      obtain rfl := hone s (he ▸ .atRoot hu hr)
      exact absurd (Tree.mem_roots_of_root hu hr) (h.inner hne)

end Index

end FileIndex
