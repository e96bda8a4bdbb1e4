/-
Two indexes that were gathered of the same areas on the same disk, with slots and spellings of their own. Their nodes
correspond one to one (`Paired`): the roots of trees with the same number, and of two nodes that correspond the
children one by one. Whatever trees adopt in the one they adopt in the other, so that in the end the entries of both
correspond in their order, and have the same places and metadata.
-/
import FileIndex.Proofs.Index.Standing
import Mathlib.Data.List.Forall2

namespace FileIndex

open Arena

/-- Whether two trees are those of one area, by components, at which the disk has the same for both. -/
structure Tree.Matches (d : Disk) (t u : Tree) : Prop where
  components : t.area.path.components = u.area.path.components
  recursive : t.area.recursive = u.area.recursive
  found : d.find? false t.area.path = d.find? false u.area.path

theorem Tree.Matches.symm {d : Disk} {t u : Tree} (h : t.Matches d u) : u.Matches d t :=
  ⟨h.components.symm, h.recursive.symm, h.found.symm⟩

/-- What a walk finds at a path depends on the path's name in the name only. -/
theorem exists_walkEntry (s : WalkScope) (isTop : Bool) (e : Entry) :
    ∃ metadata founds, ∀ name, walkEntry s isTop name e = .entry name metadata founds := by
  cases e <;> exact ⟨_, _, fun _ => rfl⟩

theorem Arena.ShowsAll.forall₂ {a b : Arena} {founds : List Collected} {ids others : List NodeId}
    (h : a.ShowsAll founds ids) (g : b.ShowsAll founds others) :
    List.Forall₂ (fun i j => ∃ found, a.Shows found i ∧ b.Shows found j) ids others := by
  induction founds generalizing ids others with
  | nil =>
    cases h
    cases g
    exact .nil
  | cons found founds ih =>
    obtain ⟨i, more, rfl, hi, hmore⟩ := h
    obtain ⟨j, rest, rfl, hj, hrest⟩ := g
    exact .cons ⟨found, hi, hj⟩ (ih hmore hrest)

namespace Index

variable {d : Disk} {x x' y z : Index} {t u v w : Tree} {i j p q r s : NodeId} {k c : Nat}
  {done : List (Nat × Nat)}

/-! ## Nodes that correspond -/

/-- Two indexes with trees of the same areas. -/
structure Matched (d : Disk) (y z : Index) : Prop where
  left : Ready d y
  right : Ready d z
  includeHidden : z.includeHidden = y.includeHidden
  trees : List.Forall₂ (Tree.Matches d) y.trees z.trees

/-- Whether two nodes correspond. -/
inductive Paired (y z : Index) : NodeId → NodeId → Prop
  | root {k : Nat} {t u : Tree} {r s : NodeId} : y.trees[k]? = some t → z.trees[k]? = some u → t.root = some r →
    u.root = some s → Paired y z r s
  | inside {p q i j : NodeId} {k : Nat} : Paired y z p q → (y.arena.children p)[k]? = some i →
    (z.arena.children q)[k]? = some j → Paired y z i j

theorem Paired.symm (h : Paired y z i j) : Paired z y j i := by
  induction h with
  | root ht hu hr hs => exact .root hu ht hs hr
  | inside _ hi hj ih => exact .inside ih hj hi

namespace Matched

theorem symm (h : Matched d y z) : Matched d z y where
  left := h.right
  right := h.left
  includeHidden := h.includeHidden.symm
  trees := List.Forall₂.flip (h.trees.imp fun _ _ hm => hm.symm)

theorem get_tree (h : Matched d y z) (ht : y.trees[k]? = some t) :
    ∃ u, z.trees[k]? = some u ∧ t.Matches d u := by
  obtain ⟨hk, rfl⟩ := List.getElem?_eq_some_iff.1 ht
  have hk' : k < z.trees.length := h.trees.length_eq ▸ hk
  exact ⟨z.trees[k], List.getElem?_eq_getElem hk', h.trees.get hk hk'⟩

theorem matches_of_get (h : Matched d y z) (ht : y.trees[k]? = some t) (hu : z.trees[k]? = some u) :
    t.Matches d u := by
  obtain ⟨v, hv, hm⟩ := h.get_tree ht
  obtain rfl := Option.some.inj (hu.symm.trans hv)
  exact hm

variable (h : Matched d y z)
include h

/-- Where one tree has a root, the other one has, and both show the same but for the name. -/
theorem exists_root (ht : y.trees[k]? = some t) (hu : z.trees[k]? = some u) (hr : t.root = some r) :
    ∃ s metadata founds, u.root = some s ∧ y.arena.Shows (.entry t.area.path.entryName metadata founds) r ∧
      z.arena.Shows (.entry u.area.path.entryName metadata founds) s := by
  have hm := h.matches_of_get ht hu
  obtain ⟨e, he, hshows⟩ := (h.left.stands t (List.mem_of_getElem? ht)).exists_entry hr
  have hfound := (h.right.stands u (List.mem_of_getElem? hu)).found
  rw [Tree.found?, ← hm.found, he, Option.map_some] at hfound
  cases hs : u.root with
  | none =>
    rw [hs] at hfound
    cases hfound
  | some s =>
    obtain ⟨e', he', hshows'⟩ := (h.right.stands u (List.mem_of_getElem? hu)).exists_entry hs
    obtain rfl := Option.some.inj (he.symm.trans (hm.found.trans he'))
    have hscope : Tree.scope u.area z.includeHidden = Tree.scope t.area y.includeHidden := by
      rw [Tree.scope, Tree.scope, h.includeHidden, hm.recursive]
    obtain ⟨metadata, founds, hwalk⟩ := exists_walkEntry (Tree.scope t.area y.includeHidden) true e
    rw [hwalk] at hshows
    rw [hscope, hwalk] at hshows'
    exact ⟨s, metadata, founds, rfl, hshows, hshows'⟩

/-- Nodes that correspond show the same, but for the names of roots. -/
theorem shows (hij : Paired y z i j) : ∃ name name' metadata founds,
    y.arena.Shows (.entry name metadata founds) i ∧ z.arena.Shows (.entry name' metadata founds) j ∧
      (i ∉ Tree.roots y.trees → name' = name) := by
  induction hij with
  | root ht hu hr hs =>
    obtain ⟨s', metadata, founds, hs', hr', hshows⟩ := h.exists_root ht hu hr
    obtain rfl := Option.some.inj (hs.symm.trans hs')
    exact ⟨_, _, metadata, founds, hr', hshows,
      fun hn => absurd (Tree.mem_roots_of_root (List.mem_of_getElem? ht) hr) hn⟩
  | @inside p q i j k _ hi hj ih =>
    obtain ⟨-, -, -, founds, ⟨n, hn, -, -, hall⟩, ⟨m, hm, -, -, hall'⟩, -⟩ := ih
    rw [children_of_get? hn] at hi
    rw [children_of_get? hm] at hj
    obtain ⟨hk, rfl⟩ := List.getElem?_eq_some_iff.1 hi
    obtain ⟨hk', rfl⟩ := List.getElem?_eq_some_iff.1 hj
    obtain ⟨⟨name, metadata, children⟩, hshows, hshows'⟩ := (hall.forall₂ hall').get hk hk'
    exact ⟨name, name, metadata, children, hshows, hshows', fun _ => rfl⟩

/-- Corresponding nodes have corresponding children, in the same order. -/
theorem children (hij : Paired y z i j) :
    List.Forall₂ (Paired y z) (y.arena.children i) (z.arena.children j) := by
  obtain ⟨-, -, -, founds, ⟨n, hn, -, -, hall⟩, ⟨m, hm, -, -, hall'⟩, -⟩ := h.shows hij
  rw [children_of_get? hn, children_of_get? hm]
  refine List.forall₂_iff_get.2 ⟨(hall.forall₂ hall').length_eq, fun k hk hk' => ?_⟩
  refine .inside (k := k) hij ?_ ?_
  · rw [children_of_get? hn]
    exact List.getElem?_eq_getElem hk
  · rw [children_of_get? hm]
    exact List.getElem?_eq_getElem hk'

theorem metadata (hij : Paired y z i j) : ∃ n m, y.arena.get? i = some n ∧ z.arena.get? j = some m ∧
    m.metadata = n.metadata := by
  obtain ⟨-, -, metadata, -, ⟨n, hn, -, hnm, -⟩, ⟨m, hm, -, hmm, -⟩, -⟩ := h.shows hij
  exact ⟨n, m, hn, hm, hmm.trans hnm.symm⟩

theorem name? (hij : Paired y z i j) (hi : i ∉ Tree.roots y.trees) : z.arena.name? j = y.arena.name? i := by
  obtain ⟨name, name', _, _, hshows, hshows', he⟩ := h.shows hij
  rw [name?_of_shows hshows, name?_of_shows hshows', Collected.name, Collected.name, he hi]

/-- A root corresponds to a root, and any other node to a node below the one that its parent corresponds to. -/
theorem parent? (hij : Paired y z i j) (hp : y.arena.parent? i = some p) :
    ∃ q, z.arena.parent? j = some q ∧ Paired y z p q := by
  cases hij with
  | root ht _ hr _ =>
    rw [h.left.parent?_root (Tree.mem_roots_of_root (List.mem_of_getElem? ht) hr)] at hp
    cases hp
  | @inside p' q _ _ k hpq hi hj =>
    have hp' := h.left.wellFormed.mem_children.1 (List.mem_of_getElem? hi)
    obtain rfl := Option.some.inj (hp.symm.trans hp')
    exact ⟨q, h.right.wellFormed.mem_children.1 (List.mem_of_getElem? hj), hpq⟩

theorem not_root (hij : Paired y z i j) (hi : i ∉ Tree.roots y.trees) : j ∉ Tree.roots z.trees := by
  cases hij with
  | root ht _ hr _ => exact absurd (Tree.mem_roots_of_root (List.mem_of_getElem? ht) hr) hi
  | inside _ _ hj =>
    intro hroot
    have := h.right.wellFormed.mem_children.1 (List.mem_of_getElem? hj)
    rw [h.right.parent?_root hroot] at this
    cases this

/-- A node corresponds to one node. -/
theorem right_unique (hij : Paired y z i j) : ∀ {s}, Paired y z i s → j = s := by
  induction hij with
  | @root k t u r j ht hu hr hs =>
    intro s' g
    cases g with
    | @root k' t' u' _ _ ht' hu' hr' hs' =>
      obtain rfl := h.left.gathering.sound.forest.eq_of_root (List.mem_of_getElem? ht) (List.mem_of_getElem? ht') hr hr'
      obtain rfl := h.left.gathering.sound.index_eq ht ht' rfl
      obtain rfl := Option.some.inj (hu.symm.trans hu')
      exact Option.some.inj (hs.symm.trans hs')
    | inside _ hi _ =>
      have := h.left.wellFormed.mem_children.1 (List.mem_of_getElem? hi)
      rw [h.left.parent?_root (Tree.mem_roots_of_root (List.mem_of_getElem? ht) hr)] at this
      cases this
  | @inside p q i j k _ hi hj ih =>
    intro s' g
    have hp := h.left.wellFormed.mem_children.1 (List.mem_of_getElem? hi)
    cases g with
    | root ht' _ hr' _ =>
      rw [h.left.parent?_root (Tree.mem_roots_of_root (List.mem_of_getElem? ht') hr')] at hp
      cases hp
    | @inside p' q' _ _ k' hpq' hi' hj' =>
      have hp' := h.left.wellFormed.mem_children.1 (List.mem_of_getElem? hi')
      obtain rfl := Option.some.inj (hp.symm.trans hp')
      obtain rfl := ih hpq'
      have hk : k = k' := (List.getElem?_inj (List.getElem?_eq_some_iff.1 hi).1
        (h.left.wellFormed.children_nodup p)).1 (hi.trans hi'.symm)
      subst hk
      exact Option.some.inj (hj.symm.trans hj')

/-! ### What gives way -/

/-- Where a node is in the place of a tree, so is the node that corresponds to it. -/
theorem displaced (ht : y.trees[k]? = some t) (hu : z.trees[k]? = some u) (hv : y.trees[c]? = some v)
    (hw : z.trees[c]? = some w) (hij : Paired y z i j) (hdis : Displaced y t v i) : Displaced z u w j := by
  have hm := h.matches_of_get ht hu
  have hcomponents := h.left.components_of_displaced hdis
  have hentry : w.area.path.components = u.area.path.components ++ [.name v.area.path.entryName] := by
    rw [← (h.matches_of_get hv hw).components, ← hm.components, hcomponents]
  obtain ⟨r, hr, hp⟩ := hdis.parent
  obtain ⟨q, hq, hpq⟩ := h.parent? hij hp
  obtain ⟨s, -, -, hs, -⟩ := h.exists_root ht hu hr
  obtain rfl := h.right_unique hpq (.root ht hu hr hs)
  refine ⟨hm.recursive ▸ hdis.shallow, isParentOf_of_components hentry, ⟨q, hs, hq⟩, ?_⟩
  rw [h.name? hij (h.left.not_root_of_displaced hdis), hdis.name, Path.entryName_of_components hentry]

/-- Whichever node gives way in the one index, the corresponding one does in the other. -/
theorem displaced? (hd : y.displaced? k c = some i) : ∃ j, Paired y z i j ∧ z.displaced? k c = some j := by
  obtain ⟨t, v, ht, hv, hroot, hdis⟩ := h.left.displaced?_eq_some.1 hd
  obtain ⟨u, hu, -⟩ := h.get_tree ht
  obtain ⟨w, hw, -⟩ := h.get_tree hv
  obtain ⟨r, hr, hp⟩ := hdis.parent
  obtain ⟨q, hq⟩ := Option.isSome_iff_exists.1 hroot
  obtain ⟨s, -, -, hs, -⟩ := h.exists_root ht hu hr
  obtain ⟨s', -, -, hs', -⟩ := h.exists_root hv hw hq
  obtain ⟨j, -, hij⟩ := exists_mem_of_forall₂ (h.children (.root ht hu hr hs)) (h.left.wellFormed.mem_children.2 hp)
  exact ⟨j, hij, h.right.displaced?_eq_some.2 ⟨u, w, hu, hw, by rw [hs']; rfl, h.displaced ht hu hv hw hij hdis⟩⟩

theorem isSome_displaced? (k c : Nat) : (z.displaced? k c).isSome = (y.displaced? k c).isSome := by
  cases hy : y.displaced? k c with
  | some i =>
    obtain ⟨j, -, hj⟩ := h.displaced? hy
    rw [hj]
    rfl
  | none =>
    cases hz : z.displaced? k c with
    | none => rfl
    | some j =>
      obtain ⟨i, -, hi⟩ := h.symm.displaced? hz
      rw [hy] at hi
      cases hi

theorem givesWay_of (hij : Paired y z i j) (hi : y.givesWay done i = true) : z.givesWay done j = true := by
  obtain ⟨q, hq, hd⟩ := List.any_eq_true.1 hi
  obtain ⟨s, his, hs⟩ := h.displaced? (beq_iff_eq.1 hd)
  exact List.any_eq_true.2 ⟨q, hq, by rw [hs, h.right_unique hij his, beq_self_eq_true]⟩

theorem givesWay (hij : Paired y z i j) : z.givesWay done j = y.givesWay done i := by
  rw [Bool.eq_iff_iff]
  exact ⟨h.symm.givesWay_of hij.symm, h.givesWay_of hij⟩

/-- What a tree adopts in the one index corresponds to what it adopts in the other. -/
theorem adoptees (k : Nat) (done : List (Nat × Nat)) :
    List.Forall₂ (Paired y z) (y.adoptees k done) (z.adoptees k done) := by
  refine List.rel_filterMap (R := Eq) (fun q q' hq => ?_) (List.forall₂_eq_eq_eq ▸ rfl)
  subst hq
  rw [h.isSome_displaced?]
  split
  · rename_i hadopts
    obtain ⟨i, hi⟩ := Option.isSome_iff_exists.1 hadopts.2
    obtain ⟨t, v, ht, hv, hroot, -⟩ := h.left.displaced?_eq_some.1 hi
    obtain ⟨w, hw, -⟩ := h.get_tree hv
    obtain ⟨r, hr⟩ := Option.isSome_iff_exists.1 hroot
    obtain ⟨s, -, -, hs, -⟩ := h.exists_root hv hw hr
    rw [hv, hw, Option.bind_some, Option.bind_some, hr, hs]
    exact .some (.root hv hw hr hs)
  · exact .none

end Matched

theorem forall₂_with_mem {α β : Type} {R : α → β → Prop} {l : List α} {m : List β} (h : List.Forall₂ R l m) :
    List.Forall₂ (fun a b => a ∈ l ∧ b ∈ m ∧ R a b) l m := by
  induction h with
  | nil => exact .nil
  | cons hr _ ih => exact .cons ⟨by simp, by simp, hr⟩ (ih.imp fun _ _ h => ⟨by simp [h.1], by simp [h.2.1], h.2.2⟩)

/-! ## Merged side by side -/

namespace Matched

variable (h : Matched d y z) (hx : Merged d y x) (hx' : Merged d z x')
include h hx hx'

/-- Behind the merges corresponding nodes have corresponding children, in the same order. -/
theorem children_merged (hij : Paired y z i j) (hi : x.arena.contains i = true) (hj : x'.arena.contains j = true) :
    List.Forall₂ (Paired y z) (x.arena.children i) (x'.arena.children j) := by
  by_cases hroot : i ∈ Tree.roots y.trees
  · obtain ⟨t, ht, hr⟩ := Tree.mem_roots.1 hroot
    obtain ⟨k, hk⟩ := List.mem_iff_getElem?.1 ht
    obtain ⟨u, hu, -⟩ := h.get_tree hk
    obtain ⟨s, -, -, hs, -⟩ := h.exists_root hk hu hr
    obtain rfl := h.right_unique hij (.root hk hu hr hs)
    rw [hx.arranged k t i hk hr, hx'.arranged k u j hu hs, h.trees.length_eq]
    refine List.rel_append (List.rel_filter (fun i' j' hij' => ?_) (h.children hij)) (h.adoptees k _)
    simp only [h.givesWay hij']
  · rw [hx.children i hi hroot, hx'.children j hj (h.not_root hij hroot)]
    exact h.children hij

theorem subtree_merged (hi : x.arena.contains i = true) : ∀ {j}, Paired y z i j → x'.arena.contains j = true →
    List.Forall₂ (Paired y z) (x.arena.subtree i) (x'.arena.subtree j) := by
  have hw := hx.sound.wellFormed
  have hw' := hx'.sound.wellFormed
  induction i, hi using hw.induct with
  | step i hi ih =>
    intro j hij hj
    rw [hw.subtree_eq hi, hw'.subtree_eq hj]
    refine .cons hij (List.rel_flatMap ((forall₂_with_mem (h.children_merged hx hx' hij hi hj)).imp fun a b hab => ?_)
      fun a b hab => hab)
    have hpa := hw.mem_children.1 hab.1
    exact ih a hpa hab.2.2 (contains_of_parent? (hw'.mem_children.1 hab.2.1))

/-- The same trees count as children. -/
theorem isChild_merged {c : Nat} (ht : x.trees[c]? = some t) (hu : x'.trees[c]? = some u) : t.isChild = u.isChild := by
  rw [Bool.eq_iff_iff, hx.isChild_iff h.left ht, hx'.isChild_iff h.right hu]
  simp only [h.isSome_displaced?]

/-- Trees of one number have corresponding entries. -/
theorem tree_entryIds {c : Nat} (ht : x.trees[c]? = some t) (hu : x'.trees[c]? = some u) :
    List.Forall₂ (Paired y z) (t.entryIds x.arena) (u.entryIds x'.arena) := by
  obtain ⟨v, hv, hvt⟩ := hx.get_tree c t ht
  obtain ⟨w, hw, hwu⟩ := hx'.get_tree c u hu
  unfold Tree.entryIds
  cases hr : t.root with
  | none =>
    cases hs : u.root with
    | none => exact .nil
    | some s =>
      obtain ⟨r, -, -, hr', -⟩ := h.symm.exists_root hw hv (hwu.root ▸ hs)
      rw [hvt.root, hr'] at hr
      cases hr
  | some r =>
    obtain ⟨s, -, -, hs, -⟩ := h.exists_root hv hw (hvt.root ▸ hr)
    rw [← hwu.root] at hs
    have hrs : Paired y z r s := .root hv hw (hvt.root ▸ hr) (hwu.root ▸ hs)
    have hlive := hx.sound.contains_root (List.mem_of_getElem? ht) r hr
    have hlive' := hx'.sound.contains_root (List.mem_of_getElem? hu) s hs
    obtain ⟨n, m, hn, hm, hmeta⟩ := h.metadata hrs
    have hdir : x'.arena.isDirectory s = x.arena.isDirectory r := by
      rw [hx.isDirectory hlive, hx'.isDirectory hlive', Arena.isDirectory, Arena.isDirectory, hn, hm,
        Option.any_some, Option.any_some, Node.isDirectory, hmeta]
      rfl
    have hsub := h.subtree_merged hx hx' hlive hrs hlive'
    rw [hs]
    dsimp only
    rw [hdir]
    split
    · rw [hx.sound.wellFormed.subtree_eq hlive, hx'.sound.wellFormed.subtree_eq hlive'] at hsub ⊢
      exact (List.forall₂_cons.1 hsub).2
    · exact .cons hrs .nil

/-- The entries of both indexes correspond, in their order. -/
theorem entryIds : List.Forall₂ (Paired y z) x.entryIds x'.entryIds := by
  have hlength : x.trees.length = x'.trees.length := by
    rw [hx.length_trees, hx'.length_trees, h.trees.length_eq]
  have htrees : List.Forall₂ (fun t u => t.isChild = u.isChild ∧
      List.Forall₂ (Paired y z) (t.entryIds x.arena) (u.entryIds x'.arena)) x.trees x'.trees := by
    refine List.forall₂_iff_get.2 ⟨hlength, fun k hk hk' => ?_⟩
    have ht := List.getElem?_eq_getElem hk
    have hu := List.getElem?_eq_getElem hk'
    exact ⟨h.isChild_merged hx hx' ht hu, h.tree_entryIds hx hx' ht hu⟩
  have htop := List.rel_filter (p := fun t : Tree => !t.isChild) (q := fun t : Tree => !t.isChild)
    (fun t u htu => by simp only [htu.1]) htrees
  exact List.rel_flatMap htop fun t u htu => htu.2

end Matched

/-! ## Listings -/

/-- What a listing shows of an entry: where it is and what is known of it. -/
abbrev Row := List Path.Component × Metadata

/-- The row of a node. -/
def row? (a : Arena) (id : NodeId) : Option Row :=
  (a.get? id).bind fun n => (a.path? id).1.map fun p => (p.components, n.metadata)

end Index

end FileIndex
