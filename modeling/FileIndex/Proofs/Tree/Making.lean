/-
Adding an entry of which a mirror has no node yet: the nodes from the first missing name on are made as the disk has
them, and the whole mirrors the disk with the entry on it (`add_missing`).
-/
import FileIndex.Proofs.Tree.Add
import FileIndex.Proofs.Tree.Mirrors

namespace FileIndex

namespace Arena

variable {a b c : Arena} {id j p q top child : NodeId} {n : Node} {parent : Option NodeId} {f : Node → Node}
  {name : String} {e g : Entry} {children : List (String × Entry)}

/-! ## Changes out of sight -/

theorem SameSight.trans (h : SameSight a b j) (k : SameSight b c j) : SameSight a c j :=
  ⟨k.seen.trans h.seen, k.name.trans h.name, k.children.trans h.children⟩

theorem sameSight_of_get? (hg : b.get? j = (a.get? j).map f) (hm : ∀ n, (f n).metadata = n.metadata)
    (hn : ∀ n, (f n).name = n.name) (hc : ∀ n, (f n).children = n.children) : SameSight a b j := by
  refine ⟨?_, ?_, ?_⟩ <;> simp only [seen?, name?, Arena.children, hg] <;> cases a.get? j <;> simp [hm, hn, hc]

theorem seen?_eq_core (a : Arena) (j : NodeId) : a.seen? j = (a.core? j).map fun n => n.metadata.seen := by
  rw [seen?, core?, Option.map_map]
  rfl

theorem name?_eq_core (a : Arena) (j : NodeId) : a.name? j = (a.core? j).map (·.name) := by
  rw [name?, core?, Option.map_map]
  rfl

theorem sameSight_of_core? (h : b.core? j = a.core? j) : SameSight a b j :=
  ⟨by rw [seen?_eq_core, seen?_eq_core, h], by rw [name?_eq_core, name?_eq_core, h],
    by rw [children_eq_core, children_eq_core, h]⟩

theorem Alike.sameSight (h : Alike a b) (j : NodeId) : SameSight a b j := sameSight_of_core? (h.core j)

theorem sameSight_modifyAll (hm : ∀ n, (f n).metadata = n.metadata) (hn : ∀ n, (f n).name = n.name)
    (hc : ∀ n, (f n).children = n.children) (ids : List NodeId) (a : Arena) (j : NodeId) :
    SameSight a (a.modifyAll ids f) j := by
  induction ids generalizing a with
  | nil => exact ⟨rfl, rfl, rfl⟩
  | cons i ids ih =>
    refine .trans ?_ (ih _)
    refine sameSight_of_get? (f := if j = i then f else id) ?_ ?_ ?_ ?_
    · rw [get?_modify]
      split <;> simp
    all_goals intro n; split <;> simp [hm, hn, hc]

/-- What was there looks the same after growth, but for the node that has a child more. -/
theorem Grown.sameSight (h : Grown a b parent top) (hj : a.contains j = true) (hne : parent ≠ some j) :
    SameSight a b j :=
  sameSight_of_get? (f := id) (by rw [h.get?_old j hj]; simp [hne]) (fun _ => rfl) (fun _ => rfl) fun _ => rfl

theorem Grown.name?_old (h : Grown a b parent top) (hj : a.contains j = true) : b.name? j = a.name? j := by
  obtain ⟨n, hn⟩ := Arena.contains_iff.1 hj
  simp only [name?, h.get?_old j hj, hn, Option.map_some]
  split <;> rfl

/-- A node with one child more mirrors its entry with one child more. -/
theorem Grown.mirrors (h : Grown a b (some q) child) (ha : a.WellFormed) (hm : a.Mirrors q (.directory children))
    (hn : (children.map Prod.fst).Nodup) (hmissing : children.lookup name = none) (hname : b.name? child = some name)
    (hg : b.Mirrors child g) : b.Mirrors q (.directory (Entry.setChild children name (some g))) := by
  have hq := h.contains_parent q rfl
  have hchildren : b.children q = a.children q ++ [child] := by rw [h.children_old hq, if_pos rfl]
  have hold : ∀ c ∈ a.children q, ∀ j, a.Below c j → SameSight a b j := by
    intro c hc j hj
    have hp := ha.mem_children.1 hc
    refine h.sameSight (hj.contains (contains_of_parent? hp)) fun he => ha.acyclic hp ?_
    rwa [Option.some.inj he]
  have hnone : a.child? q name = none := by
    rcases eq_or_exists_of_rel (hm.child ha name) with ⟨hnone, -⟩ | ⟨-, f, -, hf, -⟩
    · exact hnone
    · exact absurd (hmissing.symm.trans hf) nofun
  have hd := hm.distinct q (.refl a q)
  have hnames : (b.children q).map b.name? = (a.children q).map a.name? ++ [some name] := by
    rw [hchildren, List.map_append, List.map_singleton, hname]
    congr 1
    exact List.map_congr_left fun c hc => (hold c hc c (.refl a c)).name
  have hd' : ((b.children q).map b.name?).Nodup := by
    rw [hnames]
    refine List.nodup_append'.2 ⟨hd, List.nodup_singleton _, ?_⟩
    rw [List.disjoint_singleton]
    intro hmem
    obtain ⟨c, hc, hcn⟩ := List.mem_map.1 hmem
    rw [(child?_eq_some hd).2 ⟨hc, hcn⟩] at hnone
    cases hnone
  refine .of_children h.wellFormed ?_ hd' fun m => ?_
  · refine Eq.trans ?_ hm.seen
    rw [seen?, seen?, h.get?_old q hq, Option.map_map]
    congr 1
    funext n
    simp only [Function.comp_apply]
    split <;> rfl
  · rw [Entry.child?, Entry.lookup_setChild hn]
    by_cases hmn : m = name
    · subst hmn
      rw [if_pos rfl, (child?_eq_some hd').2 ⟨by simp [hchildren], hname⟩]
      exact .some hg
    · rw [if_neg hmn]
      refine hm.keep ha h.wellFormed ?_ fun c hc => hold c (mem_children_of_child? hc)
      rw [child?, hchildren, List.find?_append, child?]
      have hlast : [child].find? (fun c => b.name? c == some m) = none := by
        simp [hname, Ne.symm hmn]
      rw [hlast, Option.or_none, ← List.head?_filter, ← List.head?_filter]
      exact congrArg List.head? (List.filter_congr fun c hc => by rw [(hold c hc c (.refl a c)).name])

end Arena

namespace Tree

open Arena

variable {a b : Arena} {t : Tree} {d : Disk} {p way : Path} {current q r : NodeId} {top : Option NodeId}
  {name : String} {names rest : List String} {e new : Entry} {children : List (String × Entry)}

/-! ## Making nodes -/

/-- Names that have a node are passed. -/
theorem addBelow_descend (t : Tree) (d : Disk) (p : Path) (metadata : Metadata) (top : Option NodeId) (way : Path)
    (ha : a.WellFormed) (hcur : a.contains current = true)
    (h : a.descend? current names = some q) (rest : List Path.Component) :
    t.addBelow d p metadata a top current way (names.map .name ++ rest) =
      t.addBelow d p metadata a top q (way.under names) rest := by
  induction names generalizing current way with
  | nil =>
    cases h
    rfl
  | cons name names ih =>
    rw [descend?] at h
    obtain ⟨child, hc, h⟩ := Option.bind_eq_some_iff.1 h
    rw [List.map_cons, List.cons_append, addBelow_found ha hcur hc, Path.under_cons]
    exact ih (way.child name) (contains_of_child? hc) h

/-! ## Adding to a mirror -/

/-- A tree takes what a walk over its area reaches. -/
theorem takes_of_reaches (h : Entry.Reaches (scope t.area t.includeHidden) true names)
    (hp : p.components = t.area.path.components ++ names.map .name) :
    t.area.covers p = true ∧ t.hides (names.map .name) = false := by
  obtain ⟨hskips, hdeep⟩ := h
  constructor
  · rcases names with _ | ⟨name, names⟩
    · rw [Area.covers, show p.same t.area.path = true by simp [Path.same, hp], Bool.true_or]
    · rw [Area.covers, Path.below?_eq_some.2 hp]
      rcases hdeep with hrec | hone
      · simp [show t.area.recursive = true from hrec]
      · obtain rfl : names = [] := List.eq_nil_of_length_eq_zero (Nat.le_zero.1 (Nat.le_of_succ_le_succ hone))
        simp
  · rw [hides, Bool.and_eq_false_iff, or_iff_not_imp_left]
    intro hhidden
    simpa [Path.Component.text, scope, WalkScope.skips, hhidden] using hskips

/-- A tree that takes all of its area takes every path below it. -/
theorem takes_of_recursive (hrec : t.area.recursive = true) (hhid : t.includeHidden = true)
    (hp : p.components = t.area.path.components ++ names.map .name) :
    t.area.covers p = true ∧ t.hides (names.map .name) = false :=
  takes_of_reaches ⟨fun n _ => by simp [scope, WalkScope.skips, hhid], .inl hrec⟩ hp

theorem add_eq {metadata : Metadata} (hr : t.root = some r)
    (hp : p.components = t.area.path.components ++ names.map .name)
    (htakes : t.area.covers p = true ∧ t.hides (names.map .name) = false) (hfind : d.metadata? p = some metadata) :
    t.add a d p = (t.addBelow d p metadata a none r t.area.path (names.map .name)).bind fun added =>
      .ok (added.outcome.1, t, added.outcome.2) := by
  have ht : { t with root := some r } = t := by rw [← hr]
  simp only [add, Path.below?_eq_some.2 hp, hfind, htakes.1, htakes.2, Bool.not_true, Bool.or_self, Bool.false_eq_true,
    if_false, ensureRoot, hr, pure_eq_ok, ok_bind, ht]
  rfl

/-- **Nothing is added where there is a node.** -/
theorem add_present (ha : a.WellFormed) (hr : t.root = some r) (hlive : a.contains r = true)
    (hrec : t.area.recursive = true) (hhid : t.includeHidden = true)
    (hp : p.components = t.area.path.components ++ names.map .name) (hq : a.descend? r names = some q) (d : Disk) :
    t.add a d p = .ok (none, t, a) := by
  cases hfind : d.metadata? p with
  | none =>
    rw [add, hfind, Path.below?_eq_some.2 hp]
    rfl
  | some metadata =>
    have hall := addBelow_descend t d p metadata none t.area.path ha hlive hq []
    rw [List.append_nil] at hall
    rw [add_eq hr hp (takes_of_recursive hrec hhid hp) hfind, hall]
    rfl

end Tree

end FileIndex
