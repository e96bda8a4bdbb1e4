/-
Orderly indexes: siblings have names of their own, no area that reaches all the way down has another one below it, in
the tree of a shallow area the entries of the root have nothing below them, unless another tree has taken their place,
and roots are anchored (`Index.Orderly`). On disks as there can be, an edit that spares the roots leaves an index
orderly.
-/
import FileIndex.Proofs.Index.Nested
import FileIndex.Proofs.Index.Reach
import FileIndex.Proofs.Tree.Growing

namespace FileIndex

open Arena

namespace Index

variable {x y m z : Index} {d : Disk} {o : Operation} {e : Effect} {areas : List Area} {c : Cancellation}
  {rest : List (Nat × Nat)} {t u t' : Tree} {i : Nat} {a b : Arena} {made : Option NodeId} {r s q j k : NodeId}

/-- Whether no area that reaches all the way down has the area of another tree below it. -/
def Uncovered (x : Index) : Prop := ∀ t ∈ x.trees, ∀ u ∈ x.trees, t.area.recursive = true →
  t.area.path.components <+: u.area.path.components → t.area.path.components = u.area.path.components

/-- Whether in shallow trees the entries of the root have nothing below them, unless they are roots. -/
def Shallow (x : Index) : Prop := ∀ t ∈ x.trees, t.area.recursive = false → ∀ r j k, t.root = some r →
  x.arena.parent? j = some r → x.arena.parent? k = some j → j ∈ Tree.roots x.trees

/-- An index in which areas and names tell nodes apart. -/
structure Orderly (x : Index) : Prop where
  sound : x.Sound
  nested : x.Nested
  distinct : x.arena.Distinct
  uncovered : x.Uncovered
  shallow : x.Shallow
  anchored : ∀ t ∈ x.trees, t.Anchored x.arena

theorem orderly_ofSettings (s : Settings) : (ofSettings s).Orderly where
  sound := sound_ofSettings s
  nested := nested_ofSettings s
  distinct _ := List.nodup_nil
  uncovered := nofun
  shallow := nofun
  anchored := nofun

/-- Which areas there are tells whether one covers another. -/
theorem Uncovered.of_areas (h : x.Uncovered) (hareas : ∀ t ∈ y.trees, ∃ u ∈ x.trees, u.area = t.area) : y.Uncovered := by
  intro t ht u hu hrec hp
  obtain ⟨t', ht', hta⟩ := hareas t ht
  obtain ⟨u', hu', hua⟩ := hareas u hu
  rw [← hta] at hrec hp ⊢
  rw [← hua] at hp ⊢
  exact h t' ht' u' hu' hrec hp

/-- A root stands below another one only if its area lies below the area of that one. -/
theorem Nested.prefix_of_below (hn : x.Nested) (h : x.Sound) (ht : t ∈ x.trees) (hr : t.root = some r)
    (hb : x.arena.Below r s) : ∀ u ∈ x.trees, u.root = some s →
      t.area.path.components <+: u.area.path.components := by
  induction hb with
  | refl =>
    intro u hu hs
    rw [h.forest.eq_of_root hu ht hs hr]
  | @tail q s _ hp ih =>
    intro u hu hs
    obtain ⟨v, hv, hq⟩ := Tree.mem_roots.1 (h.forest.merged s (Tree.mem_roots_of_root hu hs) q hp)
    obtain ⟨c, hc⟩ := components_of_isParentOf (hn u hu v hv s q hs hq hp)
    exact (ih v hv hq).trans (hc ▸ List.prefix_append _ _)

/-! ## Operations that lose nodes at most -/

theorem Shrinks.orderly (h : Shrinks x y) (hx : x.Orderly) (hy : y.Sound) (hd : y.arena.Distinct)
    (hanchor : ∀ j, y.arena.contains j = true → y.arena.anchor? j = x.arena.anchor? j)
    (hroots : ∀ j ∈ Tree.roots x.trees, y.arena.contains j = true → j ∈ Tree.roots y.trees) : y.Orderly where
  sound := hy
  nested := h.nested hy hx.nested
  distinct := hd
  uncovered := hx.uncovered.of_areas fun t ht => by
    obtain ⟨t', ht', hta, -⟩ := h.trees t ht
    exact ⟨t', ht', hta⟩
  shallow t ht hrec r j k hr hj hk := by
    obtain ⟨t', ht', hta, htr⟩ := h.trees t ht
    have hlive := contains_of_parent? hj
    rw [h.parent? j hlive] at hj
    rw [h.parent? k (contains_of_parent? hk)] at hk
    exact hroots j (hx.shallow t' ht' (hta ▸ hrec) r j k (htr r hr) hj hk) hlive
  anchored t ht := by
    obtain ⟨t', ht', hta, htr⟩ := h.trees t ht
    exact (hx.anchored t' ht').congr hta.symm fun r hr hlive => ⟨htr r hr, h.live r hlive, hanchor r hlive⟩

/-! ## Edits -/

section

variable {p : Path} (h : Tree.AddOutcome t a p made t' b)
include h

theorem root_of_addOutcome (hr : t.root = some r) : t'.root = some r := by
  cases h with
  | unchanged | below => exact hr
  | root hnone =>
    rw [hnone] at hr
    cases hr

theorem parent?_of_addOutcome (hj : a.contains j = true) : b.parent? j = a.parent? j := by
  cases h with
  | unchanged => rfl
  | root _ hg _ | below _ _ hg _ => exact hg.parent?_old hj

/-- A root that is there before is the root of the tree before. -/
theorem root_of_contains (hr : t'.root = some r) (hlive : a.contains r = true) : t.root = some r := by
  cases h with
  | unchanged | below => exact hr
  | root _ hg _ =>
    obtain rfl := Option.some.inj hr
    exact absurd hlive (hg.fresh _ (.refl _ _))

/-- What is added stands below the root of the tree. -/
theorem below_of_addOutcome (ha : a.WellFormed) (hk : b.contains k = true) (hnew : ¬a.contains k = true) :
    ∃ r, t'.root = some r ∧ b.Below r k := by
  cases h with
  | unchanged => exact absurd hk hnew
  | root _ hg _ => exact ⟨_, rfl, ((hg.contains_iff k).1 hk).resolve_left hnew⟩
  | below hr hq hg _ =>
    have hb := ((hg.contains_iff k).1 hk).resolve_left hnew
    exact ⟨_, hr, ((hg.below_old ha (hg.contains_parent _ rfl)).2 hq).tail hg.parent?_top |>.trans hb⟩

end

/-- A root stays one as long as its node is there. -/
theorem Realizes.root_stays (h : x.Sound) (hr : Realizes x e y) (hj : j ∈ Tree.roots x.trees)
    (hlive : y.arena.contains j = true) : j ∈ Tree.roots y.trees := by
  cases hr with
  | idle => exact hj
  | refuse _ _ ht _ => exact ht ▸ hj
  | grow hi hout _ _ ht _ _ =>
    obtain ⟨before, after, htrees, hset⟩ := set_eq_append hi _
    rw [htrees, Tree.roots_append, Tree.roots_cons] at hj
    rw [ht, hset, Tree.roots_append, Tree.roots_cons]
    simp only [List.mem_append, Option.mem_toList] at hj ⊢
    exact hj.imp_right fun hj => hj.imp_left (root_of_addOutcome hout)
  | cut _ hid hc _ ht _ _ =>
    rw [ht, roots_forgetRoots, List.mem_filter]
    refine ⟨hj, ?_⟩
    rw [decide_eq_true_eq, h.wellFormed.mem_subtree hid]
    exact hc.not_below hlive
  | rename _ _ _ _ _ _ ht _ => exact ht ▸ hj
  | update _ _ _ _ ht _ _ => exact ht ▸ hj

/-- Where nothing is added, siblings keep names of their own. -/
theorem Realizes.distinct (h : x.Sound) (hd : x.arena.Distinct) (hr : Realizes x e y)
    (hno : ∀ i t b made, e ≠ .grow i t b made) : y.arena.Distinct := by
  have ha := h.wellFormed
  cases hr with
  | idle => exact hd
  | refuse hal _ _ _ => exact hal.distinct hd
  | grow => exact absurd rfl (hno _ _ _ _)
  | cut _ _ hc _ _ _ _ => exact hc.distinct ha hd
  | rename hid _ hal _ hc _ _ _ =>
    have hb := hal.sameLinks.wellFormed ha
    exact hc.distinct ((hal.distinct hd).renamed hb (by rw [hal.contains, hid]) _)
  | update _ hf hal _ _ _ _ =>
    exact hal.distinct (hd.congr (sameLinks_modify hf.parent hf.children).children
      (name?_modify hf.name x.arena _))

/-- Nodes keep their anchors. -/
theorem Realizes.anchor? (h : x.Sound) (hr : Realizes x e y) (hj : x.arena.contains j = true)
    (hlive : y.arena.contains j = true) : y.arena.anchor? j = x.arena.anchor? j := by
  have ha := h.wellFormed
  cases hr with
  | idle => rfl
  | refuse hal _ _ _ => exact hal.anchor? j
  | grow _ hout hal _ _ _ _ =>
    rw [hal.anchor?]
    cases hout with
    | unchanged => rfl
    | root _ hg _ | below _ _ hg _ => exact hg.anchor?_old hj
  | cut _ _ hc _ _ _ _ => exact hc.anchor? hlive
  | @rename id name _ _ b _ _ _ hal _ hc _ _ _ =>
    rw [hc.contains, (sameLinks_renamed _ id name).contains] at hlive
    rw [hc.anchor?, anchor?_renamed, anchor?_cleared (hal.sameLinks.wellFormed ha) hlive, hal.anchor?]
  | update _ hf hal _ _ _ _ => rw [hal.anchor?, anchor?_modify hf.anchor]

/-- Whatever makes nodes adds a path to a tree. -/
theorem effect_grow {e : Edit} (h : e.effect x d = .grow i t' b made) :
    ∃ t p, x.trees[i]? = some t ∧ t.add x.arena d p = .ok (made, t', b) := by
  refine effect_of (P := fun f => f = .grow i t' b made → ∃ t p, x.trees[i]? = some t ∧
    t.add x.arena d p = .ok (made, t', b)) (by simp) (by simp) ?_ (by simp) (by simp) (by simp) e h
  rintro p i t t' b made hi hadd ⟨⟩
  exact ⟨t, p, hi, hadd⟩

/-- The trees behind an addition are those before it, with the tree that was added to in place of what it was. -/
theorem Realizes.tree_grow (hr : Realizes x (.grow i t' b made) y) (hi : x.trees[i]? = some t) (hu : u ∈ y.trees) :
    u ∈ x.trees ∨ u = t' ∧ t.area = t'.area := by
  obtain ⟨v, p, hv, hout, -, htrees⟩ := hr.grown
  obtain rfl := Option.some.inj (hi.symm.trans hv)
  rw [htrees] at hu
  exact (List.mem_or_eq_of_mem_set hu).imp_right fun he => ⟨he, (addOutcome_area hout).symm⟩

theorem Realizes.uncovered_grow (h : x.Uncovered) (hr : Realizes x (.grow i t' b made) y)
    (hi : x.trees[i]? = some t) : y.Uncovered :=
  h.of_areas fun u hu => by
    rcases hr.tree_grow hi hu with hu | ⟨rfl, ha⟩
    · exact ⟨u, hu, rfl⟩
    · exact ⟨t, List.mem_of_getElem? hi, ha⟩

/-- In shallow trees nothing is added below the entries of the root, and what is added elsewhere does not lie below
them. -/
theorem Realizes.shallow_grow {p : Path} (h : x.Orderly) (hr : Realizes x (.grow i t' b made) y)
    (hi : x.trees[i]? = some t) (hout : Tree.AddOutcome t x.arena p made t' b) (hal : Alike b y.arena)
    (hnear : t.area.recursive = false → ∀ r, t'.root = some r → Tree.Near x.arena b r) : y.Shallow := by
  have hx := h.sound
  have hy := hr.sound hx trivial
  intro v hv hrec r j k hvr hj hk
  have hlive := contains_of_parent? hj
  by_cases hold : x.arena.contains k = true
  · -- What stands above an old entry is old, and so is the tree.
    rw [hal.parent?, parent?_of_addOutcome hout hold] at hk
    have hjx := hx.wellFormed.contains_parent hk
    rw [hal.parent?, parent?_of_addOutcome hout hjx] at hj
    refine hr.root_stays hx ?_ hlive
    rcases hr.tree_grow hi hv with hv | ⟨rfl, ha⟩
    · exact h.shallow v hv hrec r j k hvr hj hk
    · exact h.shallow t (List.mem_of_getElem? hi) (ha ▸ hrec) r j k
        (root_of_contains hout hvr (hx.wellFormed.contains_parent hj)) hj hk
  · -- A new entry stands below the root of the tree, in a shallow area directly.
    have hmember : t' ∈ y.trees := by
      obtain ⟨_, _, _, _, _, htrees⟩ := hr.grown
      rw [htrees]
      exact List.mem_set (List.getElem?_eq_some_iff.1 hi).1 t'
    have hbk := hal.contains k ▸ contains_of_parent? hk
    obtain ⟨top, htop, hb⟩ := below_of_addOutcome hout hx.wellFormed hbk hold
    have htopy := Tree.mem_roots_of_root hmember htop
    rw [← hal.sameLinks.below] at hb
    rcases hb.cases_tail with rfl | ⟨i, hi', hb⟩
    · exact hy.forest.merged _ htopy j hk
    · obtain rfl := Option.some.inj (hi'.symm.trans hk)
      rcases hb.cases_tail with rfl | ⟨i, hi', hb⟩
      · exact htopy
      · obtain rfl := Option.some.inj (hi'.symm.trans hj)
        cases hrect : t'.area.recursive with
        | true =>
          have hcover := hr.uncovered_grow h.uncovered hi
          have hn := hr.nested hx trivial h.nested
          have hsame := hcover t' hmember v hv hrect (hn.prefix_of_below hy hmember htop hb v hv hvr)
          rw [← hy.eq_of_components hmember hv hsame, hrect] at hrec
          cases hrec
        | false =>
          rcases hnear (addOutcome_area hout ▸ hrect) top htop k hbk hold with rfl | hk'
          · exact absurd (hb.tail hj) (hy.wellFormed.acyclic hk)
          · rw [← hal.parent?, hk] at hk'
            exact absurd (Option.some.inj hk' ▸ hb) (hy.wellFormed.acyclic hj)

/-- Adding to a tree leaves an index orderly. -/
theorem Realizes.orderly_grow {p : Path} (h : x.Orderly) (hv : d.Valid) (hr : Realizes x (.grow i t' b made) y)
    (hi : x.trees[i]? = some t) (hadd : t.add x.arena d p = .ok (made, t', b)) : y.Orderly := by
  have hx := h.sound
  have ht := List.mem_of_getElem? hi
  obtain ⟨u, q, hu, hout, hal, -⟩ := hr.grown
  obtain rfl := Option.some.inj (hi.symm.trans hu)
  obtain ⟨hdistinct, hnear, hanchored⟩ := Tree.add_distinct hv hx.wellFormed h.distinct (hx.contains_root ht) hadd
  refine ⟨hr.sound hx trivial, hr.nested hx trivial h.nested, hal.distinct hdistinct, hr.uncovered_grow h.uncovered hi,
    hr.shallow_grow h hi hout hal hnear, fun v hv => ?_⟩
  rcases hr.tree_grow hi hv with hv | ⟨rfl, -⟩
  · exact (h.anchored v hv).congr rfl fun r hvr hlive =>
      ⟨hvr, hx.contains_root hv r hvr, hr.anchor? hx (hx.contains_root hv r hvr) hlive⟩
  · exact (hanchored (h.anchored t ht)).congr rfl fun r hvr hlive => ⟨hvr, hal.contains r ▸ hlive, hal.anchor? r⟩

theorem Realizes.orderly {e : Edit} (h : x.Orderly) (hv : d.Valid) (hr : Realizes x (e.effect x d) y)
    (hs : (e.effect x d).Spares x) : y.Orderly := by
  by_cases hgrow : ∃ i t b made, e.effect x d = .grow i t b made
  · obtain ⟨i, t', b, made, heffect⟩ := hgrow
    obtain ⟨t, p, hi, hadd⟩ := effect_grow heffect
    rw [heffect] at hr
    exact hr.orderly_grow h hv hi hadd
  · have hshrinks := (hr.shrinks h.sound).resolve_right hgrow
    refine hshrinks.orderly h (hr.sound h.sound hs) ?_ (fun j hj => hr.anchor? h.sound (hshrinks.live j hj) hj)
      fun j => hr.root_stays h.sound
    exact hr.distinct h.sound h.distinct fun i t b made he => hgrow ⟨i, t, b, made, he⟩

end Index

end FileIndex
