/-
Forests: an arena in order together with the trees of an index. Every root is a live node and the root of
one tree only, every topmost node is a root, and a root stands below roots alone (`Forest`). What the
operations do to an arena (growth, cuts, links) leaves a forest a forest as long as no root is cut off that
its tree keeps.
-/
import FileIndex.Index.Mutation
import FileIndex.Proofs.Arena.Cut
import FileIndex.Proofs.Arena.Growth

namespace FileIndex

open Arena

variable {a b : Arena} {ts us : List Tree} {t u : Tree} {id i j p q r s top : NodeId}

/-- The roots of some trees. -/
def Tree.roots (ts : List Tree) : List NodeId := ts.filterMap (·.root)

/-- The trees of an arena in order. -/
structure Forest (a : Arena) (ts : List Tree) : Prop where
  wellFormed : a.WellFormed
  live : ∀ r ∈ Tree.roots ts, a.contains r = true
  distinct : (Tree.roots ts).Nodup
  /-- A tree counts as a child if its root has a parent. -/
  child_iff : ∀ t ∈ ts, t.isChild = true ↔ ∃ r p, t.root = some r ∧ a.parent? r = some p
  owned : ∀ j, a.contains j = true → a.parent? j = none → j ∈ Tree.roots ts
  /-- Above a root there are roots only. -/
  merged : ∀ r ∈ Tree.roots ts, ∀ p, a.parent? r = some p → p ∈ Tree.roots ts

namespace Tree

theorem mem_roots : r ∈ roots ts ↔ ∃ t ∈ ts, t.root = some r := List.mem_filterMap

theorem mem_roots_of_root (ht : t ∈ ts) (hr : t.root = some r) : r ∈ roots ts := mem_roots.2 ⟨t, ht, hr⟩

@[simp] theorem roots_nil : roots [] = [] := rfl

theorem roots_cons (t : Tree) (ts : List Tree) : roots (t :: ts) = t.root.toList ++ roots ts := by
  rw [roots, List.filterMap_cons]
  cases t.root <;> rfl

@[simp] theorem roots_append (ts us : List Tree) : roots (ts ++ us) = roots ts ++ roots us :=
  List.filterMap_append

end Tree

namespace Index

variable {gone : List NodeId}

theorem forgetRoots_of_mem (hr : t.root = some r) (hm : r ∈ gone) :
    forgetRoots gone t = { t with root := none, isChild := false } := by
  simp [forgetRoots, hr, hm]

theorem forgetRoots_of_not_mem (h : ∀ r, t.root = some r → r ∉ gone) : forgetRoots gone t = t := by
  cases hr : t.root with
  | none => simp [forgetRoots, hr]
  | some r => simp [forgetRoots, hr, h r hr]

theorem roots_forgetRoots (gone : List NodeId) (ts : List Tree) :
    Tree.roots (ts.map (forgetRoots gone)) = (Tree.roots ts).filter fun r => r ∉ gone := by
  induction ts with
  | nil => rfl
  | cons t ts ih =>
    rw [List.map_cons, Tree.roots_cons, Tree.roots_cons, List.filter_append, ih]
    congr 1
    cases hr : t.root with
    | none => simp [forgetRoots, hr]
    | some r => by_cases hm : r ∈ gone <;> simp [forgetRoots, hr, hm]

end Index

namespace Forest

open Tree

theorem live_root (h : Forest a ts) (ht : t ∈ ts) (hr : t.root = some r) : a.contains r = true :=
  h.live r (mem_roots_of_root ht hr)

theorem eq_of_root (h : Forest a ts) (ht : t ∈ ts) (hu : u ∈ ts) (hr : t.root = some r)
    (hs : u.root = some r) : t = u := by
  have hd := h.distinct
  clear h
  induction ts with
  | nil => cases ht
  | cons v ts ih =>
    rw [roots_cons] at hd
    have hrest := (List.nodup_append'.1 hd).2.1
    have hdis := (List.nodup_append'.1 hd).2.2
    rcases List.mem_cons.1 ht with htv | ht' <;> rcases List.mem_cons.1 hu with huv | hu'
    · rw [htv, huv]
    · exact absurd (mem_roots_of_root hu' hs) (hdis (by simp [← htv, hr]))
    · exact absurd (mem_roots_of_root ht' hr) (hdis (by simp [← huv, hs]))
    · exact ih ht' hu' hrest

theorem root_above (h : Forest a ts) (hb : a.Below s r) (hr : r ∈ roots ts) : s ∈ roots ts := by
  induction hb with
  | refl => exact hr
  | tail _ hp ih => exact ih (h.merged _ hr _ hp)

/-- Below a node that is no root there is no root. -/
theorem not_root_below (h : Forest a ts) (hs : s ∉ roots ts) (hb : a.Below s j) : j ∉ roots ts :=
  fun hj => hs (h.root_above hb hj)

theorem exists_top (h : Forest a ts) (hj : a.contains j = true) :
    ∃ t ∈ ts, ∃ top, t.root = some top ∧ a.parent? top = none ∧ a.Below top j ∧ t.isChild = false := by
  obtain ⟨top, ht, hb⟩ := h.wellFormed.grounded hj
  obtain ⟨t, hm, hr⟩ := mem_roots.1 (h.owned top (h.wellFormed.contains_of_below hb hj) ht)
  refine ⟨t, hm, top, hr, ht, hb, ?_⟩
  cases hc : t.isChild with
  | false => rfl
  | true =>
    obtain ⟨r, p, hr', hp⟩ := (h.child_iff t hm).1 hc
    rw [hr, Option.some.injEq] at hr'
    rw [← hr', ht] at hp
    cases hp

theorem isChild_eq_false (h : Forest a ts) (ht : t ∈ ts) (hr : t.root = none) : t.isChild = false := by
  cases hc : t.isChild with
  | false => rfl
  | true =>
    obtain ⟨r, p, hr', -⟩ := (h.child_iff t ht).1 hc
    rw [hr] at hr'
    cases hr'

/-! ## The same arena in other words, or other trees with the same roots -/

theorem sameLinks (h : Forest a ts) (hl : SameLinks a b) : Forest b ts where
  wellFormed := hl.wellFormed h.wellFormed
  live r hr := by rw [hl.contains, h.live r hr]
  distinct := h.distinct
  child_iff t ht := by
    simp only [hl.parent?]
    exact h.child_iff t ht
  owned j hj hp := by
    rw [hl.contains] at hj
    rw [hl.parent?] at hp
    exact h.owned j hj hp
  merged r hr p hp := by
    rw [hl.parent?] at hp
    exact h.merged r hr p hp

/-- A forest does not depend on the order of its trees, nor on anything else of them but roots and marks. -/
theorem of_perm (h : Forest a ts) (hp : (roots us).Perm (roots ts))
    (hsame : ∀ u ∈ us, ∃ t ∈ ts, u.root = t.root ∧ u.isChild = t.isChild) : Forest a us where
  wellFormed := h.wellFormed
  live r hr := h.live r (hp.mem_iff.1 hr)
  distinct := hp.nodup_iff.2 h.distinct
  child_iff u hu := by
    obtain ⟨t, ht, hr, hc⟩ := hsame u hu
    rw [hr, hc]
    exact h.child_iff t ht
  owned j hj hn := hp.mem_iff.2 (h.owned j hj hn)
  merged r hr p hpar := hp.mem_iff.2 (h.merged r (hp.mem_iff.1 hr) p hpar)

/-! ## Growth -/

theorem grown_below (h : Forest a ts) (hg : Grown a b (some q) top) : Forest b ts where
  wellFormed := hg.wellFormed
  live r hr := hg.contains_old (h.live r hr)
  distinct := h.distinct
  child_iff t ht := by
    rw [h.child_iff t ht]
    constructor
    · rintro ⟨r, p, hr, hp⟩
      exact ⟨r, p, hr, by rw [hg.parent?_old (h.live_root ht hr), hp]⟩
    · rintro ⟨r, p, hr, hp⟩
      exact ⟨r, p, hr, by rw [← hg.parent?_old (h.live_root ht hr), hp]⟩
  owned j hj hp := by
    rcases (hg.contains_iff j).1 hj with ho | hn
    · exact h.owned j ho (by rw [← hg.parent?_old ho, hp])
    · have htop := hn.eq_of_parent?_eq_none hp
      rw [← htop, hg.parent?_top] at hp
      cases hp
  merged r hr p hp := by
    rw [hg.parent?_old (h.live r hr)] at hp
    exact h.merged r hr p hp

/-- A new tree of nodes that becomes the tree of an area. -/
theorem grown_root {before after : List Tree} (h : Forest a (before ++ t :: after))
    (hr : t.root = none) (hg : Grown a b none top) :
    Forest b (before ++ { t with root := some top } :: after) := by
  have hroots : roots (before ++ { t with root := some top } :: after) =
      roots before ++ top :: roots after := by simp [roots_cons]
  have hold : roots (before ++ t :: after) = roots before ++ roots after := by simp [roots_cons, hr]
  have hmem : ∀ r, r ∈ roots (before ++ { t with root := some top } :: after) ↔
      r = top ∨ r ∈ roots (before ++ t :: after) := by
    intro r
    rw [hroots, hold]
    simp only [List.mem_append, List.mem_cons]
    tauto
  have hfresh : top ∉ roots (before ++ t :: after) := fun hm => hg.fresh top (.refl b top) (h.live top hm)
  constructor
  · exact hg.wellFormed
  · intro r hm
    rcases (hmem r).1 hm with rfl | hm
    · exact hg.contains_top
    · exact hg.contains_old (h.live r hm)
  · rw [hroots, List.perm_middle.nodup_iff, List.nodup_cons, ← hold]
    exact ⟨hfresh, h.distinct⟩
  · intro u hu
    have hcase : u = { t with root := some top } ∨ u ∈ before ++ t :: after := by
      simp only [List.mem_append, List.mem_cons] at hu ⊢
      tauto
    rcases hcase with rfl | hu
    · have hchild : t.isChild = false := h.isChild_eq_false (by simp) hr
      simp only [hchild, Option.some.injEq, Bool.false_eq_true, false_iff]
      rintro ⟨r, p, rfl, hp⟩
      rw [hg.parent?_top] at hp
      cases hp
    · rw [h.child_iff u hu]
      constructor <;> rintro ⟨r, p, hr', hp⟩ <;> refine ⟨r, p, hr', ?_⟩
      · rw [hg.parent?_old (h.live_root hu hr'), hp]
      · rw [← hg.parent?_old (h.live_root hu hr'), hp]
  · intro j hj hp
    rw [hmem]
    rcases (hg.contains_iff j).1 hj with ho | hn
    · exact .inr (h.owned j ho (by rw [← hg.parent?_old ho, hp]))
    · exact .inl (hn.eq_of_parent?_eq_none hp).symm
  · intro r hm p hp
    rw [hmem] at hm ⊢
    rcases hm with rfl | hm
    · rw [hg.parent?_top] at hp
      cases hp
    · rw [hg.parent?_old (h.live r hm)] at hp
      exact .inr (h.merged r hm p hp)

/-! ## Cuts -/

/-- A cut, and the trees without the roots that are gone. -/
theorem cut (h : Forest a ts) (hc : Cut a b id) {gone : List NodeId}
    (hgone : ∀ j, a.contains j = true → (j ∈ gone ↔ a.Below id j)) :
    Forest b (ts.map (Index.forgetRoots gone)) := by
  have hroots := Index.roots_forgetRoots gone ts
  have hmem : ∀ r, r ∈ roots (ts.map (Index.forgetRoots gone)) ↔ r ∈ roots ts ∧ ¬a.Below id r := by
    intro r
    rw [hroots, List.mem_filter]
    refine and_congr_right fun hr => ?_
    simp [hgone r (h.live r hr)]
  constructor
  · exact hc.wellFormed
  · intro r hr
    rw [hmem] at hr
    exact hc.contains_iff.2 ⟨h.live r hr.1, hr.2⟩
  · rw [hroots]
    exact h.distinct.filter _
  · intro u hu
    obtain ⟨t, ht, rfl⟩ := List.mem_map.1 hu
    by_cases hex : ∃ r, t.root = some r ∧ r ∈ gone
    · obtain ⟨r, hr, hm⟩ := hex
      rw [Index.forgetRoots_of_mem hr hm]
      simp
    · have hkeep : ∀ r, t.root = some r → r ∉ gone := fun r hr hm => hex ⟨r, hr, hm⟩
      rw [Index.forgetRoots_of_not_mem hkeep, h.child_iff t ht]
      have hpar : ∀ r, t.root = some r → b.parent? r = a.parent? r := fun r hr =>
        hc.parent?_rest fun hb => hkeep r hr ((hgone r (h.live_root ht hr)).2 hb)
      constructor <;> rintro ⟨r, p, hr, hp⟩ <;> refine ⟨r, p, hr, ?_⟩
      · rw [hpar r hr, hp]
      · rw [← hpar r hr, hp]
  · intro j hj hp
    obtain ⟨hja, hn⟩ := hc.contains_iff.1 hj
    rw [hc.parent?_rest hn] at hp
    exact (hmem j).2 ⟨h.owned j hja hp, hn⟩
  · intro r hr p hp
    obtain ⟨hr, hn⟩ := (hmem r).1 hr
    rw [hc.parent?_rest hn] at hp
    exact (hmem p).2 ⟨h.merged r hr p hp, fun hb => hn (hb.tail hp)⟩

/-- A cut that no root is lost by. -/
theorem cut_spare (h : Forest a ts) (hc : Cut a b s) (hs : s ∉ roots ts) : Forest b ts := by
  have hn : ∀ r ∈ roots ts, ¬a.Below s r := fun r hr hb => h.not_root_below hs hb hr
  constructor
  · exact hc.wellFormed
  · exact fun r hr => hc.contains_iff.2 ⟨h.live r hr, hn r hr⟩
  · exact h.distinct
  · intro t ht
    rw [h.child_iff t ht]
    constructor <;> rintro ⟨r, p, hr, hp⟩ <;> refine ⟨r, p, hr, ?_⟩
    · rw [hc.parent?_rest (hn r (mem_roots_of_root ht hr)), hp]
    · rw [← hc.parent?_rest (hn r (mem_roots_of_root ht hr)), hp]
  · intro j hj hp
    obtain ⟨hja, hnj⟩ := hc.contains_iff.1 hj
    exact h.owned j hja (by rw [← hc.parent?_rest hnj, hp])
  · intro r hr p hp
    rw [hc.parent?_rest (hn r hr)] at hp
    exact h.merged r hr p hp

end Forest

end FileIndex
