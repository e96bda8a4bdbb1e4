/-
What edits do to a chart. Whatever an edit leaves stays at its seat (`Realizes.keepsSeats`): a cut empties the seats at
and behind one (`chart_cut`), a change in place changes what is known at one (`chart_update`), and growth fills the seats
at and behind one with what was made (`chart_grown`). The seat of an area (`Based`) stays as long as its root does.
-/
import FileIndex.Proofs.Index.Chart

namespace FileIndex

open Arena

/-- Whether a tree has the area of another one and keeps its root as long as that is in the arena. -/
structure Tree.Stays (b : Arena) (t t' : Tree) : Prop where
  area : t'.area = t.area
  includeHidden : t'.includeHidden = t.includeHidden
  isChild : t.isChild = false → t'.isChild = false
  root : ∀ r, t.root = some r → b.contains r = true → t'.root = some r

theorem Tree.Stays.refl (b : Arena) (t : Tree) : t.Stays b t := ⟨rfl, rfl, id, fun _ hr _ => hr⟩

namespace Index

variable {x y : Index} {t t' u : Tree} {i k : Nat} {r j id top : NodeId} {e : Effect} {s c : Seat} {b : Arena}
  {names : List String} {gone : List NodeId} {parent : Option NodeId} {found : Collected} {anchor : Option Path}

/-! ## What stays -/

theorem stays_addOutcome {a : Arena} {p : Path} {made : Option NodeId} (h : Tree.AddOutcome t a p made t' b) (c : Arena) :
    t.Stays c t' := by
  cases h with
  | unchanged | below => exact .refl c t
  | root hr => exact ⟨rfl, rfl, id, fun r hs => by rw [hr] at hs; cases hs⟩

/-- Every tree stays, with its root if that is still there. -/
theorem Realizes.stays (hx : x.Sound) (hr : Realizes x e y) (ht : x.trees[k]? = some t) :
    ∃ t', y.trees[k]? = some t' ∧ t.Stays y.arena t' := by
  cases hr with
  | idle => exact ⟨t, ht, .refl _ t⟩
  | refuse _ _ h _ | rename _ _ _ _ _ _ h _ | update _ _ _ _ h _ _ => exact ⟨t, h ▸ ht, .refl _ t⟩
  | @grow i u u' _ _ _ _ hi hout _ _ h _ _ =>
    rw [h, List.getElem?_set]
    split
    · rename_i hik
      subst hik
      obtain rfl := Option.some.inj (hi.symm.trans ht)
      rw [if_pos (List.getElem?_eq_some_iff.1 hi).1]
      exact ⟨u', rfl, stays_addOutcome hout _⟩
    · exact ⟨t, ht, .refl _ t⟩
  | @cut _ id _ _ _ hid hc _ h _ _ =>
    refine ⟨_, by rw [h, List.getElem?_map, ht]; rfl, ?_⟩
    by_cases hgone : ∃ r, t.root = some r ∧ r ∈ x.arena.subtree id
    · obtain ⟨r, hroot, hin⟩ := hgone
      rw [forgetRoots_of_mem hroot hin]
      refine ⟨rfl, rfl, fun _ => rfl, fun s hs hlive => ?_⟩
      obtain rfl := Option.some.inj (hroot.symm.trans hs)
      exact absurd (hx.wellFormed.below_of_mem_subtree hin) (hc.not_below hlive)
    · rw [forgetRoots_of_not_mem fun r hroot hin => hgone ⟨r, hroot, hin⟩]
      exact .refl _ t

theorem Realizes.map_area (hr : Realizes x e y) : y.trees.map (·.area) = x.trees.map (·.area) := by
  cases hr with
  | idle => rfl
  | refuse _ _ h _ | rename _ _ _ _ _ _ h _ | update _ _ _ _ h _ _ => rw [h]
  | grow hi hout _ _ h _ _ => rw [h, map_area_set hi (addOutcome_area hout)]
  | cut _ _ _ _ h _ _ => rw [h, map_area_forgetRoots]

/-- Names lead where they led, as long as there is a node. -/
theorem Realizes.descend? (hx : x.Orderly) (hr : Realizes x e y)
    (hno : ∀ id name old replaced, e ≠ .rename id name old replaced) (hj : x.arena.descend? r names = some j)
    (hlive : y.arena.contains j = true) : y.arena.descend? r names = some j := by
  have ha := hx.sound.wellFormed
  cases hr with
  | idle => exact hj
  | refuse hal _ _ _ => rwa [descend?_congr hal.children hal.name?]
  | grow _ hout hal _ _ _ _ =>
    rw [descend?_congr hal.children hal.name?]
    cases hout with
    | unchanged => exact hj
    | root _ hg _ | below _ _ hg _ => exact (hg.toGrown.keepsChildren ha).descend? hj
  | cut _ _ hc _ _ _ _ => exact hc.descend?_rest ha hx.distinct hj (hc.not_below hlive)
  | rename => exact absurd rfl (hno _ _ _ _)
  | @update id f _ _ _ hf hal _ _ _ _ =>
    rw [descend?_congr hal.children hal.name?, descend?_congr _ (name?_modify hf.name x.arena id)]
    · exact hj
    · exact (sameLinks_modify hf.parent hf.children).children

/-- Whether whatever is left of an index has kept its seat. -/
def KeepsSeats (x y : Index) : Prop :=
  ∀ s j, x.seated? s = some j → y.arena.contains j = true → y.seated? s = some j

/-- What does not stand at or below what is cut off is left. -/
theorem Realizes.contains_spared (hr : Realizes x e y) (hno : ∀ id name old replaced, e ≠ .rename id name old replaced)
    (hj : x.arena.contains j = true) (hcut : ∀ t id, e = .cut t id → ¬x.arena.Below id j) :
    y.arena.contains j = true := by
  cases hr with
  | idle => exact hj
  | refuse hal _ _ _ => rwa [hal.contains]
  | grow _ hout hal _ _ _ _ =>
    rw [hal.contains]
    cases hout with
    | unchanged => exact hj
    | root _ hg _ | below _ _ hg _ => exact hg.toGrown.contains_old hj
  | cut _ _ hc _ _ _ _ => exact hc.contains_iff.2 ⟨hj, hcut _ _ rfl⟩
  | rename => exact absurd rfl (hno _ _ _ _)
  | update _ hf hal _ _ _ _ => rwa [hal.contains, (sameLinks_modify hf.parent hf.children).contains]

theorem Realizes.not_below_cut (hr : Realizes x (.cut t id) y) (hlive : y.arena.contains j = true) :
    ¬x.arena.Below id j := by
  cases hr with
  | cut _ _ hc _ _ _ _ => exact hc.not_below hlive

/-- What stands above a node that is left is left. -/
theorem Realizes.contains_above (hx : x.Sound) (hr : Realizes x e y)
    (hno : ∀ id name old replaced, e ≠ .rename id name old replaced) (hb : x.arena.Below r j)
    (hlive : y.arena.contains j = true) (hj : x.arena.contains j = true) : y.arena.contains r = true := by
  refine hr.contains_spared hno (hx.wellFormed.contains_of_below hb hj) fun t id he hg => ?_
  subst he
  exact hr.not_below_cut hlive (hg.trans hb)

/-- **What an edit leaves keeps its seat**, unless it gives something another name. -/
theorem Realizes.keepsSeats (hx : x.Orderly) (hr : Realizes x e y)
    (hno : ∀ id name old replaced, e ≠ .rename id name old replaced) : x.KeepsSeats y := by
  intro s j hs hlive
  obtain ⟨r, htop, hj⟩ := Option.bind_eq_some_iff.1 hs
  obtain ⟨t, ht, hc, hroot⟩ := top?_eq_some.1 htop
  obtain ⟨t', ht', hstays⟩ := hr.stays hx.sound ht
  have hrlive := hr.contains_above hx.sound hno (hx.sound.wellFormed.below_of_descend? hj) hlive (hx.sound.contains_seated hs)
  rw [seated?, top?_eq_some.2 ⟨t', ht', hstays.isChild hc, hstays.root r hroot hrlive⟩]
  exact hr.descend? hx hno hj hlive

/-- What has a seat and was there before had the same. -/
theorem KeepsSeats.seated?_old (h : x.KeepsSeats y) (hx : x.Orderly) (hy : y.Sound) (hj : y.seated? s = some j)
    (hold : x.arena.contains j = true) : x.seated? s = some j := by
  obtain ⟨u, hu⟩ := hx.exists_seat hold
  rwa [← hy.seat_unique hj (h u j hu (hy.contains_seated hj))] at hu

/-! ## Charts behind edits -/

theorem seated?_of_links (ht : y.trees = x.trees) (hc : ∀ j, y.arena.children j = x.arena.children j)
    (hn : ∀ j, y.arena.name? j = x.arena.name? j) (s : Seat) : y.seated? s = x.seated? s := by
  rw [seated?, seated?, top?, top?, ht]
  congr 1
  funext r
  exact descend?_congr hc hn r s.names

/-- What is known of an index does not depend on the paths that its nodes know. -/
theorem chart_alike (hal : Alike x.arena y.arena) (ht : y.trees = x.trees) : y.chart = x.chart := by
  funext s
  rw [chart, chart, seated?_of_links ht hal.children hal.name?]
  congr 1
  funext j
  exact hal.facts? j

/-- A cut empties the seats of what is cut off. -/
theorem chart_cut (hx : x.Orderly) (hy : y.Sound) (hk : x.KeepsSeats y) (hc : x.seated? c = some id)
    (hcut : Cut x.arena y.arena id) (s : Seat) :
    y.chart s = if s.tree = c.tree ∧ c.names <+: s.names then none else x.chart s := by
  have hold : ∀ j, y.seated? s = some j → x.seated? s = some j ∧ ¬x.arena.Below id j := fun j hj =>
    have hlive := hcut.contains_iff.1 (hy.contains_seated hj)
    ⟨hk.seated?_old hx hy hj hlive.1, hlive.2⟩
  split
  · rename_i hbehind
    refine chart_of_empty (Option.eq_none_iff_forall_not_mem.2 fun j hj => ?_)
    obtain ⟨hj, hn⟩ := hold j hj
    exact hn ((hx.below_iff hc hj).2 hbehind)
  · rename_i hapart
    cases hj : x.seated? s with
    | none =>
      rw [chart_of_empty hj]
      refine chart_of_empty (Option.eq_none_iff_forall_not_mem.2 fun j hjy => ?_)
      rw [(hold j hjy).1] at hj
      cases hj
    | some j =>
      have hn : ¬x.arena.Below id j := fun hb => hapart ((hx.below_iff hc hj).1 hb)
      have hlive := hcut.contains_iff.2 ⟨hx.sound.contains_seated hj, hn⟩
      rw [chart_of_seated? hj, chart_of_seated? (hk s j hj hlive), hcut.facts?_rest hn]

/-- A change in place shows at the seat of what is changed. -/
theorem chart_update {f : Node → Node} {g : Facts → Facts} (hx : x.Sound) (hf : InPlace f)
    (hg : ∀ n, (f n).facts = g n.facts) (hc : x.seated? c = some id) (hal : Alike (x.arena.modify id f) y.arena)
    (ht : y.trees = x.trees) (s : Seat) : y.chart s = if s = c then (x.chart s).map g else x.chart s := by
  have hseat : y.seated? s = x.seated? s := by
    refine seated?_of_links ht (fun j => ?_) (fun j => ?_) s
    · rw [hal.children, (sameLinks_modify hf.parent hf.children).children]
    · rw [hal.name?, name?_modify hf.name x.arena id]
  rw [chart, chart, hseat]
  cases hj : x.seated? s with
  | none => simp
  | some j =>
    have hne : s = c ↔ j = id := by
      constructor
      · rintro rfl
        exact Option.some.inj (hj.symm.trans hc)
      · rintro rfl
        exact hx.seat_unique hj hc
    rw [Option.bind_some, Option.bind_some, hal.facts?, facts?_modify hg]
    simp only [hne]

/-- Growth fills the seats of what was made. -/
theorem chart_grown (hx : x.Orderly) (hy : y.Orderly) (hk : x.KeepsSeats y)
    (hg : Grafted x.arena b parent top found anchor) (hal : Alike b y.arena) (hc : y.seated? c = some top) (s : Seat) :
    y.chart s = if s.tree = c.tree ∧ c.names <+: s.names then
      (found.at? (s.names.drop c.names.length)).map (·.facts (if s = c then anchor else none)) else x.chart s := by
  split
  · rename_i hbehind
    obtain ⟨k, names⟩ := s
    obtain ⟨rfl, more, rfl⟩ := hbehind
    have hseat : y.seated? ⟨c.tree, c.names ++ more⟩ = b.descend? top more := by
      rw [seated?_append, show y.seated? ⟨c.tree, c.names⟩ = some top from hc, Option.bind_some,
        descend?_congr hal.children hal.name?]
    rw [List.drop_left]
    rcases eq_or_exists_of_rel (hg.shows.descend?_rel more) with ⟨hf, hj⟩ | ⟨f, j, hf, hj, hshows⟩
    · rw [hf, chart_of_empty (hseat.trans hj)]
      rfl
    · have htop : j = top ↔ (⟨c.tree, c.names ++ more⟩ : Seat) = c := by
        constructor
        · rintro rfl
          exact hy.sound.seat_unique (hseat.trans hj) hc
        · intro he
          rw [he, hc, hj] at hseat
          exact (Option.some.inj hseat).symm
      obtain ⟨name, metadata, children⟩ := f
      obtain ⟨n, hn, rfl, rfl, -⟩ := hshows
      obtain ⟨hflags, hanchor⟩ := hg.marked j n (hg.wellFormed.below_of_descend? hj) hn
      rw [hf, chart_of_seated? (hseat.trans hj), hal.facts?, facts?, hn, Option.map_some, Option.map_some, Node.facts,
        hflags, hanchor]
      simp only [htop]
      rfl
  · rename_i hapart
    have hold : ∀ j, y.seated? s = some j → x.arena.contains j = true := fun j hj => by
      have hlive := hy.sound.contains_seated hj
      rw [hal.contains] at hlive
      refine ((hg.contains_iff j).1 hlive).resolve_right fun hb => hapart ?_
      rw [← hal.sameLinks.below] at hb
      exact (hy.below_iff hc hj).1 hb
    cases hj : x.seated? s with
    | none =>
      rw [chart_of_empty hj]
      refine chart_of_empty (Option.eq_none_iff_forall_not_mem.2 fun j hjy => ?_)
      rw [hk.seated?_old hx hy.sound hjy (hold j hjy)] at hj
      cases hj
    | some j =>
      have hlive := hx.sound.contains_seated hj
      rw [chart_of_seated? hj, chart_of_seated? (hk s j hj (by rw [hal.contains]; exact hg.contains_old hlive)), hal.facts?,
        hg.facts?_old hlive]

/-! ## The seat of an area -/

/-- Where the area of a tree has its seat: at the root, or on its own if there is none. -/
inductive Based (x : Index) (i : Nat) : Seat → Prop
  | empty {t : Tree} : x.trees[i]? = some t → t.root = none → Based x i ⟨i, []⟩
  | root {t : Tree} {r : NodeId} {s : Seat} : x.trees[i]? = some t → t.root = some r → x.seated? s = some r → Based x i s

theorem Based.seated?_eq (h : x.Based i s) (ht : x.trees[i]? = some t) (hr : t.root = some r) : x.seated? s = some r := by
  cases h with
  | empty ht' hr' =>
    obtain rfl := Option.some.inj (ht.symm.trans ht')
    rw [hr] at hr'
    cases hr'
  | root ht' hr' hs =>
    obtain rfl := Option.some.inj (ht.symm.trans ht')
    rwa [Option.some.inj (hr.symm.trans hr')]

theorem Based.eq_of_empty (h : x.Based i s) (ht : x.trees[i]? = some t) (hr : t.root = none) : s = ⟨i, []⟩ := by
  cases h with
  | empty => rfl
  | root ht' hr' hs =>
    obtain rfl := Option.some.inj (ht.symm.trans ht')
    rw [hr] at hr'
    cases hr'

theorem seated?_of_empty (ht : x.trees[i]? = some t) (hr : t.root = none) (names : List String) :
    x.seated? ⟨i, names⟩ = none := by
  have htop : x.top? i = none := by
    rw [top?, ht, Option.bind_some, hr]
    split <;> rfl
  rw [seated?, htop, Option.bind_none]

/-- A path has its seat behind that of its area. -/
theorem Based.located?_eq {p : Path} (h : x.Based i ⟨k, names⟩) (ht : x.trees[i]? = some t) {more : List String}
    (hp : t.names? p = some more) : t.located? x.arena p = x.seated? ⟨k, names ++ more⟩ := by
  rw [Tree.located?, hp]
  cases hr : t.root with
  | none =>
    obtain ⟨rfl, rfl⟩ := Seat.mk.inj (h.eq_of_empty ht hr)
    rw [seated?_of_empty ht hr]
    rfl
  | some r =>
    rw [seated?_append, h.seated?_eq ht hr]
    rfl

/-- The seat of an area stays, unless its root goes. -/
theorem Realizes.based (hx : x.Orderly) (hr : Realizes x e y)
    (hno : ∀ id name old replaced, e ≠ .rename id name old replaced) (h : x.Based i s)
    (hlive : ∀ t r, x.trees[i]? = some t → t.root = some r → y.arena.contains r = true) : y.Based i s := by
  cases h with
  | empty ht hroot =>
    obtain ⟨t', ht', hstays⟩ := hr.stays hx.sound ht
    cases hroot' : t'.root with
    | none => exact .empty ht' hroot'
    | some r =>
      have hchild := hstays.isChild (hx.sound.forest.isChild_eq_false (List.mem_of_getElem? ht) hroot)
      exact .root ht' hroot' (by rw [seated?, top?_eq_some.2 ⟨_, ht', hchild, hroot'⟩]; rfl)
  | root ht hroot hs =>
    obtain ⟨t', ht', hstays⟩ := hr.stays hx.sound ht
    have hrlive := hlive _ _ ht hroot
    exact .root ht' (hstays.root _ hroot hrlive) (hr.keepsSeats hx hno _ _ hs hrlive)

end Index

end FileIndex
