/-
The number of entries, told by what is at the seats. Every node counts but a directory at the root of a tree that stands
below no other (`counted`). Requests adjust the number by the seats that come to count and those that no longer do
(`Orderly.reckons_request`), but for one that reads a node again, which adjusts nothing.
-/
import FileIndex.Proofs.Index.Reworking
import FileIndex.Proofs.Index.Restoring
import Mathlib.Data.Set.Card

namespace FileIndex

open Arena

/-- The seats of the nodes that count. -/
def counted (c : Seat → Option Facts) : Set Seat :=
  {s | ∃ v, c s = some v ∧ (s.names = [] → v.metadata.isDirectory = false)}

theorem mem_counted_congr {f g : Seat → Option Facts} {s : Seat} (h : g s = f s) : s ∈ counted g ↔ s ∈ counted f := by
  simp only [counted, Set.mem_ofPred_eq, h]

/-- Where two charts differ by what is at and behind a seat that is empty in one of them. -/
theorem counted_sdiff {f g : Seat → Option Facts} {c : Seat}
    (h : ∀ s : Seat, g s = if s.tree = c.tree ∧ c.names <+: s.names then none else f s) :
    counted f \ counted g = {s ∈ counted f | s.tree = c.tree ∧ c.names <+: s.names} ∧ counted g \ counted f = ∅ := by
  have hempty : ∀ s : Seat, s.tree = c.tree ∧ c.names <+: s.names → s ∉ counted g := by
    rintro s hs ⟨v, hv, -⟩
    rw [h, if_pos hs] at hv
    cases hv
  have hsame : ∀ s : Seat, ¬(s.tree = c.tree ∧ c.names <+: s.names) → (s ∈ counted g ↔ s ∈ counted f) := fun s hs =>
    mem_counted_congr (by rw [h, if_neg hs])
  constructor
  · ext s
    refine and_congr_right fun hs => ⟨fun hn => ?_, hempty s⟩
    by_contra hapart
    exact hn ((hsame s hapart).2 hs)
  · exact Set.sdiff_eq_empty.2 fun s hs => (hsame s fun hbehind => hempty s hbehind hs).1 hs

namespace Index

variable {x x₁ x₂ y z : Index} {t : Tree} {d : Disk} {i k : Nat} {base names : List String} {e : Request} {c : Seat}
  {l : List NodeId} {S : Set Seat} {id : NodeId} {bare : Bool}

/-! ## Seats in numbers -/

/-- Nodes are as many as their seats. -/
theorem Orderly.ncard_seats (hx : x.Orderly) (hn : l.Nodup) (hl : ∀ j ∈ l, x.arena.contains j = true)
    (hS : ∀ s, s ∈ S ↔ ∃ j ∈ l, x.seated? s = some j) : S.ncard = l.length := by
  obtain ⟨seats, hseats, hnodup, hmem⟩ := hx.exists_seats hn hl
  have hset : S = (seats.toFinset : Set Seat) := by
    ext s
    rw [hS, List.coe_toFinset, Set.mem_ofPred_eq, hmem]
  have hlength := congrArg List.length hseats
  rw [List.length_map, List.length_map] at hlength
  rw [hset, Set.ncard_coe_finset, List.toFinset_card_of_nodup hnodup, hlength]

theorem Orderly.finite_counted (hx : x.Orderly) : (counted x.chart).Finite := by
  have hinj : Function.Injective NodeId.mk := fun _ _ h => congrArg NodeId.index h
  obtain ⟨seats, -, -, hmem⟩ := hx.exists_seats
    (l := ((List.range x.arena.slots.size).map NodeId.mk).filter (x.arena.contains ·))
    ((List.nodup_range.map hinj).filter _) fun j hj => (List.mem_filter.1 hj).2
  refine seats.finite_toSet.subset fun s ⟨v, hv, _⟩ => ?_
  obtain ⟨j, hj, -⟩ := Option.bind_eq_some_iff.1 hv
  have hlive := hx.sound.contains_seated hj
  refine (hmem s).2 ⟨j, List.mem_filter.2 ⟨?_, hlive⟩, hj⟩
  exact List.mem_map.2 ⟨j.index, List.mem_range.2 (index_lt_of_contains hlive), rfl⟩

/-- At and behind a seat all nodes count, but for the node at the seat if it is a bare root. -/
theorem Orderly.ncard_behind (hx : x.Orderly) (hc : x.seated? c = some id)
    (hbare : bare = true ↔ c.names = [] ∧ x.arena.isDirectory id = true) :
    {s ∈ counted x.chart | s.tree = c.tree ∧ c.names <+: s.names}.ncard =
      (x.arena.subtree id).length - if bare then 1 else 0 := by
  have ha := hx.sound.wellFormed
  have hid := hx.sound.contains_seated hc
  have hdir : ∀ {v}, x.chart c = some v → x.arena.isDirectory id = v.metadata.isDirectory := fun hv =>
    facts?_isDirectory (by rw [← chart_of_seated? hc]; exact hv)
  have hmem : ∀ j, j ∈ (if bare then (x.arena.subtree id).tail else x.arena.subtree id) ↔
      x.arena.Below id j ∧ (bare = true → j ≠ id) := by
    intro j
    cases bare with
    | true => simpa using Tree.mem_tail_subtree ha hid
    | false => simpa using ha.mem_subtree hid
  rw [hx.ncard_seats (l := if bare then (x.arena.subtree id).tail else x.arena.subtree id)]
  · cases bare <;> simp
  · split
    · exact (ha.nodup_subtree id).tail
    · exact ha.nodup_subtree id
  · exact fun j hj => ((hmem j).1 hj).1.contains hid
  · intro s
    constructor
    · rintro ⟨⟨v, hv, hcount⟩, hbehind⟩
      obtain ⟨j, hj, -⟩ := Option.bind_eq_some_iff.1 hv
      refine ⟨j, (hmem j).2 ⟨(hx.below_iff hc hj).2 hbehind, ?_⟩, hj⟩
      rintro hb rfl
      obtain rfl := hx.sound.seat_unique hj hc
      have hfalse := hcount (hbare.1 hb).1
      rw [← hdir hv, (hbare.1 hb).2] at hfalse
      cases hfalse
    · rintro ⟨j, hj, hs⟩
      obtain ⟨hb, hne⟩ := (hmem j).1 hj
      have hbehind := (hx.below_iff hc hs).1 hb
      obtain ⟨v, hv⟩ := Option.isSome_iff_exists.1 (hx.sound.chart_isSome hs)
      refine ⟨⟨v, hv, fun hnil => ?_⟩, hbehind⟩
      -- At the root of its tree there is only the node at the seat itself.
      have hcn : c.names = [] := List.prefix_nil.1 (hnil ▸ hbehind.2)
      have hsc : s = c := by
        obtain ⟨k, names⟩ := s
        obtain ⟨k', names'⟩ := c
        simp only at hnil hcn hbehind
        rw [hnil, hcn, hbehind.1]
      subst hsc
      obtain rfl := Option.some.inj (hs.symm.trans hc)
      rw [← hdir hv, Bool.eq_false_iff]
      exact fun hd => hne (hbare.2 ⟨hnil, hd⟩) rfl

/-! ## What is adjusted -/

/-- Whether the number of entries was adjusted by the seats that have come to count and those that no longer do. -/
def Reckons (x y : Index) : Prop :=
  y.size = x.size + (counted y.chart \ counted x.chart).ncard - (counted x.chart \ counted y.chart).ncard

theorem reckons_of_eq (hc : counted y.chart = counted x.chart) (hs : y.size = x.size) : x.Reckons y := by
  rw [Reckons, hc, hs, Set.sdiff_self, Set.ncard_empty, Nat.add_zero, Nat.sub_zero]

/-- A number that was right stays right. -/
theorem Reckons.size_eq (h : x.Reckons y) (hx : x.Orderly) (hy : y.Orderly) (hs : x.size = (counted x.chart).ncard) :
    y.size = (counted y.chart).ncard := by
  have hfx := hx.finite_counted
  have hfy := hy.finite_counted
  have hxy := Set.ncard_inter_add_ncard_sdiff_eq_ncard (counted x.chart) (counted y.chart) hfx
  have hyx := Set.ncard_inter_add_ncard_sdiff_eq_ncard (counted y.chart) (counted x.chart) hfy
  rw [Set.inter_comm] at hyx
  unfold Reckons at h
  omega

theorem Realizes.reckons_of_told {e : Effect} (hr : Realizes x e y) (htold : x.told e = (0, 0))
    (hc : counted y.chart = counted x.chart) : x.Reckons y :=
  reckons_of_eq hc (by rw [hr.size, htold]; rfl)

/-- What was made is counted. -/
theorem Grafts.reckons {t' : Tree} {b : Arena} {top : NodeId} {front : List String} {made : List String → Option Facts}
    (h : Grafts x y t' b top k base front made) (hx : x.Orderly) (hy : y.Orderly)
    (hr : Realizes x (.grow i t' b (some top)) y) : x.Reckons y := by
  obtain ⟨-, -, -, -, hal, -⟩ := hr.grown
  have hchart := h.chart_eq hx hy (hr.keepsSeats hx (by simp)) hal
  obtain ⟨hnew, hgone⟩ := counted_sdiff (f := y.chart) (g := x.chart) (c := ⟨k, base ++ front⟩) fun s => by
    split
    · rename_i hbehind
      obtain ⟨l, all⟩ := s
      obtain ⟨rfl : l = k, more, rfl : base ++ front ++ more = all⟩ := hbehind
      exact chart_behind_empty h.empty more
    · rename_i hapart
      rw [hchart, if_neg hapart]
  have hbare : isBare b t' top = true ↔ base ++ front = [] ∧ y.arena.isDirectory top = true := by
    rw [h.root, isDirectory_of_core (hal.core top)]
    simp [isBare, isDirectory, and_assoc]
  have hlength : 0 < (y.arena.subtree top).length :=
    List.length_pos_of_mem (hy.sound.wellFormed.self_mem_subtree (hy.sound.contains_seated h.seated))
  have hncard := hy.ncard_behind h.seated hbare
  simp only at hncard
  rw [Reckons, hnew, hgone, Set.ncard_empty, Nat.sub_zero, hncard, hr.size, told, hal.sameLinks.subtree]
  rw [hal.sameLinks.subtree] at hlength
  dsimp only
  split <;> omega

/-- What is cut off is no longer counted. -/
theorem Orderly.reckons_cut (hx : x.Orderly) (hy : y.Orderly) (hc : x.seated? c = some id)
    (hroot : c.names = [] ↔ t.root = some id ∧ t.isChild = false) (hr : Realizes x (.cut t id) y) : x.Reckons y := by
  have hkeep := hr.keepsSeats hx (by simp)
  have hcut : Cut x.arena y.arena id := by
    cases hr with
    | cut _ _ hcut _ _ _ _ => exact hcut
  obtain ⟨hlost, hnew⟩ := counted_sdiff (chart_cut hx hy.sound hkeep hc hcut)
  have hbare : isBare x.arena t id = true ↔ c.names = [] ∧ x.arena.isDirectory id = true := by
    rw [hroot]
    simp [isBare, isDirectory, and_assoc]
  have hlength : 0 < (x.arena.subtree id).length :=
    List.length_pos_of_mem (hx.sound.wellFormed.self_mem_subtree (hx.sound.contains_seated hc))
  rw [Reckons, hlost, hnew, Set.ncard_empty, Nat.add_zero, hx.ncard_behind hc hbare, hr.size, told]
  dsimp only
  split <;> omega

section

variable {p : Path} {on : Bool} (hx : x.Orderly) (hy : y.Orderly) (ho : x.owner? none p = some (i, t))
  (hb : x.Based i ⟨k, base⟩) (hp : t.names? p = some names)
include hx hy ho hb hp

theorem Orderly.reckons_addEffect (hr : Realizes x (x.addEffect d none p) y) : x.Reckons y := by
  have ht := get_of_owner? ho
  rcases hx.sound.cases_addEffect ho hp hr with ⟨-, hr⟩ | ⟨metadata, made, t', b, -, -, hadds, hr⟩
  · exact hr.reckons_of_told rfl (by rw [hr.chart_grow_idle ht])
  · cases made with
    | none =>
      cases hadds with
      | present => exact hr.reckons_of_told rfl (by rw [hr.chart_grow_idle ht])
    | some top =>
      obtain ⟨front, -, hgrafts⟩ := hx.exists_grafts ht hb (Tree.names?_eq_some.1 hp) hadds hr
      exact hgrafts.reckons hx hy hr

theorem Orderly.reckons_removeEffect (hr : Realizes x (x.removeEffect none p) y) : x.Reckons y := by
  have ht := get_of_owner? ho
  have hl := hb.located?_eq ht hp
  simp only [removeEffect, ho, hl] at hr
  cases hs : x.seated? ⟨k, base ++ names⟩ with
  | none =>
    rw [hs] at hr
    cases hr
    exact reckons_of_eq rfl rfl
  | some id =>
    rw [hs] at hr hl
    refine hx.reckons_cut hy hs ?_ hr
    constructor
    · intro hnil
      obtain ⟨rfl, rfl⟩ := List.append_eq_nil_iff.1 hnil
      obtain ⟨r, more, hroot, hmore, hid⟩ := Tree.located?_eq_some.1 hl
      obtain rfl := Option.some.inj (hp.symm.trans hmore)
      obtain rfl := Option.some.inj hid
      obtain ⟨top, htop, htid⟩ := Option.bind_eq_some_iff.1 hs
      obtain rfl := Option.some.inj htid
      refine ⟨hroot, Bool.eq_false_iff.2 fun hchild => ?_⟩
      obtain ⟨s, q, hs, hq⟩ := (hx.sound.forest.child_iff t (List.mem_of_getElem? ht)).1 hchild
      obtain rfl := Option.some.inj (hroot.symm.trans hs)
      rw [hx.sound.parent?_top htop] at hq
      cases hq
    · rintro ⟨hroot, hchild⟩
      have hseat : x.seated? ⟨i, []⟩ = some id := by
        rw [seated?, top?_eq_some.2 ⟨t, ht, hchild, hroot⟩]
        rfl
      exact congrArg Seat.names (hx.sound.seat_unique hs hseat)

omit hy in
theorem Orderly.reckons_pinEffect (hr : Realizes x (x.pinEffect p on) y) : x.Reckons y := by
  have hleads := hx.leads_pinEffect ho hb hp hr
  refine hr.reckons_of_told ?_ ?_
  · exact pinEffect_of (P := fun e => x.told e = (0, 0)) rfl fun _ _ => rfl
  · ext s
    by_cases hs : s = ⟨k, base ++ names⟩
    · have hat := hleads.behind []
      rw [List.append_nil] at hat
      subst hs
      simp only [counted, Set.mem_ofPred_eq, hat, Rework.change, if_true, List.append_nil]
      cases x.chart ⟨k, base ++ names⟩ <;> simp
    · exact mem_counted_congr (hleads.eq_of_ne hs)

end

/-- Whatever a request does but to read a node again, it counts. -/
theorem Orderly.reckons_request (hx : x.Orderly) (hy : y.Orderly) (ho : x.owner? none e.path = some (i, t))
    (hb : x.Based i ⟨k, base⟩) (hp : t.names? e.path = some names) (hr : Realizes x (e.edit.effect x d) y)
    (hno : ∀ p, e ≠ .refresh p) : x.Reckons y := by
  cases e with
  | add => exact hx.reckons_addEffect hy ho hb hp hr
  | remove => exact hx.reckons_removeEffect hy ho hb hp hr
  | refresh p => exact absurd rfl (hno p)
  | pin => exact hx.reckons_pinEffect ho hb hp hr

/-- To read a node again adjusts nothing. -/
theorem Realizes.size_refresh {root : Option Path} {p : Path} (hr : Realizes x (x.refreshEffect d root p) y) :
    y.size = x.size := by
  have htold : x.told (x.refreshEffect d root p) = (0, 0) :=
    refreshEffect_of (P := fun e => x.told e = (0, 0)) rfl fun _ _ => rfl
  rw [hr.size, htold]
  rfl

/-- Behind a collect the number of entries is right: only directories have anything below them. -/
theorem Pristine.size_eq (hx : Pristine d x) : x.size = (counted x.chart).ncard := by
  have hs := hx.orderly.sound
  rw [hx.tallied.size]
  refine (hx.orderly.ncard_seats hs.nodup_entryIds (fun j hj => (hs.mem_entryIds.1 hj).live) fun s => ?_).symm
  constructor
  · rintro ⟨v, hv, hcount⟩
    obtain ⟨j, hj, -⟩ := Option.bind_eq_some_iff.1 hv
    refine ⟨j, hs.mem_entryIds.2 ((hs.searchable_iff_listed hj).2 ⟨hs.chart_isSome hj, ?_⟩), hj⟩
    obtain ⟨top, htop⟩ := Option.isSome_iff_exists.1 (seated?_isSome_front
      (Option.isSome_iff_exists.2 ⟨j, hj⟩) List.nil_prefix)
    obtain ⟨u, hu⟩ := Option.isSome_iff_exists.1 (hs.chart_isSome htop)
    refine ⟨u, hu, ?_⟩
    by_cases hnil : s.names = []
    · have huv : u = v := Option.some.inj (hu.symm.trans (by rw [← hnil]; exact hv))
      rw [huv, hcount hnil]
      simp [hnil]
    · refine iff_of_true ?_ hnil
      rw [← facts?_isDirectory (by rw [← chart_of_seated? htop]; exact hu)]
      have hb := (hx.orderly.below_iff htop hj).2 ⟨rfl, List.nil_prefix⟩
      obtain ⟨q, hq, -⟩ := hb.cases_head.resolve_left fun he => hnil (by
        rw [he] at htop
        exact congrArg Seat.names (hs.seat_unique hj htop))
      exact hx.directory q top hq
  · rintro ⟨j, hj, he⟩
    have hl := (hs.searchable_iff_listed he).1 (hs.mem_entryIds.1 hj)
    obtain ⟨v, hv⟩ := Option.isSome_iff_exists.1 hl.known
    refine ⟨v, hv, fun hnil => ?_⟩
    obtain ⟨top, htop, hiff⟩ := hl.top
    obtain rfl : v = top := Option.some.inj (hv.symm.trans (by rw [← htop, ← hnil]))
    simpa [hnil] using hiff

/-! ## Numbers behind two requests -/

end Index

end FileIndex
