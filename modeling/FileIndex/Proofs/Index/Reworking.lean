/-
What a request for a path does to a chart (`Request.leads`). Along the seat of the path something may be made where
nothing is; what is at and behind the seat becomes something else; all other seats stay. Two such changes at seats that
lie apart come to the same in either order, if they make the same where both make something (`Rework.leads_comm`).
-/
import FileIndex.Proofs.Index.Seating

namespace FileIndex

open Arena

/-! ## Seats apart -/

namespace Seat

variable {c e s : Seat} {names more : List String}

/-- Whether neither of two seats lies behind the other. -/
def Apart (c s : Seat) : Prop := s.tree = c.tree → ¬s.names <+: c.names ∧ ¬c.names <+: s.names

theorem Apart.symm (h : c.Apart s) : s.Apart c := fun he => (h he.symm).symm

/-- What lies behind a seat is apart from what the seat is apart from. -/
theorem Apart.behind (h : c.Apart e) (more : List String) : e.Apart ⟨c.tree, c.names ++ more⟩ := fun he =>
  have hn := h (he ▸ rfl)
  ⟨fun hp => hn.2 ((List.prefix_append c.names more).trans hp),
    fun hp => (List.prefix_or_prefix_of_prefix hp (List.prefix_append c.names more)).elim hn.1 hn.2⟩

/-- A seat lies at or behind another one, above it, or apart from it. -/
theorem cases_of (c s : Seat) : (∃ more, s = ⟨c.tree, c.names ++ more⟩) ∨
    (∃ front, s = ⟨c.tree, front⟩ ∧ front <+: c.names ∧ front ≠ c.names) ∨ c.Apart s := by
  obtain ⟨k, names⟩ := s
  by_cases htree : k = c.tree
  · subst htree
    by_cases hbehind : c.names <+: names
    · obtain ⟨more, rfl⟩ := hbehind
      exact .inl ⟨more, rfl⟩
    · by_cases habove : names <+: c.names
      · refine .inr (.inl ⟨names, rfl, habove, ?_⟩)
        rintro rfl
        exact hbehind List.prefix_rfl
      · exact .inr (.inr fun _ => ⟨habove, hbehind⟩)
  · exact .inr (.inr fun he => absurd he htree)

end Seat

/-! ## Changes at a seat -/

/-- A change at a seat: what is made above it where nothing is, and what becomes of what is at and behind it. -/
structure Rework where
  fill : List String → Option Facts
  graft : (List String → Option Facts) → List String → Option Facts

namespace Rework

variable {w v : Rework} {c e : Seat} {f f₁ f₂ g h : Seat → Option Facts}

/-- Whether a chart comes from another by a change at a seat. -/
structure Leads (w : Rework) (c : Seat) (f g : Seat → Option Facts) : Prop where
  above : ∀ front, front <+: c.names → front ≠ c.names → g ⟨c.tree, front⟩ = (f ⟨c.tree, front⟩).or (w.fill front)
  behind : ∀ more, g ⟨c.tree, c.names ++ more⟩ = w.graft (fun more => f ⟨c.tree, c.names ++ more⟩) more
  apart : ∀ s, c.Apart s → g s = f s

/-- Nothing changes. -/
def idle : Rework where
  fill _ := none
  graft old := old

/-- What is at and behind the seat goes. -/
def clear : Rework where
  fill _ := none
  graft _ _ := none

/-- What is known at the seat changes. -/
def change (g : Facts → Facts) : Rework where
  fill _ := none
  graft old more := if more = [] then (old []).map g else old more

theorem leads_idle : idle.Leads c f f where
  above _ _ _ := by rw [idle, Option.or_none]
  behind _ := rfl
  apart _ _ := rfl

theorem leads_clear (h : ∀ s : Seat, g s = if s.tree = c.tree ∧ c.names <+: s.names then none else f s) :
    clear.Leads c f g where
  above front hfront hne := by
    rw [h, if_neg fun hp => hne (hfront.eq_of_length_le hp.2.length_le), clear, Option.or_none]
  behind more := by rw [h, if_pos ⟨rfl, List.prefix_append _ _⟩]; rfl
  apart s hs := by rw [h, if_neg fun hp => (hs hp.1).2 hp.2]

theorem leads_change {k : Facts → Facts} (h : ∀ s : Seat, g s = if s = c then (f s).map k else f s) :
    (change k).Leads c f g where
  above front _ hne := by
    rw [h, if_neg fun hs => hne (congrArg Seat.names hs), change, Option.or_none]
  behind more := by
    have hs : (⟨c.tree, c.names ++ more⟩ : Seat) = c ↔ more = [] := by
      constructor
      · intro he
        simpa using congrArg Seat.names he
      · rintro rfl
        rw [List.append_nil]
    rw [h, change]
    simp only [hs]
    split
    · rename_i hnil
      rw [hnil]
    · rfl
  apart s hs := by
    rw [h, if_neg]
    rintro rfl
    exact (hs rfl).1 List.prefix_rfl

/-- A change of what is known at a seat shows nowhere else. -/
theorem Leads.eq_of_ne {k : Facts → Facts} (h : (change k).Leads c f g) {s : Seat} (hs : s ≠ c) : g s = f s := by
  rcases Seat.cases_of c s with ⟨more, rfl⟩ | ⟨front, rfl, hfront, hne⟩ | hapart
  · have hmore : more ≠ [] := by
      rintro rfl
      exact hs (by rw [List.append_nil])
    rw [h.behind]
    exact if_neg hmore
  · rw [h.above front hfront hne]
    exact Option.or_none
  · exact h.apart s hapart

/-- Where there is nothing at a seat nor behind it, there is nothing to clear. -/
theorem leads_clear_empty (h : ∀ more, f ⟨c.tree, c.names ++ more⟩ = none) : clear.Leads c f f where
  above _ _ _ := by rw [clear, Option.or_none]
  behind more := h more
  apart _ _ := rfl

theorem leads_change_empty {k : Facts → Facts} (h : f c = none) : (change k).Leads c f f := by
  refine leads_change fun s => ?_
  split
  · rename_i hs
    rw [hs, h]
    rfl
  · rfl

/-- Along names behind a base something is made where nothing is, and behind them if there is nothing at the seat. -/
def grow (made : List String → Option Facts) (base names : List String) : Rework where
  fill front := made (front.drop base.length)
  graft old more := if (old []).isSome then old more else made (names ++ more)

variable {made : List String → Option Facts} {base front names : List String} {k : Nat}

/-- Where there is something at the seat, there is something above it as well. -/
theorem leads_grow_present (h : ∀ front, front <+: base ++ names → (f ⟨k, front⟩).isSome = true) :
    (grow made base names).Leads ⟨k, base ++ names⟩ f f where
  above front hfront _ := by
    obtain ⟨v, hv⟩ := Option.isSome_iff_exists.1 (h front hfront)
    rw [hv, Option.some_or]
  behind more := by
    have hseat : ((fun more => f ⟨k, base ++ names ++ more⟩) []).isSome = true := by
      simpa using h _ List.prefix_rfl
    simp only [grow]
    rw [if_pos hseat]
  apart _ _ := rfl

/-- Where nothing is from some name on, everything is made from there on. -/
theorem leads_grow (h : ∀ s : Seat, g s =
      if s.tree = k ∧ base ++ front <+: s.names then made (s.names.drop base.length) else f s)
    (hempty : ∀ more, f ⟨k, base ++ front ++ more⟩ = none)
    (hfull : ∀ above, above <+: base ++ front → above ≠ base ++ front → (f ⟨k, above⟩).isSome = true)
    (hnames : front <+: names) (hmade : ∀ way, ¬way <+: names → ¬names <+: way → made way = none) :
    (grow made base names).Leads ⟨k, base ++ names⟩ f g := by
  have hwhole : base ++ front <+: base ++ names := (List.prefix_append_right_inj base).2 hnames
  constructor
  · intro above habove _
    rw [h]
    split
    · rename_i hp
      obtain ⟨more, rfl⟩ := hp.2
      rw [hempty, Option.none_or, grow]
    · rename_i hp
      have hfront : above <+: base ++ front :=
        (List.prefix_or_prefix_of_prefix habove hwhole).resolve_right fun hb => hp ⟨rfl, hb⟩
      have hne : above ≠ base ++ front := by
        rintro rfl
        exact hp ⟨rfl, List.prefix_rfl⟩
      obtain ⟨v, hv⟩ := Option.isSome_iff_exists.1 (hfull above hfront hne)
      rw [hv, Option.some_or]
  · intro more
    obtain ⟨rest, rfl⟩ := hnames
    have hseat : ¬((fun more => f ⟨k, base ++ (front ++ rest) ++ more⟩) []).isSome = true := by
      have hnone := hempty rest
      rw [List.append_assoc] at hnone
      simp [hnone]
    simp only [grow]
    rw [h, if_pos ⟨rfl, hwhole.trans (List.prefix_append _ _)⟩, if_neg hseat, List.append_assoc, List.drop_left]
  · intro s hs
    rw [h]
    split
    · rename_i hp
      obtain ⟨l, all⟩ := s
      obtain ⟨rfl, more, rfl⟩ := hp
      have hapart := hs rfl
      simp only [List.append_assoc, List.prefix_append_right_inj] at hapart
      rw [hempty, List.append_assoc, List.drop_left]
      exact hmade _ hapart.1 hapart.2
    · rfl

end Rework

/-! ## Requests -/

/-- A request for one path, without a root that is asked for. -/
inductive Request where
  | add (p : Path)
  | remove (p : Path)
  | refresh (p : Path)
  | pin (p : Path) (on : Bool)
deriving DecidableEq, Repr

namespace Request

/-- The path that a request is for. -/
def path : Request → Path
  | add p | remove p | refresh p | pin p _ => p

/-- What a request does on a disk. -/
def work (d : Disk) : Request → IndexM (Option Snapshot)
  | add p => Index.addPath d none p
  | remove p => Index.removePath none p
  | refresh p => Index.refreshPath d none p
  | pin p on => Index.setPinned p on

/-- The edit that a request is. -/
def edit : Request → Edit
  | add p => .add none p
  | remove p => .remove none p
  | refresh p => .refresh none p
  | pin p on => .pin p on

end Request

namespace Tree

variable {t u : Tree} {d : Disk} {p q : Path} {metadata m : Metadata} {front rest more names : List String} {name : String}

/-- What is known of what an addition makes where names lead from the root. -/
def made? (t : Tree) (d : Disk) (p : Path) (metadata : Metadata) (names way : List String) : Option Facts :=
  ((t.stem d p metadata names).at? way).map (·.facts (if way = [] then t.area.path.parent? else none))

end Tree

/-- What a request changes at the seat of its path. -/
def Request.rework (d : Disk) (t : Tree) (base names : List String) : Request → Rework
  | .add p =>
    match d.metadata? p with
    | some metadata =>
      if t.area.covers p = true ∧ t.hides (names.map .name) = false then .grow (t.made? d p metadata names) base names
      else .idle
    | none => .idle
  | .remove _ => .clear
  | .refresh p => .change fun v => { v with metadata := (d.metadata? p).getD v.metadata }
  | .pin _ on => .change fun v => { v with flags := { v.flags with pinned := on } }

namespace Index

variable {x y : Index} {t : Tree} {d : Disk} {i k : Nat} {base names : List String} {e : Request}

/-- Whatever has a node behind it has one. -/
theorem seated?_isSome_front {front all : List String} (h : (x.seated? ⟨k, all⟩).isSome = true) (hp : front <+: all) :
    (x.seated? ⟨k, front⟩).isSome = true := by
  obtain ⟨rest, rfl⟩ := hp
  rw [seated?_append] at h
  cases hs : x.seated? ⟨k, front⟩ with
  | none =>
    rw [hs] at h
    cases h
  | some j => rfl

theorem chart_behind_empty (h : x.seated? ⟨k, names⟩ = none) (more : List String) : x.chart ⟨k, names ++ more⟩ = none :=
  chart_of_empty (by rw [seated?_append, h, Option.bind_none])

/-- Whether an addition has made a tree of nodes at a seat where nothing was, and of which all that is above was there. -/
structure Grafts (x y : Index) (t' : Tree) (b : Arena) (top : NodeId) (k : Nat) (base front : List String)
    (made : List String → Option Facts) : Prop where
  grafted : ∃ parent found anchor, Grafted x.arena b parent top found anchor ∧
    ∀ more, (found.at? more).map (·.facts (if more = [] then anchor else none)) = made (front ++ more)
  empty : x.seated? ⟨k, base ++ front⟩ = none
  seated : y.seated? ⟨k, base ++ front⟩ = some top
  above : ∀ above, above <+: base ++ front → above ≠ base ++ front → (x.seated? ⟨k, above⟩).isSome = true
  root : base ++ front = [] ↔ t'.root = some top ∧ t'.isChild = false

/-- What is known behind what was made. -/
theorem Grafts.chart_eq {t' : Tree} {b : Arena} {top : NodeId} {front : List String} {made : List String → Option Facts}
    (h : Grafts x y t' b top k base front made) (hx : x.Orderly) (hy : y.Orderly) (hkeep : x.KeepsSeats y)
    (hal : Alike b y.arena) (s : Seat) : y.chart s =
      if s.tree = k ∧ base ++ front <+: s.names then made (s.names.drop base.length) else x.chart s := by
  obtain ⟨parent, found, anchor, hg, hmade⟩ := h.grafted
  rw [chart_grown hx hy hkeep hg hal h.seated s]
  refine if_ctx_congr Iff.rfl (fun hbehind => ?_) fun _ => rfl
  obtain ⟨l, all⟩ := s
  obtain ⟨rfl, more, rfl⟩ := hbehind
  have hs : (⟨l, base ++ front ++ more⟩ : Seat) = ⟨l, base ++ front⟩ ↔ more = [] := by simp
  simp only [hs]
  rw [List.drop_left, List.append_assoc, List.drop_left, ← hmade]

/-- What an addition makes hangs below what was there, or it is the root of a tree that had none. -/
theorem Orderly.exists_grafts {t' : Tree} {p : Path} {metadata : Metadata} {b : Arena} {top : NodeId} (hx : x.Orderly)
    (ht : x.trees[i]? = some t) (hb : x.Based i ⟨k, base⟩)
    (hp : p.components = t.area.path.components ++ names.map .name)
    (hadds : t.Adds d p metadata names x.arena (some top) t' b) (hr : Realizes x (.grow i t' b (some top)) y) :
    ∃ front, front <+: names ∧ Grafts x y t' b top k base front (t.made? d p metadata names) := by
  have ha := hx.sound.wellFormed
  have hkeep := hr.keepsSeats hx (by simp)
  obtain ⟨-, -, -, -, hal, htrees⟩ := hr.grown
  cases hadds with
  | @below _ r q _ front name rest hroot hnames hq hnone hg =>
    subst hnames
    have hlast : (front ++ name :: rest).getLast? = some p.entryName := by
      rw [← Tree.Adds.getLast?_eq hp rfl, List.getLast?_append_of_ne_nil _ (List.cons_ne_nil _ _)]
    have hseat : x.seated? ⟨k, base ++ front⟩ = some q := by rw [seated?_append, hb.seated?_eq ht hroot]; exact hq
    refine ⟨front ++ [name], ⟨rest, by rw [List.append_assoc]; rfl⟩, ⟨_, _, _, hg, fun more => ?_⟩, ?_, ?_,
      fun above habove hne => ?_, iff_of_false (by simp) fun hnew => ?_⟩
    · rw [List.append_assoc, List.singleton_append, Tree.made?, Tree.at?_stem_front hlast, ite_self, if_neg (by simp)]
    · rw [← List.append_assoc, seated?_append, hseat, Option.bind_some, descend?, hnone, Option.bind_none]
    · have hqlive := hg.contains_old (hx.sound.contains_seated hseat)
      rw [← List.append_assoc, seated?_append, hkeep _ _ hseat (by rw [hal.contains]; exact hqlive), Option.bind_some,
        descend?, hal.child?, Tree.Adds.child?_top ha hp rfl hnone hg]
      rfl
    · rw [← List.append_assoc, List.prefix_concat_iff] at habove
      have hpre := habove.resolve_left fun he => hne (by rw [he, List.append_assoc])
      exact seated?_isSome_front (by rw [hseat]; rfl) hpre
    · obtain rfl := Option.some.inj (hroot.symm.trans hnew.1)
      exact hg.fresh _ (.refl b _) (hx.sound.contains_root (List.mem_of_getElem? ht) _ hroot)
  | root hroot hg =>
    obtain ⟨rfl, rfl⟩ := Seat.mk.inj (hb.eq_of_empty ht hroot)
    have hchild := hx.sound.forest.isChild_eq_false (List.mem_of_getElem? ht) hroot
    have htree : y.trees[k]? = some { t with root := some top } := by
      rw [htrees, List.getElem?_set_self (List.getElem?_eq_some_iff.1 ht).1]
    refine ⟨[], List.nil_prefix, ⟨_, _, _, hg, fun more => rfl⟩, seated?_of_empty ht hroot _, ?_, fun above habove hne => ?_,
      iff_of_true rfl ⟨rfl, hchild⟩⟩
    · rw [seated?, top?_eq_some.2 ⟨_, htree, hchild, rfl⟩]
      rfl
    · exact absurd (List.prefix_nil.1 habove) hne

/-- Where an addition makes nothing, nothing changes. -/
theorem Realizes.chart_grow_idle (hr : Realizes x (.grow i t x.arena none) y) (ht : x.trees[i]? = some t) :
    y.chart = x.chart := by
  obtain ⟨-, -, -, -, hal, htrees⟩ := hr.grown
  refine chart_alike hal (htrees.trans ?_)
  obtain ⟨hlt, rfl⟩ := List.getElem?_eq_some_iff.1 ht
  exact List.set_getElem_self hlt

/-- **What an addition changes.** -/
theorem Orderly.leads_add {t' : Tree} {p : Path} {metadata : Metadata} {b : Arena} {made : Option NodeId} (hx : x.Orderly)
    (hy : y.Orderly) (ht : x.trees[i]? = some t) (hb : x.Based i ⟨k, base⟩)
    (hp : p.components = t.area.path.components ++ names.map .name)
    (hadds : t.Adds d p metadata names x.arena made t' b) (hr : Realizes x (.grow i t' b made) y) :
    (Rework.grow (t.made? d p metadata names) base names).Leads ⟨k, base ++ names⟩ x.chart y.chart := by
  have hknown : ∀ front, (x.seated? ⟨k, front⟩).isSome = true → (x.chart ⟨k, front⟩).isSome = true := fun front hf => by
    obtain ⟨j, hj⟩ := Option.isSome_iff_exists.1 hf
    exact hx.sound.chart_isSome hj
  cases made with
  | none =>
    cases hadds with
    | @present _ j hroot hj =>
      have hseat : x.seated? ⟨k, base ++ names⟩ = some j := by rw [seated?_append, hb.seated?_eq ht hroot]; exact hj
      rw [hr.chart_grow_idle ht]
      exact Rework.leads_grow_present fun front hfront =>
        hknown front (seated?_isSome_front (by rw [hseat]; rfl) hfront)
  | some top =>
    obtain ⟨-, -, -, -, hal, -⟩ := hr.grown
    obtain ⟨front, hfront, hgrafts⟩ := hx.exists_grafts ht hb hp hadds hr
    refine Rework.leads_grow (hgrafts.chart_eq hx hy (hr.keepsSeats hx (by simp)) hal)
      (fun more => chart_behind_empty hgrafts.empty more)
      (fun above habove hne => hknown above (hgrafts.above above habove hne)) hfront fun way hw hn => ?_
    have hlast : names.getLast? = some p.entryName ∨ names = [] := by
      cases names with
      | nil => exact .inr rfl
      | cons name rest => exact .inl (Tree.Adds.getLast?_eq hp (List.nil_append _).symm)
    rw [Tree.made?, Tree.at?_stem_apart hlast hw hn, Option.map_none]

/-- An addition is refused or it is made. -/
theorem Sound.cases_addEffect {p : Path} (hx : x.Sound) (ho : x.owner? none p = some (i, t))
    (hp : t.names? p = some names) (hr : Realizes x (x.addEffect d none p) y) :
    ((∀ metadata, d.metadata? p = some metadata → ¬(t.area.covers p = true ∧ t.hides (names.map .name) = false)) ∧
      Realizes x (.grow i t x.arena none) y) ∨
    ∃ metadata made t' b, d.metadata? p = some metadata ∧
      (t.area.covers p = true ∧ t.hides (names.map .name) = false) ∧ t.Adds d p metadata names x.arena made t' b ∧
      Realizes x (.grow i t' b made) y := by
  have hcomponents := Tree.names?_eq_some.1 hp
  simp only [addEffect, ho] at hr
  by_cases hno : ∀ metadata, d.metadata? p = some metadata →
      ¬(t.area.covers p = true ∧ t.hides (names.map .name) = false)
  · rw [Tree.add_refused hcomponents hno] at hr
    exact .inl ⟨hno, hr⟩
  · simp only [not_forall, not_not] at hno
    obtain ⟨metadata, hm, htakes⟩ := hno
    have hroot := hx.contains_root (List.mem_of_getElem? (get_of_owner? ho))
    obtain ⟨made, t', b, hadd, hadds⟩ := Tree.add_adds hx.wellFormed hcomponents htakes hm hroot
    rw [hadd] at hr
    exact .inr ⟨metadata, made, t', b, hm, htakes, hadds, hr⟩

section

variable {p : Path} (hx : x.Orderly) (hy : y.Orderly) (ho : x.owner? none p = some (i, t)) (hb : x.Based i ⟨k, base⟩)
  (hp : t.names? p = some names)
include hx hy ho hb hp

theorem Orderly.leads_addEffect (hr : Realizes x (x.addEffect d none p) y) :
    ((Request.add p).rework d t base names).Leads ⟨k, base ++ names⟩ x.chart y.chart := by
  have ht := get_of_owner? ho
  rcases hx.sound.cases_addEffect ho hp hr with ⟨hno, hr⟩ | ⟨metadata, made, t', b, hm, htakes, hadds, hr⟩
  · rw [hr.chart_grow_idle ht, Request.rework]
    split
    · rename_i metadata hm
      rw [if_neg (hno metadata hm)]
      exact Rework.leads_idle
    · exact Rework.leads_idle
  · simp only [Request.rework, hm, if_pos htakes]
    exact hx.leads_add hy ht hb (Tree.names?_eq_some.1 hp) hadds hr

theorem Orderly.leads_removeEffect (hr : Realizes x (x.removeEffect none p) y) :
    Rework.clear.Leads ⟨k, base ++ names⟩ x.chart y.chart := by
  simp only [removeEffect, ho, hb.located?_eq (get_of_owner? ho) hp] at hr
  cases hs : x.seated? ⟨k, base ++ names⟩ with
  | none =>
    rw [hs] at hr
    cases hr
    exact Rework.leads_clear_empty fun more => chart_behind_empty hs more
  | some id =>
    rw [hs] at hr
    have hkeep := hr.keepsSeats hx (by simp)
    cases hr with
    | cut _ _ hcut _ _ _ _ => exact Rework.leads_clear (chart_cut hx hy.sound hkeep hs hcut)

omit hy in
theorem Orderly.leads_refreshEffect (hr : Realizes x (x.refreshEffect d none p) y) :
    ((Request.refresh p).rework d t base names).Leads ⟨k, base ++ names⟩ x.chart y.chart := by
  simp only [refreshEffect, ho, hb.located?_eq (get_of_owner? ho) hp] at hr
  simp only [Request.rework]
  cases hm : d.metadata? p with
  | none =>
    have hidle : y = x := by
      cases hs : x.seated? ⟨k, base ++ names⟩ <;> rw [hs, hm] at hr <;> cases hr <;> rfl
    rw [hidle]
    refine Rework.leads_change fun s => ?_
    split
    · cases x.chart s <;> rfl
    · rfl
  | some metadata =>
    rw [hm] at hr
    cases hs : x.seated? ⟨k, base ++ names⟩ with
    | none =>
      rw [hs] at hr
      cases hr
      exact Rework.leads_change_empty (chart_of_empty hs)
    | some id =>
      rw [hs] at hr
      cases hr with
      | update _ hf hal _ htrees _ _ =>
        exact Rework.leads_change (chart_update hx.sound hf (fun _ => rfl) hs hal htrees)

omit hy in
theorem Orderly.leads_pinEffect {on : Bool} (hr : Realizes x (x.pinEffect p on) y) :
    (Rework.change fun v => { v with flags := { v.flags with pinned := on } }).Leads ⟨k, base ++ names⟩ x.chart
      y.chart := by
  simp only [pinEffect, ho, hb.located?_eq (get_of_owner? ho) hp] at hr
  cases hs : x.seated? ⟨k, base ++ names⟩ with
  | none =>
    rw [hs] at hr
    cases hr
    exact Rework.leads_change_empty (chart_of_empty hs)
  | some id =>
    rw [hs] at hr
    cases hr with
    | update _ hf hal _ htrees _ _ =>
      exact Rework.leads_change (chart_update hx.sound hf (fun _ => rfl) hs hal htrees)

end

/-- **What a request changes**, at the seat of its path. -/
theorem Orderly.leads_request (hx : x.Orderly) (hy : y.Orderly) (ho : x.owner? none e.path = some (i, t))
    (hb : x.Based i ⟨k, base⟩) (hp : t.names? e.path = some names) (hr : Realizes x (e.edit.effect x d) y) :
    (e.rework d t base names).Leads ⟨k, base ++ names⟩ x.chart y.chart := by
  cases e with
  | add => exact hx.leads_addEffect hy ho hb hp hr
  | remove => exact hx.leads_removeEffect hy ho hb hp hr
  | refresh => exact hx.leads_refreshEffect ho hb hp hr
  | pin => exact hx.leads_pinEffect ho hb hp hr

end Index

end FileIndex
