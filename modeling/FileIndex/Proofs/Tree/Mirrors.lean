/-
Nodes that mirror an entry of a disk (`Mirrors`): the same names lead to the same things, and no two nodes in a
directory have one name. What a walk finds mirrors what it walked, and where a subtree is exchanged for another one
that mirrors something, the whole mirrors the disk with that put there (`Mirrors.lift`).
-/
import FileIndex.Proofs.Arena.Collected
import FileIndex.Proofs.Disk.Walked
import FileIndex.Proofs.Tree.Locate
import Mathlib.Algebra.GroupWithZero.Nat

namespace FileIndex

open Path (IsFileName)

/-- What is compared of an entry: of a directory, its kind only. -/
def Metadata.seen (m : Metadata) : Metadata := if m.isDirectory then .ofDirectory else m

theorem Metadata.isDirectory_seen (m : Metadata) : m.seen.isDirectory = m.isDirectory := by
  unfold seen
  split
  · rename_i h
    rw [h]
    rfl
  · rfl

namespace Entry

theorem isDirectory_metadata (e : Entry) : e.metadata.isDirectory = e.isDirectory := by cases e <;> rfl

mutual

/-- The number of entries below an entry. -/
def count : Entry → Nat
  | .directory children => counts children
  | _ => 0

/-- The number of entries in a list and below them. -/
def counts : List (String × Entry) → Nat
  | [] => 0
  | (_, e) :: rest => e.count + 1 + counts rest

end

theorem counts_eq_sum (children : List (String × Entry)) :
    counts children = (children.map fun c => c.2.count + 1).sum := by
  induction children with
  | nil => rfl
  | cons c rest ih => rw [counts, ih, List.map_cons, List.sum_cons]

end Entry

namespace Arena

variable {a b : Arena} {id j p q r c : NodeId} {n : Node} {name m : String} {names dir : List String}
  {e f g : Entry} {children : List (String × Entry)}

/-- What is compared of the entry that a node stands for. -/
def seen? (a : Arena) (id : NodeId) : Option Metadata := (a.get? id).map fun n => n.metadata.seen

/-- Whether what stands at and below a node is what an entry is and holds. -/
structure Mirrors (a : Arena) (id : NodeId) (e : Entry) : Prop where
  found : ∀ names, (a.descend? id names).bind a.seen? = (e.at? names).map fun f => f.metadata.seen
  distinct : ∀ j, a.Below id j → ((a.children j).map a.name?).Nodup

/-! ## Children by their names -/

theorem child?_eq_some (hd : ((a.children p).map a.name?).Nodup) :
    a.child? p name = some c ↔ c ∈ a.children p ∧ a.name? c = some name := by
  refine ⟨fun h => ⟨mem_children_of_child? h, name?_of_child? h⟩, fun ⟨hc, hn⟩ => ?_⟩
  cases hf : a.child? p name with
  | none => exact absurd (by simpa using hn) (List.find?_eq_none.1 hf c hc)
  | some k =>
    have hk := List.inj_on_of_nodup_map hd (mem_children_of_child? hf) hc ((name?_of_child? hf).trans hn.symm)
    rw [hk]

theorem contains_of_child? (h : a.child? p name = some c) : a.contains c = true := by
  obtain ⟨n, hn, -⟩ := Option.map_eq_some_iff.1 (name?_of_child? h)
  exact contains_iff.2 ⟨n, hn⟩

theorem seen?_isSome (h : a.contains id = true) : ∃ s, a.seen? id = some s := by
  obtain ⟨n, hn⟩ := contains_iff.1 h
  exact ⟨_, by rw [seen?, hn]; rfl⟩

theorem child?_congr (hc : b.children p = a.children p) (hn : ∀ c ∈ a.children p, b.name? c = a.name? c)
    (name : String) : b.child? p name = a.child? p name := by
  rw [child?, child?, hc, ← List.head?_filter, ← List.head?_filter]
  exact congrArg List.head? (List.filter_congr fun c hm => by rw [hn c hm])

theorem eq_or_exists_of_rel {α β : Type} {r : α → β → Prop} {x : Option α} {y : Option β} (h : Option.Rel r x y) :
    x = none ∧ y = none ∨ ∃ u v, x = some u ∧ y = some v ∧ r u v := by
  cases h with
  | none => exact .inl ⟨rfl, rfl⟩
  | some h => exact .inr ⟨_, _, rfl, rfl, h⟩

/-! ## One level -/

namespace Mirrors

theorem seen (h : a.Mirrors id e) : a.seen? id = some e.metadata.seen := h.found []

theorem contains (h : a.Mirrors id e) : a.contains id = true := by
  obtain ⟨n, hn, -⟩ := Option.map_eq_some_iff.1 h.seen
  exact contains_iff.2 ⟨n, hn⟩

theorem child (h : a.Mirrors id e) (ha : a.WellFormed) (name : String) :
    Option.Rel a.Mirrors (a.child? id name) (e.child? name) := by
  have hone := h.found [name]
  simp only [descend?, Entry.at?_cons] at hone
  cases hc : a.child? id name with
  | none =>
    rw [hc] at hone
    cases hf : e.child? name with
    | none => exact .none
    | some f =>
      rw [hf] at hone
      cases hone
  | some c =>
    obtain ⟨s, hs⟩ := seen?_isSome (contains_of_child? hc)
    cases hf : e.child? name with
    | none =>
      rw [hc, hf] at hone
      cases hs.symm.trans hone
    | some f =>
      refine .some ⟨fun names => ?_, fun j hj => ?_⟩
      · have := h.found (name :: names)
        rwa [descend?, hc, Entry.at?_cons, hf] at this
      · exact h.distinct j ((Below.single (ha.parent?_of_child? hc)).trans hj)

/-- Nodes mirror an entry if they do so one by one, by their names. -/
theorem of_children (ha : a.WellFormed) (hs : a.seen? id = some e.metadata.seen)
    (hd : ((a.children id).map a.name?).Nodup)
    (hc : ∀ name, Option.Rel a.Mirrors (a.child? id name) (e.child? name)) : a.Mirrors id e where
  found names := by
    cases names with
    | nil => exact hs
    | cons name names =>
      rw [descend?, Entry.at?_cons]
      rcases eq_or_exists_of_rel (hc name) with ⟨hn, he⟩ | ⟨c, f, hn, he, h⟩
      · rw [hn, he]
        rfl
      · rw [hn, he]
        exact h.found names
  distinct j hj := by
    rcases hj.cases_head with rfl | ⟨c, hp, hb⟩
    · exact hd
    · -- A child is found by its own name.
      have hmem := ha.mem_children.2 hp
      obtain ⟨n, hn⟩ := contains_iff.1 (contains_of_parent? hp)
      have hfound := (child?_eq_some hd).2 ⟨hmem, name?_of_get? hn⟩
      rcases eq_or_exists_of_rel (hc n.name) with ⟨hnone, -⟩ | ⟨k, f, hk, -, h⟩
      · rw [hfound] at hnone
        cases hnone
      · obtain rfl : c = k := Option.some.inj (hfound.symm.trans hk)
        exact h.distinct j hb

end Mirrors

/-! ## What stays -/

/-- Two arenas in which a node looks the same by what is compared. -/
structure SameSight (a b : Arena) (j : NodeId) : Prop where
  seen : b.seen? j = a.seen? j
  name : b.name? j = a.name? j
  children : b.children j = a.children j

namespace Mirrors

/-- Where nothing at or below a node has changed, it still mirrors what it did. -/
theorem congr (h : a.Mirrors id e) (ha : a.WellFormed) (hb : b.WellFormed)
    (hsame : ∀ j, a.Below id j → SameSight a b j) : b.Mirrors id e := by
  have hbelow : ∀ j, b.Below id j → a.Below id j := by
    intro j hj
    induction hj with
    | refl => exact .refl a id
    | tail _ hp ih =>
      have hm := hb.mem_children.2 hp
      rw [(hsame _ ih).children] at hm
      exact ih.tail (ha.mem_children.1 hm)
  have hchild : ∀ i, a.Below id i → ∀ name, b.child? i name = a.child? i name := fun i hi =>
    child?_congr (hsame i hi).children fun c hc => (hsame c (hi.tail (ha.mem_children.1 hc))).name
  refine ⟨fun names => ?_, fun j hj => ?_⟩
  · rw [← h.found names]
    have hsame' : ∀ i names, a.Below id i → (b.descend? i names).bind b.seen? = (a.descend? i names).bind a.seen? := by
      intro i names hi
      induction names generalizing i with
      | nil => exact (hsame i hi).seen
      | cons name names ih =>
        rw [descend?, descend?, hchild i hi]
        cases hc : a.child? i name with
        | none => rfl
        | some c => exact ih c (hi.tail (ha.parent?_of_child? hc))
    exact hsame' id names (.refl a id)
  · have hj := hbelow j hj
    rw [(hsame j hj).children]
    rw [List.map_congr_left fun c hc => (hsame c (hj.tail (ha.mem_children.1 hc))).name]
    exact h.distinct j hj

/-- A child that has not changed mirrors what it did. -/
theorem keep (h : a.Mirrors p e) (ha : a.WellFormed) (hb : b.WellFormed) (hc : b.child? p m = a.child? p m)
    (hsame : ∀ c, a.child? p m = some c → ∀ j, a.Below c j → SameSight a b j) :
    Option.Rel b.Mirrors (b.child? p m) (e.child? m) := by
  rw [hc]
  rcases eq_or_exists_of_rel (h.child ha m) with ⟨hn, he⟩ | ⟨c, f, hn, he, hm⟩
  · rw [hn, he]
    exact .none
  · rw [hn, he]
    exact .some (hm.congr ha hb (hsame c hn))

/-- Where nothing has changed but below a node, the whole mirrors what it did with something else put there. -/
theorem lift (h : a.Mirrors r e) (ha : a.WellFormed) (hb : b.WellFormed) (he : e.Proper)
    (hq : a.descend? r dir = some q) (hf : e.at? dir = some f) (hname : b.name? q = a.name? q)
    (hsame : ∀ j, a.Below r j → ¬a.Below q j → SameSight a b j) (hg : b.Mirrors q g) :
    b.Mirrors r (e.make dir g) := by
  induction dir generalizing r e with
  | nil =>
    cases hq
    exact hg
  | cons n dir ih =>
    rw [descend?] at hq
    obtain ⟨c, hc, hq⟩ := Option.bind_eq_some_iff.1 hq
    rw [Entry.at?_cons] at hf
    obtain ⟨k, hk, hf⟩ := Option.bind_eq_some_iff.1 hf
    have hpar := ha.parent?_of_child? hc
    have hcq := ha.below_of_descend? hq
    have hchild : a.Mirrors c k := by
      rcases eq_or_exists_of_rel (h.child ha n) with ⟨hnone, -⟩ | ⟨c', k', hc', hk', hm⟩
      · rw [hc] at hnone
        cases hnone
      · obtain rfl : c = c' := Option.some.inj (hc.symm.trans hc')
        obtain rfl : k = k' := Option.some.inj (hk.symm.trans hk')
        exact hm
    have hdeep := ih hchild (he.child hk) hq hf fun j hj => hsame j ((Below.single hpar).trans hj)
    -- The node itself stands above the change, and so do its children but one.
    have habove : ¬a.Below q r := fun hb => ha.acyclic hpar (hcq.trans hb)
    have hnames : ∀ i ∈ a.children r, b.name? i = a.name? i := by
      intro i hi
      by_cases hiq : q = i
      · exact hiq ▸ hname
      · have hip := ha.mem_children.1 hi
        exact (hsame i (Below.single hip) fun hb => habove (hb.of_parent? hiq hip)).name
    have hr := hsame r (.refl a r) habove
    have hchildren := child?_congr hr.children hnames
    obtain ⟨children, rfl⟩ := Entry.exists_directory (Entry.isDirectory_of_child? hk)
    refine of_children hb (hr.seen.trans h.seen) ?_ fun m => ?_
    · rw [hr.children, List.map_congr_left hnames]
      exact h.distinct r (.refl a r)
    · rw [Entry.make, Entry.child?, Entry.lookup_setChild he.1]
      split
      · rename_i hm
        subst hm
        have hl : children.lookup m = some k := hk
        rw [hchildren, hc, hl]
        exact .some hdeep
      · rename_i hm
        refine h.keep ha hb (hchildren m) fun i hi j hj => ?_
        have hip := ha.parent?_of_child? hi
        refine hsame j ((Below.single hip).trans hj) fun hqj => hm ?_
        obtain rfl := ha.eq_of_below_siblings hip hpar hj (hcq.trans hqj)
        exact Option.some.inj ((name?_of_child? hi).symm.trans (name?_of_child? hc))

/-- The node of an entry further down. -/
theorem descend (h : a.Mirrors r e) (ha : a.WellFormed) (names : List String) :
    Option.Rel a.Mirrors (a.descend? r names) (e.at? names) := by
  induction names generalizing r e with
  | nil => exact .some h
  | cons name names ih =>
    rw [descend?, Entry.at?_cons]
    rcases eq_or_exists_of_rel (h.child ha name) with ⟨hn, he⟩ | ⟨c, f, hn, he, hm⟩
    · rw [hn, he]
      exact .none
    · rw [hn, he]
      exact ih hm

end Mirrors

/-! ## What a walk found -/

theorem name?_of_shows {found : Collected} (h : a.Shows found id) : a.name? id = some found.name := by
  cases found with
  | entry name metadata children =>
    obtain ⟨n, hn, rfl, -⟩ := h
    exact name?_of_get? hn

theorem ShowsAll.map_name? {founds : List Collected} {ids : List NodeId} (h : a.ShowsAll founds ids) :
    ids.map a.name? = founds.map fun c => some c.name := by
  induction founds generalizing ids with
  | nil => rw [show ids = [] from h]; rfl
  | cons c rest ih =>
    obtain ⟨id, more, rfl, hc, hrest⟩ := h
    rw [List.map_cons, List.map_cons, name?_of_shows hc, ih hrest]

theorem ShowsAll.exists_shown {founds : List Collected} {ids : List NodeId} (h : a.ShowsAll founds ids)
    (hid : id ∈ ids) : ∃ found ∈ founds, a.Shows found id := by
  induction founds generalizing ids with
  | nil =>
    rw [show ids = [] from h] at hid
    cases hid
  | cons c rest ih =>
    obtain ⟨i, more, rfl, hc, hrest⟩ := h
    rcases List.mem_cons.1 hid with rfl | hid
    · exact ⟨c, by simp, hc⟩
    · obtain ⟨found, hf, hs⟩ := ih hrest hid
      exact ⟨found, List.mem_cons_of_mem _ hf, hs⟩

end Arena

theorem name_walkEntry (s : WalkScope) (isTop : Bool) (name : String) (e : Entry) :
    (walkEntry s isTop name e).name = name := by
  cases e <;> rw [walkEntry] <;> first | rfl | exact fun _ h => by cases h

theorem walkChildren_all (children : List (String × Entry)) :
    walkChildren .all children = children.map fun c => walkEntry .all false c.1 c.2 := by
  induction children with
  | nil => rfl
  | cons c rest ih =>
    obtain ⟨n, e⟩ := c
    rw [walkChildren, ih]
    rfl

namespace Arena

variable {a b : Arena} {id j p q r c : NodeId} {n : Node} {name m : String} {names dir : List String}
  {e f g : Entry} {children : List (String × Entry)}

/-- What was found in a directory stands below a node, by its names. -/
theorem Mirrors.of_showsAll {ids : List NodeId} (ha : a.WellFormed) (hn : (children.map Prod.fst).Nodup)
    (hseen : a.seen? id = some (Entry.directory children).metadata.seen) (hids : a.children id = ids)
    (hall : a.ShowsAll (Collected.sorted (walkChildren .all children)) ids)
    (hone : ∀ c ∈ children, ∀ i, a.Shows (walkEntry .all false c.1 c.2) i → a.Mirrors i c.2) :
    a.Mirrors id (.directory children) := by
  rw [walkChildren_all, Collected.sorted] at hall
  have hperm := List.mergeSort_perm (children.map fun c => walkEntry .all false c.1 c.2)
    fun a b => decide (a.name ≤ b.name)
  generalize List.mergeSort _ _ = founds at hall hperm
  have hnames : (ids.map a.name?).Perm ((children.map Prod.fst).map some) := by
    rw [hall.map_name?, List.map_map]
    refine (hperm.map _).trans (.of_eq ?_)
    rw [List.map_map]
    exact List.map_congr_left fun c _ => congrArg some (name_walkEntry ..)
  have hd : ((a.children id).map a.name?).Nodup := by
    rw [hids, hnames.nodup_iff]
    exact hn.map fun _ _ => Option.some.inj
  refine of_children ha hseen hd fun name => ?_
  cases hc : a.child? id name with
  | none =>
    have hnot : name ∉ children.map Prod.fst := by
      intro hm
      obtain ⟨i, hi, hin⟩ := List.mem_map.1 (hnames.mem_iff.2 (List.mem_map_of_mem (f := some) hm))
      have := (child?_eq_some hd).2 ⟨hids ▸ hi, hin⟩
      rw [hc] at this
      cases this
    rw [Entry.child?, Entry.lookup_eq_none hnot]
    exact .none
  | some c =>
    obtain ⟨hmem, hcn⟩ := (child?_eq_some hd).1 hc
    obtain ⟨found, hfound, hshows⟩ := hall.exists_shown (hids ▸ hmem)
    obtain ⟨k, hk, rfl⟩ := List.mem_map.1 (hperm.mem_iff.1 hfound)
    have hkn := name?_of_shows hshows
    rw [name_walkEntry, hcn, Option.some.injEq] at hkn
    rw [Entry.child?, Entry.lookup_of_mem hn (show (name, k.2) ∈ children from hkn ▸ hk)]
    exact .some (hone k hk c hshows)

theorem Mirrors.of_leaf (ha : a.WellFormed) (he : e.isDirectory = false)
    (h : a.Shows (.entry name e.metadata []) id) : a.Mirrors id e := by
  obtain ⟨n, hn, -, hm, hall⟩ := h
  have hc : a.children id = [] := (children_of_get? hn).trans hall
  refine of_children ha (by rw [seen?, hn, Option.map_some, hm]) (by simp [hc]) fun m => ?_
  rw [child?, hc, Entry.child?_eq_none he]
  exact .none

mutual

/-- **What a walk finds mirrors what it walked.** -/
theorem Mirrors.of_shows (ha : a.WellFormed) : (e : Entry) → e.Proper → ∀ {isTop name id},
    a.Shows (walkEntry .all isTop name e) id → a.Mirrors id e
  | .directory children, hp, isTop, name, id, h => by
    rw [walkEntry, show (isTop || WalkScope.all.recursive) = true by simp [WalkScope.all], if_pos rfl] at h
    obtain ⟨n, hn, -, hm, hall⟩ := h
    refine .of_showsAll ha hp.1 ?_ (children_of_get? hn) hall (Mirrors.of_shows_children ha children hp.2)
    rw [seen?, hn, Option.map_some, hm]
    rfl
  | .file .., _, _, _, _, h | .symlink .., _, _, _, _, h | .pipe .., _, _, _, _, h => by
    rw [walkEntry] at h
    · exact .of_leaf ha rfl h
    · exact nofun

theorem Mirrors.of_shows_children (ha : a.WellFormed) : (children : List (String × Entry)) →
    Entry.AllProper children → ∀ c ∈ children, ∀ i, a.Shows (walkEntry .all false c.1 c.2) i → a.Mirrors i c.2
  | [], _, c, hc, _, _ => by cases hc
  | (n, e) :: rest, hp, c, hc, i, h => by
    rcases List.mem_cons.1 hc with rfl | hc
    · exact Mirrors.of_shows ha e hp.1 h
    · exact Mirrors.of_shows_children ha rest hp.2 c hc i h

end

/-! ## Names -/

/-- Every node below one that mirrors an entry is found by its names. -/
theorem Mirrors.exists_names (h : a.Mirrors r e) (ha : a.WellFormed) (hj : a.Below r j) :
    ∃ names, a.descend? r names = some j := by
  induction hj with
  | refl => exact ⟨[], rfl⟩
  | @tail i j hi hp ih =>
    obtain ⟨names, hnames⟩ := ih
    obtain ⟨n, hn⟩ := contains_iff.1 (contains_of_parent? hp)
    refine ⟨names ++ [n.name], ?_⟩
    rw [descend?_concat, hnames]
    exact (child?_eq_some (h.distinct i hi)).2 ⟨ha.mem_children.2 hp, name?_of_get? hn⟩

theorem Mirrors.at?_isSome (h : a.Mirrors r e) (names : List String) :
    (e.at? names).isSome = (a.descend? r names).isSome := by
  have hf := h.found names
  cases hd : a.descend? r names with
  | none =>
    rw [hd] at hf
    cases he : e.at? names with
    | none => rfl
    | some f =>
      rw [he] at hf
      cases hf
  | some j =>
    cases he : e.at? names with
    | some f => rfl
    | none =>
      rw [hd, he] at hf
      cases names with
      | nil => cases he
      | cons name names =>
        -- What names lead to is a child, so it is a node.
        obtain ⟨front, last, hlast⟩ : ∃ front last, name :: names = front ++ [last] :=
          ⟨_, _, (List.dropLast_append_getLast (List.cons_ne_nil name names)).symm⟩
        rw [hlast, descend?_concat] at hd
        obtain ⟨i, -, hi⟩ := Option.bind_eq_some_iff.1 hd
        obtain ⟨s, hs⟩ := seen?_isSome (contains_of_child? hi)
        rw [Option.bind_some, hs] at hf
        cases hf

/-- Below a node that mirrors an entry all names are ones that entries can have. -/
theorem Mirrors.isFileName (h : a.Mirrors r e) (ha : a.WellFormed) (he : e.Named) (hj : a.Below r j)
    (hne : j ≠ r) (hn : a.name? j = some name) : IsFileName name := by
  obtain ⟨names, hnames⟩ := h.exists_names ha hj
  rcases List.eq_nil_or_concat names with rfl | ⟨front, last, rfl⟩
  · cases hnames
    exact absurd rfl hne
  · rw [List.concat_eq_append] at hnames
    have hsome : (e.at? (front ++ [last])).isSome = true := by
      rw [h.at?_isSome, hnames]
      rfl
    obtain ⟨f, hf⟩ := Option.isSome_iff_exists.1 hsome
    rw [descend?_concat] at hnames
    obtain ⟨i, -, hi⟩ := Option.bind_eq_some_iff.1 hnames
    obtain rfl : last = name := Option.some.inj ((name?_of_child? hi).symm.trans hn)
    exact he.isFileName hf

/-- Below what a walk takes that is not to go down, the entries of the top have nothing in them. -/
theorem Mirrors.children_of_shallow {s : WalkScope} (h : a.Mirrors r (e.pruned s true)) (ha : a.WellFormed)
    (hs : s.recursive = false) (hj : a.parent? j = some r) : a.children j = [] := by
  refine List.eq_nil_iff_forall_not_mem.2 fun i hi => ?_
  have hi := ha.mem_children.1 hi
  obtain ⟨n, hn⟩ := contains_iff.1 (contains_of_parent? hj)
  obtain ⟨k, hk⟩ := contains_iff.1 (contains_of_parent? hi)
  have hfirst := (child?_eq_some (h.distinct r (.refl a r))).2 ⟨ha.mem_children.2 hj, name?_of_get? hn⟩
  have hsecond := (child?_eq_some (h.distinct j (.single hj))).2 ⟨ha.mem_children.2 hi, name?_of_get? hk⟩
  have hdeep : a.descend? r [n.name, k.name] = some i := by
    rw [descend?, hfirst, Option.bind_some, descend?, hsecond]
    rfl
  have hsome := h.at?_isSome [n.name, k.name]
  rw [hdeep, Option.isSome_some, Entry.at?_pruned_isSome] at hsome
  simpa [Entry.Reaches, hs] using hsome.1.2

/-! ## Counting -/

/-- Below a directory there is one node for each name in it. -/
theorem Mirrors.children_perm (h : a.Mirrors id (.directory children)) (ha : a.WellFormed)
    (hn : (children.map Prod.fst).Nodup) :
    (children.map fun c => a.child? id c.1).Perm ((a.children id).map some) := by
  have hd := h.distinct id (.refl a id)
  have hfound : ∀ c ∈ children, ∃ i, a.child? id c.1 = some i := by
    intro c hc
    rcases eq_or_exists_of_rel (h.child ha c.1) with ⟨-, hnone⟩ | ⟨i, -, hi, -⟩
    · rw [Entry.child?, Entry.lookup_of_mem hn hc] at hnone
      cases hnone
    · exact ⟨i, hi⟩
  refine (List.perm_ext_iff_of_nodup ?_ ?_).2 fun o => ?_
  · refine List.Nodup.map_on (fun c hc k hk he => ?_) (List.Nodup.of_map _ hn)
    obtain ⟨i, hi⟩ := hfound c hc
    have hname := name?_of_child? hi
    rw [name?_of_child? (he.symm.trans hi), Option.some.injEq] at hname
    exact List.inj_on_of_nodup_map hn hc hk hname.symm
  · exact (ha.children_nodup id).map fun _ _ => Option.some.inj
  · simp only [List.mem_map]
    constructor
    · rintro ⟨c, hc, rfl⟩
      obtain ⟨i, hi⟩ := hfound c hc
      exact ⟨i, mem_children_of_child? hi, hi.symm⟩
    · rintro ⟨i, hi, rfl⟩
      obtain ⟨n, hin⟩ := contains_iff.1 (contains_of_parent? (ha.mem_children.1 hi))
      have hc := (child?_eq_some hd).2 ⟨hi, name?_of_get? hin⟩
      rcases eq_or_exists_of_rel (h.child ha n.name) with ⟨hnone, -⟩ | ⟨-, f, -, hf, -⟩
      · rw [hc] at hnone
        cases hnone
      · exact ⟨(n.name, f), Entry.mem_of_lookup hf, hc⟩

theorem Mirrors.children_eq_nil (h : a.Mirrors id e) (ha : a.WellFormed) (he : e.isDirectory = false) :
    a.children id = [] := by
  refine List.eq_nil_iff_forall_not_mem.2 fun i hi => ?_
  obtain ⟨n, hin⟩ := contains_iff.1 (contains_of_parent? (ha.mem_children.1 hi))
  have hc := (child?_eq_some (h.distinct id (.refl a id))).2 ⟨hi, name?_of_get? hin⟩
  rcases eq_or_exists_of_rel (h.child ha n.name) with ⟨hnone, -⟩ | ⟨-, f, -, hf, -⟩
  · rw [hc] at hnone
    cases hnone
  · rw [Entry.child?_eq_none he] at hf
    cases hf

/-- There is one node for each entry. -/
theorem Mirrors.length_subtree (h : a.Mirrors id e) (ha : a.WellFormed) (hp : e.Proper) :
    (a.subtree id).length = e.count + 1 := by
  have hid := h.contains
  induction id, hid using ha.induct generalizing e with
  | step id hid ih =>
    rw [ha.subtree_eq hid, List.length_cons, List.length_flatMap]
    cases e with
    | directory children =>
      rw [Entry.count, Entry.counts_eq_sum]
      have hsum := ((h.children_perm ha hp.1).map fun o => (o.map fun i => (a.subtree i).length).getD 0).sum_nat
      simp only [List.map_map, Function.comp_def, Option.map_some, Option.getD_some] at hsum
      rw [← hsum]
      congr 2
      refine List.map_congr_left fun c hc => ?_
      have hl := Entry.lookup_of_mem hp.1 hc
      rcases eq_or_exists_of_rel (h.child ha c.1) with ⟨-, hnone⟩ | ⟨i, f, hi, hf, hm⟩
      · rw [Entry.child?, hl] at hnone
        cases hnone
      · obtain rfl : c.2 = f := Option.some.inj (hl.symm.trans hf)
        rw [hi]
        exact ih i (ha.parent?_of_child? hi) hm (Entry.allProper_iff.1 hp.2 c hc)
    | file | symlink | pipe =>
      rw [h.children_eq_nil ha rfl]
      rfl

end Arena

end FileIndex
