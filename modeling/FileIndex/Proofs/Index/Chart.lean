/-
Where nodes stand, said without their numbers. A seat is a tree that stands below no other and the names that lead down
from its root; in an orderly index every node has one (`Orderly.exists_seat`, `Sound.seat_unique`), and what is seen of
all entries can be read off what is known of the nodes at their seats (`chart`, `Orderly.exists_displays`).
-/
import FileIndex.Proofs.Index.Orderly
import FileIndex.Proofs.Tree.Branch

namespace FileIndex

open Arena

/-! ## The names that lead to a node -/

namespace Arena

variable {a : Arena} {i j r : NodeId} {names more : List String}

/-- No two ways lead to one node. -/
theorem WellFormed.descend?_inj (ha : a.WellFormed) (hj : a.descend? r names = some j) (hk : a.descend? r more = some j) :
    names = more := by
  induction names using List.reverseRecOn generalizing more j with
  | nil =>
    obtain rfl := Option.some.inj hj
    rcases List.eq_nil_or_concat more with rfl | ⟨front, name, rfl⟩
    · rfl
    · rw [List.concat_eq_append, descend?_concat] at hk
      obtain ⟨q, hq, hc⟩ := Option.bind_eq_some_iff.1 hk
      exact absurd (ha.below_of_descend? hq) (ha.acyclic (ha.parent?_of_child? hc))
  | append_singleton front name ih =>
    rw [descend?_concat] at hj
    obtain ⟨q, hq, hc⟩ := Option.bind_eq_some_iff.1 hj
    rcases List.eq_nil_or_concat more with rfl | ⟨front', name', rfl⟩
    · obtain rfl := Option.some.inj hk
      exact absurd (ha.below_of_descend? hq) (ha.acyclic (ha.parent?_of_child? hc))
    · rw [List.concat_eq_append, descend?_concat] at hk
      obtain ⟨q', hq', hc'⟩ := Option.bind_eq_some_iff.1 hk
      obtain rfl := Option.some.inj ((ha.parent?_of_child? hc).symm.trans (ha.parent?_of_child? hc'))
      obtain rfl := Option.some.inj ((name?_of_child? hc).symm.trans (name?_of_child? hc'))
      rw [ih hq hq', List.concat_eq_append]

/-- Where siblings have names of their own, a way leads to every node. -/
theorem WellFormed.exists_descend? (ha : a.WellFormed) (hd : a.Distinct) (hj : a.Below r j) :
    ∃ names, a.descend? r names = some j := by
  induction hj with
  | refl => exact ⟨[], rfl⟩
  | @tail i j hi hp ih =>
    obtain ⟨names, hnames⟩ := ih
    obtain ⟨n, hn⟩ := contains_iff.1 (contains_of_parent? hp)
    refine ⟨names ++ [n.name], ?_⟩
    rw [descend?_concat, hnames]
    exact (child?_eq_some (hd i)).2 ⟨ha.mem_children.2 hp, name?_of_get? hn⟩

end Arena

/-! ## What is known of a node -/

/-- What is known of a node but for its place. -/
structure Facts where
  name : String
  anchor : Option Path
  metadata : Metadata
  flags : Flags

/-- What is known of a node. -/
def Node.facts (n : Node) : Facts where
  name := n.name
  anchor := n.anchor
  metadata := n.metadata
  flags := n.flags

/-- What is known of a node that was made of what was found. -/
def Collected.facts (found : Collected) (anchor : Option Path) : Facts where
  name := found.name
  anchor
  metadata := found.metadata
  flags := { added := true }

namespace Arena

variable {a b : Arena} {id j top : NodeId} {parent : Option NodeId}

/-- What is known of the node in a slot. -/
def facts? (a : Arena) (j : NodeId) : Option Facts := (a.get? j).map Node.facts

theorem facts?_eq_core (a : Arena) (j : NodeId) : a.facts? j = (a.core? j).map Node.facts := by
  rw [facts?, core?, Option.map_map]
  rfl

theorem Alike.facts? (h : Alike a b) (j : NodeId) : b.facts? j = a.facts? j := by
  rw [facts?_eq_core, facts?_eq_core, h.core]

theorem Cut.facts?_rest (h : Cut a b id) (hj : ¬a.Below id j) : b.facts? j = a.facts? j := by
  rw [Arena.facts?, Arena.facts?, h.get?_rest j hj, Option.map_map]
  rfl

theorem Grown.facts?_old (h : Grown a b parent top) (hj : a.contains j = true) : b.facts? j = a.facts? j := by
  rw [Arena.facts?, Arena.facts?, h.get?_old j hj, Option.map_map]
  congr 1
  funext n
  simp only [Function.comp_apply]
  split <;> rfl

theorem facts?_modify {f : Node → Node} {g : Facts → Facts} (hg : ∀ n, (f n).facts = g n.facts) (a : Arena) (id j : NodeId) :
    (a.modify id f).facts? j = if j = id then (a.facts? j).map g else a.facts? j := by
  rw [facts?, facts?, get?_modify]
  split
  · rw [Option.map_map, Option.map_map]
    congr 1
    funext n
    exact hg n
  · rfl

end Arena

/-! ## Seats -/

/-- The place of a node: a tree by its number, and the names that lead down from its root. -/
structure Seat where
  tree : Nat
  names : List String
deriving DecidableEq

namespace Index

variable {x y : Index} {t : Tree} {i j r id : NodeId} {k : Nat} {s u : Seat} {names more : List String}

/-- The root of a tree that stands below no other. -/
def top? (x : Index) (k : Nat) : Option NodeId := x.trees[k]?.bind fun t => if t.isChild then none else t.root

/-- The node at a seat. -/
def seated? (x : Index) (s : Seat) : Option NodeId := (x.top? s.tree).bind fun r => x.arena.descend? r s.names

/-- What is known of the nodes at all seats. -/
def chart (x : Index) (s : Seat) : Option Facts := (x.seated? s).bind x.arena.facts?

theorem top?_eq_some : x.top? k = some r ↔ ∃ t, x.trees[k]? = some t ∧ t.isChild = false ∧ t.root = some r := by
  unfold top?
  rw [Option.bind_eq_some_iff]
  refine exists_congr fun t => and_congr_right fun _ => ?_
  cases t.isChild <;> simp

theorem seated?_append : x.seated? ⟨k, names ++ more⟩ =
    (x.seated? ⟨k, names⟩).bind fun j => x.arena.descend? j more := by
  simp only [seated?, descend?_append, Option.bind_assoc]

theorem chart_of_seated? (h : x.seated? s = some j) : x.chart s = x.arena.facts? j := by rw [chart, h, Option.bind_some]

theorem chart_of_empty (h : x.seated? s = none) : x.chart s = none := by rw [chart, h, Option.bind_none]

section

variable (hx : x.Sound)
include hx

theorem Sound.parent?_top (h : x.top? k = some r) : x.arena.parent? r = none := by
  obtain ⟨t, ht, hc, hr⟩ := top?_eq_some.1 h
  exact hx.parent?_root (List.mem_of_getElem? ht) hc hr

theorem Sound.below_top (h : x.seated? s = some j) : ∃ r, x.top? s.tree = some r ∧ x.arena.Below r j := by
  obtain ⟨r, hr, hj⟩ := Option.bind_eq_some_iff.1 h
  exact ⟨r, hr, hx.wellFormed.below_of_descend? hj⟩

theorem Sound.contains_top (h : x.top? k = some r) : x.arena.contains r = true := by
  obtain ⟨t, ht, -, hr⟩ := top?_eq_some.1 h
  exact hx.contains_root (List.mem_of_getElem? ht) r hr

theorem Sound.contains_seated (h : x.seated? s = some j) : x.arena.contains j = true := by
  obtain ⟨r, hr, hj⟩ := hx.below_top h
  exact hj.contains (hx.contains_top hr)

theorem Sound.chart_isSome (h : x.seated? s = some j) : (x.chart s).isSome = true := by
  obtain ⟨n, hn⟩ := contains_iff.1 (hx.contains_seated h)
  rw [chart_of_seated? h, facts?, hn]
  rfl

/-- A node has one seat at most. -/
theorem Sound.seat_unique (hs : x.seated? s = some j) (hu : x.seated? u = some j) : s = u := by
  obtain ⟨k, names⟩ := s
  obtain ⟨l, more⟩ := u
  obtain ⟨r, hr, hj⟩ := Option.bind_eq_some_iff.1 hs
  obtain ⟨r', hr', hj'⟩ := Option.bind_eq_some_iff.1 hu
  obtain rfl := (hx.wellFormed.below_of_descend? hj).eq_top (hx.wellFormed.below_of_descend? hj') (hx.parent?_top hr)
    (hx.parent?_top hr')
  obtain rfl := hx.wellFormed.descend?_inj hj hj'
  obtain ⟨t, ht, -, htr⟩ := top?_eq_some.1 hr
  obtain ⟨t', ht', -, htr'⟩ := top?_eq_some.1 hr'
  obtain rfl := hx.forest.eq_of_root (List.mem_of_getElem? ht) (List.mem_of_getElem? ht') htr htr'
  exact congrArg (Seat.mk · names) (hx.index_eq ht ht' rfl)

end

section

variable (hx : x.Orderly)
include hx

/-- Every node has a seat. -/
theorem Orderly.exists_seat (hj : x.arena.contains j = true) : ∃ s, x.seated? s = some j := by
  obtain ⟨t, ht, r, hr, -, hb, hc⟩ := hx.sound.forest.exists_top hj
  obtain ⟨k, hk⟩ := List.mem_iff_getElem?.1 ht
  obtain ⟨names, hnames⟩ := hx.sound.wellFormed.exists_descend? hx.distinct hb
  exact ⟨⟨k, names⟩, by rw [seated?, top?_eq_some.2 ⟨t, hk, hc, hr⟩]; exact hnames⟩

/-- What stands below a node has a seat behind that of the node. -/
theorem Orderly.below_iff (hi : x.seated? ⟨k, names⟩ = some i) (hj : x.seated? s = some j) :
    x.arena.Below i j ↔ s.tree = k ∧ names <+: s.names := by
  constructor
  · intro hb
    obtain ⟨more, hmore⟩ := hx.sound.wellFormed.exists_descend? hx.distinct hb
    have hseat : x.seated? ⟨k, names ++ more⟩ = some j := by rw [seated?_append, hi]; exact hmore
    obtain rfl := hx.sound.seat_unique hj hseat
    exact ⟨rfl, more, rfl⟩
  · obtain ⟨l, all⟩ := s
    rintro ⟨rfl, more, rfl⟩
    rw [seated?_append, hi] at hj
    exact hx.sound.wellFormed.below_of_descend? hj

end

end Index

/-! ## What is seen of all entries -/

/-- What is seen of an entry: its path and flags, what it is, how large and from when, and whether it can be written. -/
structure Sight where
  path : Path
  flags : Flags
  isDirectory : Bool
  size : Nat
  modified : Option Moment
  readOnly : Bool
deriving DecidableEq, Repr

/-- What a snapshot shows. -/
def Snapshot.sight (s : Snapshot) : Sight where
  path := s.path
  flags := s.flags
  isDirectory := s.isDirectory
  size := s.size
  modified := s.modified
  readOnly := s.readOnly

/-- What is seen of a node of which something is known, at a path. -/
def Facts.sight (v : Facts) (path : Path) : Sight where
  path
  flags := v.flags
  isDirectory := v.metadata.isDirectory
  size := v.metadata.size
  modified := v.metadata.moment?
  readOnly := v.metadata.readOnly

/-- The path that names lead to from a topmost node. -/
def Facts.path (top : Facts) (names : List String) : Path :=
  names.foldl Path.child ((top.anchor.getD ⟨""⟩).child top.name)

/-- Whether the node at a seat is an entry: one below a topmost directory, or a topmost node that is none. -/
structure Listed (c : Seat → Option Facts) (s : Seat) : Prop where
  known : (c s).isSome = true
  top : ∃ top, c ⟨s.tree, []⟩ = some top ∧ (top.metadata.isDirectory = true ↔ s.names ≠ [])

namespace Arena

variable {a : Arena} {j r : NodeId} {names : List String}

theorem facts?_isDirectory {v : Facts} (h : a.facts? j = some v) : a.isDirectory j = v.metadata.isDirectory := by
  obtain ⟨n, hn, rfl⟩ := Option.map_eq_some_iff.1 h
  rw [isDirectory, hn]
  rfl

end Arena

namespace Index

variable {x y : Index} {j : NodeId} {s : Seat}

/-- Whether an index displays some sights: those of its entries, in their order. -/
def Displays (x : Index) (sights : List Sight) : Prop :=
  ∃ ids, x.entries = .ok ids ∧ ids.map (fun id => (x.arena.snapshot id).1.map Snapshot.sight) = sights.map some

/-- Seats tell what is an entry. -/
theorem Sound.searchable_iff_listed (hx : x.Sound) (h : x.seated? s = some j) :
    x.arena.Searchable j ↔ Listed x.chart s := by
  obtain ⟨r, hr, hb⟩ := hx.below_top h
  have hseat : x.seated? ⟨s.tree, []⟩ = some r := by rw [seated?, hr]; rfl
  obtain ⟨top, htop⟩ := Option.isSome_iff_exists.1 (hx.chart_isSome hseat)
  have hdir : x.arena.isDirectory r = top.metadata.isDirectory :=
    facts?_isDirectory (by rw [← chart_of_seated? hseat]; exact htop)
  have hne : j ≠ r ↔ s.names ≠ [] := by
    refine not_congr ⟨?_, ?_⟩
    · rintro rfl
      rw [hx.seat_unique h hseat]
    · intro hnil
      rw [show s = ⟨s.tree, []⟩ by rw [← hnil], hseat] at h
      exact (Option.some.inj h).symm
  rw [searchable_iff (hx.contains_seated h) (hx.parent?_top hr) hb, hdir, hne]
  refine ⟨fun hiff => ⟨hx.chart_isSome h, top, htop, hiff⟩, fun hl => ?_⟩
  obtain ⟨top', htop', hiff⟩ := hl.top
  rwa [Option.some.inj (htop.symm.trans htop')]

/-- Nodes have their seats in a list. -/
theorem Orderly.exists_seats (hx : x.Orderly) {l : List NodeId} (hn : l.Nodup) (hl : ∀ j ∈ l, x.arena.contains j = true) :
    ∃ seats : List Seat, seats.map x.seated? = l.map some ∧ seats.Nodup ∧
      ∀ s, s ∈ seats ↔ ∃ j ∈ l, x.seated? s = some j := by
  obtain ⟨seats, hseats⟩ : l.map some ∈ Set.range (List.map x.seated?) := by
    rw [Set.range_list_map]
    intro o ho
    obtain ⟨j, hj, rfl⟩ := List.mem_map.1 ho
    exact hx.exists_seat (hl j hj)
  refine ⟨seats, hseats, .of_map x.seated? ?_, fun s => ⟨fun hs => ?_, fun ⟨j, hj, he⟩ => ?_⟩⟩
  · rw [hseats]
    exact hn.map (Option.some_injective _)
  · obtain ⟨j, hj, he⟩ := List.mem_map.1 (hseats ▸ List.mem_map_of_mem hs)
    exact ⟨j, hj, he.symm⟩
  · have hin := List.mem_map_of_mem (f := some) hj
    rw [← hseats] at hin
    obtain ⟨u, hu, hue⟩ := List.mem_map.1 hin
    rwa [hx.sound.seat_unique he hue]

end Index

end FileIndex
