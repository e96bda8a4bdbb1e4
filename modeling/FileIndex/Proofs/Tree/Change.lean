/-
Changing the nodes of a tree. A node that is taken out stands on its own, so that a release makes a cut of
it; a node that gets a name may have a rival there, and that one is cut. None of these changes runs into an
empty slot.
-/
import FileIndex.Proofs.Arena.KnownPaths
import FileIndex.Proofs.Outcome
import FileIndex.Proofs.Tree.Locate

namespace FileIndex

namespace Arena

variable {a b : Arena} {id j s : NodeId} {n : Node} {name : String} {f : Node → Node}

/-! ## Cutting at once -/

/-- The arena without a node and all below it. -/
def cutAt (a : Arena) (id : NodeId) : Arena := ((a.detach id).2.release id).2

theorem WellFormed.cut_cutAt (h : a.WellFormed) (id : NodeId) : Cut a (a.cutAt id) id :=
  (h.detached_detach id).cut_release h

/-! ## Names -/

/-- The node with another name in an arena that has forgotten the paths it was in. -/
def renamed (a : Arena) (id : NodeId) (name : String) : Arena :=
  (a.modify id (·.rename name)).forgetPaths id

theorem sameLinks_renamed (a : Arena) (id : NodeId) (name : String) :
    SameLinks a (a.renamed id name) := by
  have hl : SameLinks a (a.modify id (·.rename name)) := sameLinks_modify (fun _ => rfl) fun _ => rfl
  exact hl.trans (alike_forgetPaths _ id).sameLinks

theorem core?_renamed (a : Arena) (id : NodeId) (name : String) (j : NodeId) :
    (a.renamed id name).core? j = if j = id then (a.core? j).map (·.rename name) else a.core? j := by
  rw [renamed, (alike_forgetPaths _ id).core, core?, get?_modify, core?]
  split <;> cases a.get? j <;> rfl

theorem WellFormed.get?_renamed_of_not_below (h : a.WellFormed) (hj : ¬a.Below id j) :
    (a.renamed id name).get? j = a.get? j := by
  have hl : SameLinks a (a.modify id (·.rename name)) := sameLinks_modify (fun _ => rfl) fun _ => rfl
  rw [renamed, get?_forgetPaths, if_neg, get?_modify, if_neg]
  · rintro rfl
    exact hj (.refl a j)
  · rw [hl.subtree]
    exact fun hm => hj (h.below_of_mem_subtree hm)

theorem PathsKnown.renamed (ha : a.WellFormed) (h : a.PathsKnown) (hid : a.contains id = true)
    (name : String) : (a.renamed id name).PathsKnown := by
  have hl : SameLinks a (a.modify id (·.rename name)) := sameLinks_modify (fun _ => rfl) fun _ => rfl
  refine h.forgetPaths ha (hl.wellFormed ha) (by rw [hl.contains, hid]) (fun j => by rw [hl.below])
    fun j hj => ?_
  have hne : j ≠ id := by
    rintro rfl
    exact hj (.refl a j)
  rw [stage?, get?_modify, if_neg hne]
  exact ⟨rfl, fun m hm => ⟨m, hm, rfl⟩⟩

/-- The sibling that has the name which a node is to get. -/
def rival? (a : Arena) (id : NodeId) (name : String) : Option NodeId :=
  (a.parent? id).bind fun p => (a.child? p name).filter (· ≠ id)

theorem rival?_spec (h : a.WellFormed) (hs : a.rival? id name = some s) :
    s ≠ id ∧ a.name? s = some name ∧ ∃ p, a.parent? id = some p ∧ a.parent? s = some p ∧
      a.child? p name = some s := by
  obtain ⟨p, hp, hs⟩ := Option.bind_eq_some_iff.1 hs
  obtain ⟨hs, hne⟩ := Option.filter_eq_some_iff.1 hs
  exact ⟨by simpa using hne, name?_of_child? hs, p, hp, h.parent?_of_child? hs, hs⟩

theorem Alike.rival? (h : Alike a b) (id : NodeId) (name : String) :
    b.rival? id name = a.rival? id name := by
  simp only [Arena.rival?, h.parent?, h.child?]

/-- The arena without the rival of a node. -/
def cleared (a : Arena) (id : NodeId) (name : String) : Arena :=
  match a.rival? id name with
  | some s => a.cutAt s
  | none => a

theorem not_below_rival (h : a.WellFormed) (hs : a.rival? id name = some s) : ¬a.Below s id := by
  obtain ⟨hne, -, p, hp, hsp, -⟩ := rival?_spec h hs
  exact fun hb => h.acyclic hsp (hb.of_parent? hne hp)

theorem WellFormed.cleared (h : a.WellFormed) (id : NodeId) (name : String) :
    (a.cleared id name).WellFormed := by
  unfold Arena.cleared
  split
  · exact (h.cut_cutAt _).wellFormed
  · exact h

theorem PathsKnown.cleared (ha : a.WellFormed) (h : a.PathsKnown) (id : NodeId) (name : String) :
    (a.cleared id name).PathsKnown := by
  unfold Arena.cleared
  split
  · exact h.cut ha (ha.cut_cutAt _)
  · exact h

theorem contains_cleared (h : a.WellFormed) (hid : a.contains id = true) (name : String) :
    (a.cleared id name).contains id = true := by
  unfold Arena.cleared
  split
  · rename_i s hs
    exact (h.cut_cutAt s).contains_iff.2 ⟨hid, not_below_rival h hs⟩
  · exact hid

/-! ## Other changes of one node -/

theorem PathsKnown.modify (ha : a.WellFormed) (h : a.PathsKnown) (hp : ∀ n, (f n).parent = n.parent)
    (hc : ∀ n, (f n).children = n.children) (hn : ∀ n, (f n).name = n.name)
    (han : ∀ n, (f n).anchor = n.anchor) (hk : ∀ n, (f n).knownPath = n.knownPath) :
    (a.modify id f).PathsKnown := by
  refine h.transport ha ((sameLinks_modify hp hc).wellFormed ha) fun j m q hm hq => ⟨?_, fun i _ => ?_⟩
  · rw [get?_modify] at hm
    split at hm
    · obtain ⟨n, hjn, rfl⟩ := Option.map_eq_some_iff.1 hm
      exact ⟨n, hjn, by rw [← hk, hq]⟩
    · exact ⟨m, hm, hq⟩
  · simp only [stage?, get?_modify]
    split <;> cases a.get? i <;> simp [hp, hn, han]

end Arena

namespace Tree

open Arena

variable {a : Arena} {t : Tree} {d : Disk} {id j : NodeId} {name : String} {p old new : Path}

/-! ## Taking out -/

/-- A node that is taken out stands on its own; what is marked below it changes no link. -/
theorem takeOut_spec (h : a.WellFormed) (hid : a.contains id = true) (directory : Option Path) :
    ∃ b, takeOut a id directory = .ok b ∧ SameLinks (a.detach id).2 b ∧
      ∀ j, ¬a.Below id j → b.get? j = (a.detach id).2.get? j := by
  have hu := (h.detached_detach id).unlinked h
  have hset : SameLinks (a.detach id).2 ((a.detach id).2.modify id (·.setAnchor directory)) :=
    sameLinks_modify (fun _ => rfl) fun _ => rfl
  have hwf := hset.wellFormed (hu.wellFormed h)
  rw [takeOut, hid]
  refine ⟨_, rfl, hset.trans ?_, fun j hj => ?_⟩
  · apply sameLinks_modifyAll <;> exact fun _ => rfl
  have hne : j ≠ id := by
    rintro rfl
    exact hj (.refl a j)
  have hm : j ∉ ((a.detach id).2.modify id (·.setAnchor directory)).subtree id := by
    intro hm
    have hb := hwf.below_of_mem_subtree hm
    rw [hset.below, hu.below_self_iff h] at hb
    exact hj hb
  rw [get?_modifyAll, if_neg hm, get?_modify, if_neg hne]
  exact fun _ => rfl

/-! ## Renaming -/

theorem clearName_eq (h : a.WellFormed) (hid : a.contains id = true) :
    clearName a id name = .ok (a.cleared id name) := by
  obtain ⟨n, hn⟩ := contains_iff.1 hid
  have hp : a.parent? id = n.parent := parent?_of_get? hn
  rw [clearName, get_of_get? hn, ok_bind, cleared, rival?, hp]
  cases hpar : n.parent with
  | none => rfl
  | some q =>
    simp only [Option.bind_some]
    rw [findChild_eq h (h.contains_parent (hp.trans hpar)), ok_bind]
    cases hc : a.child? q name with
    | none => rfl
    | some s =>
      simp only [pure_eq_ok, Option.filter_some]
      by_cases hs : s = id
      · simp [hs]
      · simp [hs, cutAt]

/-- The node that a rename to another name in the same directory concerns. -/
def renames? (t : Tree) (a : Arena) (old new : Path) : Option NodeId :=
  if old.sameParent new ∧ ¬old.same t.area.path then t.located? a old else none

theorem renames?_alike {b : Arena} (h : Alike a b) : t.renames? b old new = t.renames? a old new := by
  simp only [renames?, located?_alike h]

theorem located?_of_renames? (h : t.renames? a old new = some id) : t.located? a old = some id := by
  unfold renames? at h
  split at h
  · exact h
  · cases h

/-- The new path of a rename leads into the directory that the node is in, to its new name. -/
theorem names?_of_renames? {more : List String} (hn : t.renames? a old new = some id)
    (hmore : t.names? new = some more) : ∃ root front n, t.root = some root ∧
      a.descend? root (front ++ [n]) = some id ∧ more = front ++ [new.entryName] := by
  have hold := located?_of_renames? hn
  have hcond : old.sameParent new = true ∧ ¬old.same t.area.path = true := by
    unfold renames? at hn
    split at hn
    · assumption
    · cases hn
  obtain ⟨root, names, hr, hnames, hid⟩ := located?_eq_some.1 hold
  rw [names?_eq_some] at hnames hmore
  rcases List.eq_nil_or_concat names with rfl | ⟨front, n, rfl⟩
  · exact absurd (by rw [Path.same, hnames]; simp) hcond.2
  · rw [List.concat_eq_append] at hnames hid
    rw [List.map_append, ← List.append_assoc] at hnames
    obtain ⟨c, hc⟩ := Path.components_of_sameParent hcond.1 hnames
    rw [hmore, List.append_assoc, List.append_cancel_left_eq] at hc
    obtain ⟨front', last, rfl, hfront, hlast⟩ := List.map_eq_append_iff.1 hc
    obtain ⟨m, rfl, rfl⟩ := List.map_eq_singleton_iff.1 hlast
    obtain rfl : front' = front := List.map_injective_iff.2 (fun _ _ h => Path.Component.name.inj h) hfront
    have hentry : new.entryName = m :=
      Path.entryName_of_components (by rw [hmore, List.map_append, ← List.append_assoc]; rfl)
    exact ⟨root, front', n, hr, hid, by rw [hentry]⟩

/-- What another node at the new path stands in the way of: it is the rival of the renamed one. -/
theorem rival?_of_located? {e : NodeId} (h : a.WellFormed) (hn : t.renames? a old new = some id)
    (he : t.located? a new = some e) (hne : e ≠ id) : a.rival? id new.entryName = some e := by
  obtain ⟨root', more, hr', hmore, he⟩ := located?_eq_some.1 he
  obtain ⟨root, front, n, hr, hid, rfl⟩ := names?_of_renames? hn hmore
  obtain rfl : root = root' := Option.some.inj (hr.symm.trans hr')
  rw [descend?_concat, Option.bind_eq_some_iff] at hid he
  obtain ⟨q, hq, hid⟩ := hid
  obtain ⟨q', hq', he⟩ := he
  obtain rfl : q = q' := Option.some.inj (hq.symm.trans hq')
  rw [rival?, h.parent?_of_child? hid, Option.bind_some, he, Option.filter_some]
  simp [hne]

theorem rename_eq (h : a.WellFormed) (hroot : ∀ r, t.root = some r → a.contains r = true)
    (hmove : old.sameParent new) : t.rename a old new = .ok (match t.renames? a old new with
      | some id => (some id, (a.cleared id new.entryName).renamed id new.entryName)
      | none => (none, a)) := by
  rw [rename, renames?]
  simp only [hmove, Bool.not_true, Bool.false_eq_true, if_false, true_and]
  by_cases hs : old.same t.area.path = true
  · simp [hs]
  · rw [locate_eq h hroot]
    simp only [hs, Bool.false_eq_true, if_false, ok_bind, not_false_eq_true, if_true]
    cases hl : t.located? a old with
    | none => rfl
    | some id =>
      obtain ⟨r, hr, hb⟩ := below_of_located? h hl
      simp only [clearName_eq h (hb.contains (hroot r hr)), ok_bind, pure_eq_ok, renamed]

/-- What a rename that comes to an end does: nothing, or the node that is found gets its name. -/
theorem rename_cases {found : Option NodeId} {b : Arena} (hren : t.rename a old new = .ok (found, b)) :
    old.sameParent new = true ∧
      ((old.same t.area.path = true ∨ t.locate a old = .ok none) ∧ found = none ∧ b = a ∨
        ¬old.same t.area.path = true ∧ ∃ id c, t.locate a old = .ok (some id) ∧
          clearName a id new.entryName = .ok c ∧ found = some id ∧ b = c.renamed id new.entryName) := by
  unfold rename at hren
  cases hmove : old.sameParent new with
  | false => rw [hmove] at hren; cases hren
  | true =>
    rw [hmove] at hren
    simp only [Bool.not_true, Bool.false_eq_true, if_false] at hren
    refine ⟨rfl, ?_⟩
    split at hren
    · rename_i harea
      cases hren
      exact .inl ⟨.inl harea, rfl, rfl⟩
    · rename_i harea
      obtain ⟨o, hl, hren⟩ := bind_eq_ok.1 hren
      split at hren
      · cases hren
        exact .inl ⟨.inr hl, rfl, rfl⟩
      · rename_i id
        obtain ⟨c, hc, hren⟩ := bind_eq_ok.1 hren
        cases hren
        exact .inr ⟨harea, id, c, hl, hc, rfl, rfl⟩

theorem contains_of_clearName {b : Arena} (h : clearName a id name = .ok b) : a.contains id = true := by
  unfold clearName at h
  obtain ⟨n, hn, -⟩ := bind_eq_ok.1 h
  by_contra hgone
  rw [Arena.get, get?_eq_none.2 hgone] at hn
  cases hn

theorem rename_moves (hmove : ¬old.sameParent new) :
    t.rename a old new = .error (.renameMoves old.spelling new.spelling) := by
  rw [rename]
  simp [hmove]
  rfl

/-! ## Changes in place -/

/-- What is read again of a node. -/
def refreshed (a : Arena) (id : NodeId) (metadata : Metadata) : Arena :=
  a.modify id fun n => { n with metadata }

theorem change_eq {f : Node → Node} (hid : a.contains id = true) :
    a.change id f = .ok (a.modify id f) := by
  rw [change, if_pos hid]

theorem refresh_eq (h : a.WellFormed) (hroot : ∀ r, t.root = some r → a.contains r = true) :
    t.refresh a d p = .ok (match t.located? a p, d.metadata? p with
      | some id, some metadata => (some id, refreshed a id metadata)
      | _, _ => (none, a)) := by
  rw [refresh, locate_eq h hroot, ok_bind]
  cases hl : t.located? a p with
  | none => rfl
  | some id =>
    cases hm : d.metadata? p with
    | none => rfl
    | some metadata =>
      obtain ⟨r, hr, hb⟩ := below_of_located? h hl
      simp only [change_eq (hb.contains (hroot r hr)), ok_bind, pure_eq_ok, refreshed]

/-- A node that is pinned or let go. -/
def pinned (a : Arena) (id : NodeId) (on : Bool) : Arena :=
  a.modify id fun n => { n with flags := { n.flags with pinned := on } }

theorem setPinned_eq (h : a.WellFormed) (hroot : ∀ r, t.root = some r → a.contains r = true) (on : Bool) :
    t.setPinned a p on = .ok (match t.located? a p with
      | some id => (some id, pinned a id on)
      | none => (none, a)) := by
  rw [setPinned, locate_eq h hroot, ok_bind]
  cases hl : t.located? a p with
  | none => rfl
  | some id =>
    obtain ⟨r, hr, hb⟩ := below_of_located? h hl
    simp only [change_eq (hb.contains (hroot r hr)), ok_bind, pure_eq_ok, pinned]

end Tree

end FileIndex
