/-
What becomes of the snapshots of nodes when an arena grows, is cut, or changes in one node: they stay, except those of
the changed node and of all nodes below one that gets another name.
-/
import FileIndex.Proofs.Tree.Change

namespace FileIndex

/-- A node without what no snapshot shows and no path is worked out of. -/
def Node.shown (n : Node) : Node := { n with children := [], knownPath := none }

namespace Arena

variable {a b d : Arena} {id i j top : NodeId} {parent : Option NodeId} {name : String} {f : Node → Node}

/-- The snapshot of a node depends on the node and on what the nodes above it add to its path. -/
theorem view?_congr (ha : a.WellFormed) (hb : b.WellFormed) (hid : a.contains id = true)
    (hs : ∀ i, a.Below i id → b.stage? i = a.stage? i)
    (hn : (b.get? id).map Node.shown = (a.get? id).map Node.shown) : b.view? id = a.view? id := by
  have key : ∀ c : Arena, c.view? id =
      ((c.get? id).map Node.shown).bind fun n => (c.workedPath? id).map (Snapshot.ofNode id n) := by
    intro c
    rw [view?]
    cases c.get? id <;> rfl
  rw [key, key, hn, workedPath?_congr ha hb hid hs]

theorem stage?_of_shown (h : (b.get? j).map Node.shown = (a.get? j).map Node.shown) :
    b.stage? j = a.stage? j := by
  have key : ∀ c : Arena, c.stage? j = ((c.get? j).map Node.shown).map fun n => (n.parent, n.anchor, n.name) := by
    intro c
    rw [Option.map_map]
    rfl
  rw [key, key, h]

theorem Grown.view?_old (h : Grown a b parent top) (ha : a.WellFormed) (hj : a.contains j = true) :
    b.view? j = a.view? j := by
  have hold : ∀ i, a.contains i = true → (b.get? i).map Node.shown = (a.get? i).map Node.shown := by
    intro i hi
    rw [h.get?_old i hi, Option.map_map]
    congr 1
    funext n
    simp only [Function.comp_apply]
    split <;> rfl
  exact view?_congr ha h.wellFormed hj (fun i hi => stage?_of_shown (hold i (ha.contains_of_below hi hj)))
    (hold j hj)

theorem Cut.view?_rest (h : Cut a b id) (ha : a.WellFormed) (hj : b.contains j = true) :
    b.view? j = a.view? j := by
  obtain ⟨hlive, hnot⟩ := h.contains_iff.1 hj
  have hrest : ∀ i, a.Below i j → (b.get? i).map Node.shown = (a.get? i).map Node.shown := by
    intro i hi
    rw [h.get?_rest i fun hb => hnot (hb.trans hi), Option.map_map]
    rfl
  exact view?_congr ha h.wellFormed hlive (fun i hi => stage?_of_shown (hrest i hi)) (hrest j (.refl a j))

theorem Cut.workedPath?_rest (h : Cut a b id) (ha : a.WellFormed) (hj : b.contains j = true) :
    b.workedPath? j = a.workedPath? j := by
  obtain ⟨hlive, hnot⟩ := h.contains_iff.1 hj
  refine workedPath?_congr ha h.wellFormed hlive fun i hi => ?_
  rw [stage?, h.get?_rest i fun hb => hnot (hb.trans hi), Option.map_map]
  rfl

theorem view?_cleared (h : a.WellFormed) (hj : (a.cleared id name).contains j = true) :
    (a.cleared id name).view? j = a.view? j := by
  revert hj
  unfold cleared
  split
  · exact (h.cut_cutAt _).view?_rest h
  · exact fun _ => rfl

theorem view?_renamed (h : a.WellFormed) (hj : a.contains j = true) (hn : ¬a.Below id j) :
    (a.renamed id name).view? j = a.view? j := by
  have hrest : ∀ i, a.Below i j → ((a.renamed id name).get? i).map Node.shown = (a.get? i).map Node.shown :=
    fun i hi => by rw [h.get?_renamed_of_not_below fun hb => hn (hb.trans hi)]
  exact view?_congr h ((sameLinks_renamed a id name).wellFormed h) hj
    (fun i hi => stage?_of_shown (hrest i hi)) (hrest j (.refl a j))

/-- A change of one node that touches neither links nor paths shows in the snapshot of that node only. -/
theorem view?_modify (h : a.WellFormed) (hp : ∀ n, (f n).parent = n.parent)
    (hc : ∀ n, (f n).children = n.children) (hn : ∀ n, (f n).name = n.name)
    (han : ∀ n, (f n).anchor = n.anchor) (hj : j ≠ id) : (a.modify id f).view? j = a.view? j := by
  have hl : SameLinks a (a.modify id f) := sameLinks_modify hp hc
  by_cases hlive : a.contains j = true
  · refine view?_congr h (hl.wellFormed h) hlive (fun i _ => ?_) (by rw [get?_modify, if_neg hj])
    simp only [stage?, get?_modify]
    split <;> cases a.get? i <;> simp [hp, hn, han]
  · have hgone : (a.modify id f).get? j = none := get?_eq_none.2 (by rwa [hl.contains])
    rw [view?, view?, hgone, get?_eq_none.2 hlive]
    rfl

/-! ## Renaming -/

theorem contains_renamed (ha : a.WellFormed) (hal : Alike a b) (hd : Alike ((b.cleared id name).renamed id name) d) :
    d.contains j = true ↔ a.contains j = true ∧ ∀ s, a.rival? id name = some s → ¬a.Below s j := by
  rw [hd.contains, (sameLinks_renamed _ id name).contains, Arena.cleared, hal.rival?]
  cases hs : a.rival? id name with
  | none => simp [hal.contains]
  | some s =>
    have hb := hal.sameLinks.wellFormed ha
    simp [(hb.cut_cutAt s).contains_iff, hal.contains, hal.sameLinks.below]

theorem below_renamed (ha : a.WellFormed) (hal : Alike a b) (hd : Alike ((b.cleared id name).renamed id name) d)
    (hj : d.contains j = true) : d.Below i j ↔ a.Below i j := by
  have hlive := (contains_renamed ha hal hd).1 hj
  rw [hd.sameLinks.below, (sameLinks_renamed _ id name).below, Arena.cleared, hal.rival?]
  cases hs : a.rival? id name with
  | none => rw [hal.sameLinks.below]
  | some s =>
    have hb := hal.sameLinks.wellFormed ha
    simp only
    rw [(hb.cut_cutAt s).below_rest (by rw [hal.sameLinks.below]; exact hlive.2 s hs), hal.sameLinks.below]

/-- The nodes that do not stand below the renamed one keep their snapshots. -/
theorem view?_renamed_rest (ha : a.WellFormed) (hal : Alike a b)
    (hd : Alike ((b.cleared id name).renamed id name) d) (hj : d.contains j = true) (hn : ¬a.Below id j) :
    d.view? j = a.view? j := by
  have hb := hal.sameLinks.wellFormed ha
  have hcl := hb.cleared id name
  have hj' : (b.cleared id name).contains j = true := by
    rwa [hd.contains, (sameLinks_renamed _ id name).contains] at hj
  have hn' : ¬(b.cleared id name).Below id j := by
    rwa [← (sameLinks_renamed _ id name).below, ← hd.sameLinks.below, below_renamed ha hal hd hj]
  rw [hd.view? ((sameLinks_renamed _ id name).wellFormed hcl), view?_renamed hcl hj' hn', view?_cleared hb hj',
    hal.view? ha]

end Arena

end FileIndex
