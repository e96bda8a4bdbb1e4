/-
Names of siblings. In the arena of an index no two entries of a directory have the same name (`Arena.Distinct`). Cuts,
growth and renames keep it so, and an entry may take the place of another of its name.
-/
import FileIndex.Proofs.Tree.Mending

namespace FileIndex.Arena

variable {a b c : Arena} {id i j p q r s top child : NodeId} {name : String} {parent : Option NodeId}

/-- Whether the entries of every directory have names of their own. -/
def Distinct (a : Arena) : Prop := ∀ q, ((a.children q).map a.name?).Nodup

theorem children_of_not_contains (h : ¬a.contains q = true) : a.children q = [] := by
  rw [children, get?_eq_none.2 h]
  rfl

/-- Two children of one node with the same name are the same. -/
theorem Distinct.eq_of_name? (h : a.Distinct) (ha : a.WellFormed) (hi : a.parent? i = some p) (hj : a.parent? j = some p)
    (hn : a.name? i = a.name? j) : i = j :=
  List.inj_on_of_nodup_map (h p) (ha.mem_children.2 hi) (ha.mem_children.2 hj) hn

/-- Names and children are all that counts. -/
theorem Distinct.congr (h : a.Distinct) (hc : ∀ q, b.children q = a.children q) (hn : ∀ j, b.name? j = a.name? j) :
    b.Distinct := by
  intro q
  rw [hc, funext hn]
  exact h q

theorem Alike.distinct (h : Alike a b) (hd : a.Distinct) : b.Distinct := hd.congr h.children h.name?

/-- A node that goes takes a name with it. -/
theorem Cut.distinct (h : Cut a b id) (ha : a.WellFormed) (hd : a.Distinct) : b.Distinct := by
  intro q
  by_cases hq : b.contains q = true
  · have hbelow := h.not_below hq
    have hnames : ∀ c ∈ (a.children q).erase id, b.name? c = a.name? c := by
      intro c hc
      have hcp := ha.mem_children.1 (List.mem_of_mem_erase hc)
      refine h.name?_rest fun hb => ?_
      rcases hb.cases_tail with rfl | ⟨p, hp, hb⟩
      · exact (ha.children_nodup q).not_mem_erase hc
      · obtain rfl : p = q := Option.some.inj (hp.symm.trans hcp)
        exact hbelow hb
    rw [h.children_rest hbelow, List.map_congr_left hnames]
    exact (hd q).sublist (List.erase_sublist.map _)
  · rw [children_of_not_contains hq]
    exact List.nodup_nil

theorem Detached.name? (h : Detached a b id) (j : NodeId) : b.name? j = a.name? j := by
  rw [name?_eq_core, h.core, Option.map_map, name?_eq_core]
  congr 1
  funext n
  simp only [Function.comp_apply]
  split <;> rfl

theorem Detached.distinct (h : Detached a b id) (ha : a.WellFormed) (hd : a.Distinct) : b.Distinct := by
  intro q
  rw [(h.unlinked ha).children, List.map_congr_left fun c _ => h.name? c]
  exact (hd q).sublist (List.erase_sublist.map _)

theorem Distinct.cleared (h : a.Distinct) (ha : a.WellFormed) (id : NodeId) (name : String) :
    (a.cleared id name).Distinct := by
  unfold Arena.cleared
  split
  · exact (ha.cut_cutAt _).distinct ha h
  · exact h

/-- Once its rival has gone, no sibling of a node has the name but the node itself. -/
theorem Distinct.eq_of_child?_cleared (h : a.Distinct) (ha : a.WellFormed)
    (hp : (a.cleared id name).parent? id = some q) (hc : (a.cleared id name).child? q name = some i) : i = id := by
  unfold Arena.cleared at hp hc
  cases hs : a.rival? id name with
  | none =>
    rw [hs] at hp hc
    simp only [rival?] at hs
    rw [hp, Option.bind_some, hc, Option.filter_some] at hs
    simpa using hs
  | some s =>
    rw [hs] at hp hc
    obtain ⟨-, -, p, hpi, hps, hchild⟩ := rival?_spec ha hs
    rw [(ha.cut_cutAt s).parent?_rest (not_below_rival ha hs), hpi] at hp
    obtain rfl := Option.some.inj hp
    rw [(ha.cut_cutAt s).child?_rest ha (h p) hchild, if_pos rfl] at hc
    cases hc

/-- A node that gets a new name has no sibling with it once the one that had it has gone. -/
theorem Distinct.renamed (h : a.Distinct) (ha : a.WellFormed) (hid : a.contains id = true) (name : String) :
    ((a.cleared id name).renamed id name).Distinct := by
  have hc := ha.cleared id name
  have hd := h.cleared ha id name
  have hidc := contains_cleared ha hid name
  intro q
  by_cases hq : id ∈ (a.cleared id name).children q
  · obtain ⟨n, hn⟩ := contains_iff.1 hidc
    have hchild : (a.cleared id name).child? q n.name = some id :=
      (child?_eq_some (hd q)).2 ⟨hq, name?_of_get? hn⟩
    refine distinct_renamed hc (hd q) hchild ?_
    cases hfree : (a.cleared id name).child? q name with
    | none => exact .inr rfl
    | some k =>
      obtain rfl := h.eq_of_child?_cleared ha (hc.mem_children.1 hq) hfree
      exact .inl (Option.some.inj ((name?_of_child? hfree).symm.trans (name?_of_get? hn)))
  · -- Nothing in this directory has another name than before.
    have hnames : ∀ j ∈ (a.cleared id name).children q,
        ((a.cleared id name).renamed id name).name? j = (a.cleared id name).name? j := by
      intro j hj
      refine (sameSight_renamed ?_).name
      rintro rfl
      exact hq hj
    rw [(sameLinks_renamed _ id name).children, List.map_congr_left hnames]
    exact hd q

/-- Growth adds a name that was missing, and new directories. -/
theorem Grown.distinct (h : Grown a b parent top) (ha : a.WellFormed) (hd : a.Distinct)
    (hnew : ∀ q, b.Below top q → ((b.children q).map b.name?).Nodup)
    (hmissing : ∀ q, parent = some q → ∀ c ∈ a.children q, a.name? c ≠ b.name? top) : b.Distinct := by
  intro q
  by_cases hq : b.contains q = true
  · rcases (h.contains_iff q).1 hq with hold | hnewq
    · have hnames : (a.children q).map b.name? = (a.children q).map a.name? := List.map_congr_left fun c hc =>
        h.name?_old (contains_of_parent? (ha.mem_children.1 hc))
      rw [h.children_old hold]
      split
      · rename_i hp
        rw [List.map_append, hnames, List.map_singleton]
        refine List.nodup_append'.2 ⟨hd q, List.nodup_singleton _, List.disjoint_singleton.2 fun hm => ?_⟩
        obtain ⟨c, hc, hcn⟩ := List.mem_map.1 hm
        exact hmissing q hp c hc hcn
      · rw [hnames]
        exact hd q
    · exact hnew q hnewq
  · rw [children_of_not_contains hq]
    exact List.nodup_nil

end FileIndex.Arena
