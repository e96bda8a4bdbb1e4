/-
What the other changes of a mirror leave: a node that is read again, a node that goes with all below it, and a node
that gets another name and takes the place of what had it. Each leaves a mirror of the entry with the same change.
-/
import FileIndex.Proofs.Tree.Change
import FileIndex.Proofs.Tree.Making

namespace FileIndex

namespace Arena

variable {a b : Arena} {id j q r s : NodeId} {name old new : String} {names dir : List String}
  {e f g : Entry} {children more : List (String × Entry)}

theorem Mirrors.alike (h : a.Mirrors r e) (ha : a.WellFormed) (hal : Alike a b) : b.Mirrors r e :=
  h.congr ha (hal.sameLinks.wellFormed ha) fun j _ => hal.sameSight j

/-- A node further down mirrors the entry there. -/
theorem Mirrors.at_descend? (h : a.Mirrors r e) (ha : a.WellFormed) (hq : a.descend? r names = some q)
    (hf : e.at? names = some f) : a.Mirrors q f := by
  have hrel := h.descend ha names
  rw [hq, hf] at hrel
  cases hrel with
  | some hm => exact hm

/-! ## A node that is read again -/

theorem Mirrors.refreshed (h : a.Mirrors r e) (ha : a.WellFormed) (he : e.Proper) (hq : a.descend? r names = some q)
    (hf : e.at? names = some f) (hc : g.child? = f.child?) :
    (Tree.refreshed a q g.metadata).Mirrors r (e.make names g) := by
  have hl : SameLinks a (Tree.refreshed a q g.metadata) := sameLinks_modify (fun _ => rfl) fun _ => rfl
  have hb := hl.wellFormed ha
  have hget : ∀ j, (Tree.refreshed a q g.metadata).get? j =
      if j = q then (a.get? j).map fun n => { n with metadata := g.metadata } else a.get? j := get?_modify a q _
  have hname : ∀ j, (Tree.refreshed a q g.metadata).name? j = a.name? j := fun j => by
    rw [name?, hget]
    split <;> simp [name?, Function.comp_def]
  have hsame : ∀ j, j ≠ q → SameSight a (Tree.refreshed a q g.metadata) j := fun j hj =>
    ⟨by rw [seen?, hget, if_neg hj, seen?], hname j, hl.children j⟩
  have hmq := h.at_descend? ha hq hf
  refine h.lift ha hb he hq hf (hname q) (fun j _ hj => hsame j ?_) (.of_children hb ?_ ?_ fun m => ?_)
  · rintro rfl
    exact hj (.refl a j)
  · obtain ⟨n, hn⟩ := contains_iff.1 hmq.contains
    rw [seen?, hget, if_pos rfl, hn]
    rfl
  · rw [hl.children, List.map_congr_left fun c _ => hname c]
    exact hmq.distinct q (.refl a q)
  · rw [hc]
    refine hmq.keep ha hb (child?_congr (hl.children q) (fun c _ => hname c) m) fun c hcm j hj => hsame j ?_
    rintro rfl
    exact ha.acyclic (ha.parent?_of_child? hcm) hj

/-! ## A node that goes -/

namespace Cut

theorem sameSight (h : Cut a b id) (ha : a.WellFormed) (hp : a.parent? id = some q) (hj : ¬a.Below id j)
    (hne : j ≠ q) : SameSight a b j := by
  have hget : b.get? j = a.get? j := by
    rw [h.get?_rest j hj]
    cases hn : a.get? j with
    | none => rfl
    | some n =>
      rw [Option.map_some, Node.removeChild_of_not_mem]
      rw [← children_of_get? hn, ha.mem_children, hp]
      exact fun he => hne (Option.some.inj he).symm
  exact ⟨by rw [seen?, hget, seen?], by rw [name?, hget, name?], by rw [children, hget, children]⟩

theorem name?_rest (h : Cut a b id) (hj : ¬a.Below id j) : b.name? j = a.name? j := by
  rw [name?, h.get?_rest j hj, Option.map_map, name?]
  rfl

/-- The children that are left have kept their names. -/
theorem name?_sibling (h : Cut a b id) (ha : a.WellFormed) (hp : a.parent? id = some q)
    (hj : j ∈ (a.children q).erase id) : b.name? j = a.name? j := by
  refine h.name?_rest fun hb => ?_
  have hjp := ha.mem_children.1 (List.mem_of_mem_erase hj)
  obtain rfl := ha.eq_of_below_siblings hp hjp hb (.refl a j)
  exact (ha.children_nodup q).not_mem_erase hj

theorem distinct_rest (h : Cut a b id) (ha : a.WellFormed) (hp : a.parent? id = some q)
    (hd : ((a.children q).map a.name?).Nodup) : ((b.children q).map b.name?).Nodup := by
  rw [h.children_rest (ha.acyclic hp), List.map_congr_left fun i hi => h.name?_sibling ha hp hi]
  exact hd.sublist (List.erase_sublist.map _)

theorem child?_rest (h : Cut a b id) (ha : a.WellFormed) (hd : ((a.children q).map a.name?).Nodup)
    (hc : a.child? q name = some id) (m : String) : b.child? q m = if m = name then none else a.child? q m := by
  have hp := ha.parent?_of_child? hc
  refine Option.ext fun i => ?_
  rw [child?_eq_some (h.distinct_rest ha hp hd), h.children_rest (ha.acyclic hp)]
  by_cases hm : m = name
  · subst hm
    rw [if_pos rfl]
    refine iff_of_false (fun ⟨hi, hn⟩ => ?_) nofun
    rw [h.name?_sibling ha hp hi] at hn
    have hfound := (child?_eq_some hd).2 ⟨List.mem_of_mem_erase hi, hn⟩
    rw [hc, Option.some.injEq] at hfound
    exact (ha.children_nodup q).not_mem_erase (hfound ▸ hi)
  · rw [if_neg hm, child?_eq_some hd]
    constructor
    · exact fun ⟨hi, hn⟩ => ⟨List.mem_of_mem_erase hi, h.name?_sibling ha hp hi ▸ hn⟩
    · rintro ⟨hi, hn⟩
      have hne : i ≠ id := by
        rintro rfl
        exact hm (Option.some.inj (hn.symm.trans (name?_of_child? hc)))
      have hmem := (List.mem_erase_of_ne hne).2 hi
      exact ⟨hmem, (h.name?_sibling ha hp hmem).trans hn⟩

/-- The directory without the entry. -/
theorem mirrors (h : Cut a b id) (ha : a.WellFormed) (hm : a.Mirrors q (.directory children))
    (hn : (children.map Prod.fst).Nodup) (hc : a.child? q name = some id) :
    b.Mirrors q (.directory (Entry.setChild children name none)) := by
  have hp := ha.parent?_of_child? hc
  have hd := hm.distinct q (.refl a q)
  have hchild := h.child?_rest ha hd hc
  refine .of_children h.wellFormed ?_ (h.distinct_rest ha hp hd) fun m => ?_
  · rw [seen?, h.get?_rest q (ha.acyclic hp), Option.map_map]
    exact hm.seen
  · rw [Entry.child?, Entry.lookup_setChild hn]
    by_cases hmn : m = name
    · rw [hchild, if_pos hmn, if_pos hmn]
      exact .none
    · rw [if_neg hmn]
      refine hm.keep ha h.wellFormed (by rw [hchild, if_neg hmn]) fun c hcm j hj => ?_
      have hcp := ha.parent?_of_child? hcm
      refine h.sameSight ha hp (fun hb => hmn ?_) ?_
      · obtain rfl := ha.eq_of_below_siblings hp hcp hb hj
        exact Option.some.inj ((name?_of_child? hcm).symm.trans (name?_of_child? hc))
      · rintro rfl
        exact ha.acyclic hcp hj

end Cut

/-- A mirror without one of its nodes. -/
theorem Mirrors.cut (h : a.Mirrors r e) (ha : a.WellFormed) (he : e.Proper) (hid : a.descend? r (dir ++ [name]) = some id)
    (hf : e.at? dir = some (.directory children)) (hc : Cut a b id) :
    b.Mirrors r (e.make dir (.directory (Entry.setChild children name none))) := by
  rw [descend?_concat] at hid
  obtain ⟨q, hq, hid⟩ := Option.bind_eq_some_iff.1 hid
  have hp := ha.parent?_of_child? hid
  refine h.lift ha hc.wellFormed he hq hf (hc.name?_rest (ha.acyclic hp)) (fun j _ hj => ?_)
    (hc.mirrors ha (h.at_descend? ha hq hf) (he.at? hf).1 hid)
  refine hc.sameSight ha hp (fun hb => hj ((Below.single hp).trans hb)) ?_
  rintro rfl
  exact hj (.refl a j)

/-! ## A node that gets another name -/

theorem sameSight_renamed (hj : j ≠ id) : SameSight a (a.renamed id name) j :=
  sameSight_of_core? (by rw [core?_renamed, if_neg hj])

theorem seen?_renamed (a : Arena) (id : NodeId) (name : String) (j : NodeId) :
    (a.renamed id name).seen? j = a.seen? j := by
  rw [seen?_eq_core, core?_renamed, seen?_eq_core]
  split
  · rw [Option.map_map]
    rfl
  · rfl

theorem name?_renamed (hid : a.contains id = true) : (a.renamed id new).name? id = some new := by
  obtain ⟨n, hn⟩ := contains_iff.1 hid
  rw [name?_eq_core, core?_renamed, if_pos rfl, core?_of_get? hn]
  rfl

section Renamed

variable (ha : a.WellFormed) (hd : ((a.children q).map a.name?).Nodup) (hid : a.child? q old = some id)
  (hfree : new = old ∨ a.child? q new = none)

include hd hid hfree in
/-- No other child has the name. -/
theorem eq_of_name?_new (hj : j ∈ a.children q) (hn : a.name? j = some new) : j = id := by
  have hfound := (child?_eq_some hd).2 ⟨hj, hn⟩
  rcases hfree with rfl | hnone
  · exact Option.some.inj (hfound.symm.trans hid)
  · rw [hnone] at hfound
    cases hfound

include ha hd hid hfree in
theorem distinct_renamed : (((a.renamed id new).children q).map (a.renamed id new).name?).Nodup := by
  have hself : (a.renamed id new).name? id = some new := name?_renamed (contains_of_child? hid)
  rw [(sameLinks_renamed a id new).children]
  refine List.Nodup.map_on (fun i hi j hj he => ?_) (ha.children_nodup q)
  by_cases hii : i = id <;> by_cases hji : j = id
  · rw [hii, hji]
  · rw [hii, hself, (sameSight_renamed hji).name] at he
    exact absurd (eq_of_name?_new hd hid hfree hj he.symm) hji
  · rw [hji, hself, (sameSight_renamed hii).name] at he
    exact absurd (eq_of_name?_new hd hid hfree hi he) hii
  · rw [(sameSight_renamed hii).name, (sameSight_renamed hji).name] at he
    exact List.inj_on_of_nodup_map hd hi hj he

include ha hd hid hfree in
theorem child?_renamed (m : String) : (a.renamed id new).child? q m =
    if m = new then some id else if m = old then none else a.child? q m := by
  have hself : (a.renamed id new).name? id = some new := name?_renamed (contains_of_child? hid)
  have hd' := distinct_renamed ha hd hid hfree
  have hmem : id ∈ a.children q := mem_children_of_child? hid
  have hold := name?_of_child? hid
  have hchildren := (sameLinks_renamed a id new).children q
  by_cases hnew : m = new
  · rw [if_pos hnew, child?_eq_some hd', hchildren, hnew]
    exact ⟨hmem, hself⟩
  rw [if_neg hnew]
  refine Option.ext fun i => ?_
  rw [child?_eq_some hd', hchildren]
  by_cases hi : i = id
  · subst hi
    refine iff_of_false (fun ⟨_, hn⟩ => hnew (Option.some.inj (hn.symm.trans hself))) fun hn => ?_
    split at hn
    · cases hn
    · rename_i hmo
      exact hmo (Option.some.inj ((name?_of_child? hn).symm.trans hold))
  · rw [(sameSight_renamed hi).name, ← child?_eq_some hd]
    split
    · rename_i hmo
      rw [hmo, hid, Option.some.injEq]
      exact iff_of_false (Ne.symm hi) nofun
    · rfl

end Renamed

/-- The directory with one of its entries under another name, which no other entry has. -/
theorem Mirrors.renamed (h : a.Mirrors q (.directory children)) (ha : a.WellFormed)
    (hid : a.child? q old = some id) (hfree : new = old ∨ children.lookup new = none)
    (hm : ∀ m, more.lookup m = if m = new then children.lookup old else if m = old then none else children.lookup m) :
    (a.renamed id new).Mirrors q (.directory more) := by
  have hl := sameLinks_renamed a id new
  have hb := hl.wellFormed ha
  have hp := ha.parent?_of_child? hid
  have hd := h.distinct q (.refl a q)
  have hfree' : new = old ∨ a.child? q new = none := hfree.imp_right fun hnone => by
    rcases eq_or_exists_of_rel (h.child ha new) with ⟨hno, -⟩ | ⟨-, f, -, hf, -⟩
    · exact hno
    · exact absurd (hnone.symm.trans hf) nofun
  have hchild := child?_renamed ha hd hid hfree'
  refine .of_children hb ?_ (distinct_renamed ha hd hid hfree') fun m => ?_
  · exact (seen?_renamed a id new q).trans h.seen
  · rw [hchild, Entry.child?, hm]
    by_cases hnew : m = new
    · -- The node itself has another name, and all below it is as it was.
      rw [if_pos hnew, if_pos hnew]
      rcases eq_or_exists_of_rel (h.child ha old) with ⟨hno, -⟩ | ⟨i, f, hi, hf, hmi⟩
      · rw [hid] at hno
        cases hno
      · obtain rfl : id = i := Option.some.inj (hid.symm.trans hi)
        rw [Entry.child?] at hf
        rw [hf]
        have hsame : ∀ c ∈ a.children id, ∀ j, a.Below c j → SameSight a (a.renamed id new) j := by
          rintro c hc j hj
          refine sameSight_renamed ?_
          rintro rfl
          exact ha.acyclic (ha.mem_children.1 hc) hj
        have hnames : ∀ c ∈ a.children id, (a.renamed id new).name? c = a.name? c := fun c hc =>
          (hsame c hc c (.refl a c)).name
        refine .some (.of_children hb ?_ ?_ fun k => ?_)
        · exact (seen?_renamed a id new id).trans hmi.seen
        · rw [hl.children, List.map_congr_left hnames]
          exact hmi.distinct id (.refl a id)
        · exact hmi.keep ha hb (child?_congr (hl.children id) hnames k) fun c hc => hsame c (mem_children_of_child? hc)
    rw [if_neg hnew, if_neg hnew]
    by_cases hold : m = old
    · rw [if_pos hold, if_pos hold]
      exact .none
    · rw [if_neg hold, if_neg hold]
      have := h.keep ha hb (m := m) (b := a.renamed id new) (by rw [hchild, if_neg hnew, if_neg hold]) fun c hc j hj => by
        refine sameSight_renamed ?_
        rintro rfl
        obtain rfl := ha.eq_of_below_siblings hp (ha.parent?_of_child? hc) (.refl a _) hj
        exact hold (Option.some.inj ((name?_of_child? hc).symm.trans (name?_of_child? hid)))
      rwa [hchild, if_neg hnew, if_neg hold] at this

/-! ## A node that takes the place of another -/

/-- What stands in the way of a name stands beside the node that is to get it. -/
theorem parent?_rival (ha : a.WellFormed) (hp : a.parent? id = some q) (hs : a.rival? id name = some s) :
    a.parent? s = some q := by
  obtain ⟨-, -, p, hpi, hps, -⟩ := rival?_spec ha hs
  rwa [hp.symm.trans hpi]

theorem sameSight_cleared (ha : a.WellFormed) (hp : a.parent? id = some q) (hj : ¬a.Below q j) :
    SameSight a (a.cleared id name) j := by
  unfold cleared
  split
  · rename_i s hs
    have hps := parent?_rival ha hp hs
    refine (ha.cut_cutAt s).sameSight ha hps (fun hb => hj ((Below.single hps).trans hb)) ?_
    rintro rfl
    exact hj (.refl a j)
  · exact ⟨rfl, rfl, rfl⟩

theorem name?_cleared (ha : a.WellFormed) (hp : a.parent? id = some q) : (a.cleared id name).name? q = a.name? q := by
  unfold cleared
  split
  · rename_i s hs
    exact (ha.cut_cutAt s).name?_rest (ha.acyclic (parent?_rival ha hp hs))
  · rfl

/-- The directory with one of its entries under another name, and without what had that name. -/
theorem Mirrors.renamed_cleared (h : a.Mirrors q (.directory children)) (ha : a.WellFormed)
    (hn : (children.map Prod.fst).Nodup) (hid : a.child? q old = some id)
    (hm : ∀ m, more.lookup m = if m = new then children.lookup old else if m = old then none else children.lookup m) :
    ((a.cleared id new).renamed id new).Mirrors q (.directory more) := by
  have hp := ha.parent?_of_child? hid
  unfold cleared
  cases hs : a.rival? id new with
  | none =>
    refine h.renamed ha hid ?_ hm
    rcases eq_or_exists_of_rel (h.child ha new) with ⟨-, hno⟩ | ⟨i, f, hi, hf, -⟩
    · exact .inr hno
    · rw [rival?, hp, Option.bind_some, hi, Option.filter_some] at hs
      have hi' : i = id := by simpa using hs
      subst hi'
      exact .inl (Option.some.inj ((name?_of_child? hi).symm.trans (name?_of_child? hid)))
  | some s =>
    obtain ⟨hne, -, p, hpi, -, hc⟩ := rival?_spec ha hs
    obtain rfl : q = p := Option.some.inj (hp.symm.trans hpi)
    have hcut := ha.cut_cutAt s
    have hnew : old ≠ new := by
      rintro rfl
      exact hne (Option.some.inj (hc.symm.trans hid))
    have hid' : (a.cutAt s).child? q old = some id := by
      rw [hcut.child?_rest ha (h.distinct q (.refl a q)) hc, if_neg hnew, hid]
    refine (hcut.mirrors ha h hn hc).renamed hcut.wellFormed hid' (.inr ?_) fun m => ?_
    · rw [Entry.lookup_setChild hn, if_pos rfl]
    · rw [hm, Entry.lookup_setChild hn, if_neg hnew, Entry.lookup_setChild hn]
      split <;> rfl

/-- A mirror with one of its nodes under another name, in the place of what had the name. -/
theorem Mirrors.rename (h : a.Mirrors r e) (ha : a.WellFormed) (he : e.Proper)
    (hid : a.descend? r (dir ++ [old]) = some id) (hf : e.at? dir = some (.directory children))
    (hm : ∀ m, more.lookup m = if m = new then children.lookup old else if m = old then none else children.lookup m) :
    ((a.cleared id new).renamed id new).Mirrors r (e.make dir (.directory more)) := by
  rw [descend?_concat] at hid
  obtain ⟨q, hq, hid⟩ := Option.bind_eq_some_iff.1 hid
  have hp := ha.parent?_of_child? hid
  have hb := (sameLinks_renamed (a.cleared id new) id new).wellFormed (ha.cleared id new)
  have hqid : q ≠ id := ha.parent?_ne hp
  refine h.lift ha hb he hq hf ((sameSight_renamed hqid).name.trans (name?_cleared ha hp)) (fun j _ hj => ?_)
    ((h.at_descend? ha hq hf).renamed_cleared ha (he.at? hf).1 hid hm)
  refine (sameSight_cleared ha hp hj).trans (sameSight_renamed ?_)
  rintro rfl
  exact hj (.single hp)

end Arena

end FileIndex
