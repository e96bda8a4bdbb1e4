/-
What a rename leaves of a tree. The node keeps its place in its directory but for the name, what had that name is gone
with all below it, and everything else is found where it was (`Tree.rename_retitles`).

Only the directory of the node has other entries behind the rename: a look-up in it by the new name finds the node, by
the old name nothing, and by any other name what it found (`child?_retitled_dir`). A way from the root differs from
what it was if it leads through the directory by one of the two names.
-/
import FileIndex.Proofs.Disk.Under
import FileIndex.Proofs.Index.Intact
import FileIndex.Proofs.Tree.Landing
import FileIndex.Proofs.Tree.Owning
import FileIndex.Proofs.Tree.Views

namespace FileIndex

open Arena

variable {a b : Arena} {id j k q r s c : NodeId} {n m : Node} {old new name last : String} {names front rest : List String}

namespace Arena

/-- The arena in which a node has another name, and what had that name is gone. -/
def retitled (a : Arena) (id : NodeId) (name : String) : Arena := (a.cleared id name).renamed id name

/-! ## The slots -/

theorem rival?_of_child? (ha : a.WellFormed) (hid : a.child? q old = some id) :
    a.rival? id new = if new = old then none else a.child? q new := by
  rw [rival?, ha.parent?_of_child? hid, Option.bind_some]
  split
  · rename_i hsame
    rw [hsame, hid]
    simp
  · rename_i hne
    cases hc : a.child? q new with
    | none => rfl
    | some s =>
      rw [Option.filter_some, if_pos]
      rw [decide_eq_true_eq]
      rintro rfl
      exact hne (Option.some.inj ((name?_of_child? hc).symm.trans (name?_of_child? hid)))

theorem wellFormed_retitled (ha : a.WellFormed) (id : NodeId) (name : String) : (a.retitled id name).WellFormed :=
  (sameLinks_renamed _ id name).wellFormed (ha.cleared id name)

theorem contains_retitled (ha : a.WellFormed) : (a.retitled id name).contains j = true ↔
    a.contains j = true ∧ ∀ s, a.rival? id name = some s → ¬a.Below s j :=
  contains_renamed ha (.refl a) (.refl _)

/-- A node without the child that gives way. -/
def without (o : Option NodeId) (n : Node) : Node := { n with children := n.children.filter fun c => o ≠ some c }

theorem without_none (n : Node) : without none n = n := by simp [without]

theorem without_some (h : n.children.Nodup) (s : NodeId) : without (some s) n = n.removeChild s := by
  rw [without, Node.removeChild, h.erase_eq_filter]
  congr 1
  refine List.filter_congr fun c _ => ?_
  by_cases hc : s = c
  · simp [hc]
  · simp [hc, Ne.symm hc]

/-- A node that is left has what it had, but for the name of the renamed one, for the known paths at and below that,
and for the directory that has lost an entry. -/
theorem core?_retitled (ha : a.WellFormed) (hj : (a.retitled id name).contains j = true) :
    (a.retitled id name).core? j = (a.core? j).map fun n =>
      without (a.rival? id name) (if j = id then n.rename name else n) := by
  obtain ⟨hlive, hrest⟩ := (contains_retitled ha).1 hj
  obtain ⟨n, hn⟩ := contains_iff.1 hlive
  have hnodup : n.children.Nodup := by
    rw [← children_of_get? hn]
    exact ha.children_nodup j
  have hcleared : (a.cleared id name).core? j = some (without (a.rival? id name) n.forgetPath) := by
    unfold cleared
    cases hs : a.rival? id name with
    | none => rw [without_none, core?_of_get? hn]
    | some s =>
      rw [without_some (n := n.forgetPath) hnodup]
      simp only [core?, (ha.cut_cutAt s).get?_rest j (hrest s hs), hn]
      rfl
  rw [retitled, core?_renamed, hcleared, core?_of_get? hn]
  split <;> rfl

/-- At and below the renamed node no path is known. -/
theorem knownPath_retitled (ha : a.WellFormed) (hid : a.contains id = true) (hb : a.Below id j)
    (hm : (a.retitled id name).get? j = some m) : m.knownPath = none := by
  have hl : SameLinks (a.cleared id name) ((a.cleared id name).modify id (·.rename name)) :=
    sameLinks_modify (fun _ => rfl) fun _ => rfl
  have hwf := hl.wellFormed (ha.cleared id name)
  have hlive := contains_cleared ha hid name
  have hbelow : (a.cleared id name).Below id j := by
    have hj := contains_iff.2 ⟨m, hm⟩
    have h := (below_renamed ha (.refl a) (.refl _) hj (i := id)).2 hb
    rwa [(sameLinks_renamed _ id name).below] at h
  have hmem : j ∈ ((a.cleared id name).modify id (·.rename name)).subtree id := by
    rw [hwf.mem_subtree (by rw [hl.contains, hlive]), hl.below]
    exact hbelow
  rw [retitled, renamed, get?_forgetPaths, if_pos hmem] at hm
  obtain ⟨n, -, rfl⟩ := Option.map_eq_some_iff.1 hm
  rfl

/-- Nodes elsewhere keep the paths that they know. -/
theorem knownPath_retitled_rest (ha : a.WellFormed) (hb : ¬a.Below id j) (hn : a.get? j = some n)
    (hm : (a.retitled id name).get? j = some m) : m.knownPath = n.knownPath := by
  have hrest := ((contains_retitled ha).1 (contains_iff.2 ⟨m, hm⟩)).2
  have hnot : ¬(a.cleared id name).Below id j := by
    rw [← (sameLinks_renamed (a.cleared id name) id name).below]
    exact fun h => hb ((below_renamed ha (.refl a) (.refl _) (contains_iff.2 ⟨m, hm⟩)).1 h)
  rw [retitled, (ha.cleared id name).get?_renamed_of_not_below hnot] at hm
  unfold cleared at hm
  split at hm
  · rename_i s hs
    rw [(ha.cut_cutAt s).get?_rest j (hrest s hs), hn] at hm
    obtain rfl := Option.some.inj hm
    rfl
  · rw [hn, Option.some.injEq] at hm
    rw [hm]

/-! ## Look-ups of one name -/

section Directory

variable (ha : a.WellFormed) (hd : ((a.children q).map a.name?).Nodup) (hid : a.child? q old = some id)

include ha hd hid in
/-- In the directory of the renamed node. -/
theorem child?_retitled_dir (name : String) : (a.retitled id new).child? q name =
    if name = new then some id else if name = old then none else a.child? q name := by
  have hp := ha.parent?_of_child? hid
  have hrival : a.rival? id new = if new = old then none else a.child? q new := rival?_of_child? ha hid
  cases hs : a.rival? id new with
  | none =>
    have hcleared : a.cleared id new = a := by rw [cleared, hs]
    rw [retitled, hcleared]
    refine child?_renamed ha hd hid ?_ name
    by_cases hsame : new = old
    · exact .inl hsame
    · rw [if_neg hsame, hs] at hrival
      exact .inr hrival.symm
  | some s =>
    have hcleared : a.cleared id new = a.cutAt s := by rw [cleared, hs]
    have hne : new ≠ old := by
      rintro rfl
      rw [if_pos rfl, hs] at hrival
      cases hrival
    have hsc : a.child? q new = some s := by rw [← hs, hrival, if_neg hne]
    have hcut := ha.cut_cutAt s
    have hchild := hcut.child?_rest ha hd hsc
    rw [retitled, hcleared, child?_renamed hcut.wellFormed (hcut.distinct_rest ha (ha.parent?_of_child? hsc) hd)
      (by rw [hchild, if_neg hne.symm, hid]) (.inr (by rw [hchild, if_pos rfl])) name, hchild]
    split
    · rfl
    · rfl

include ha hid in
/-- In any other directory. -/
theorem child?_retitled_rest (hk : (a.retitled id new).contains k = true) (hne : k ≠ q) (name : String) :
    (a.retitled id new).child? k name = a.child? k name := by
  have hp := ha.parent?_of_child? hid
  obtain ⟨-, hrest⟩ := (contains_retitled ha).1 hk
  have hrp : ∀ s, a.rival? id new = some s → a.parent? s = some q := fun s hs => parent?_rival ha hp hs
  have hchildren : (a.retitled id new).children k = a.children k := by
    rw [retitled, (sameLinks_renamed _ id new).children]
    unfold cleared
    split
    · rename_i s hs
      exact ((ha.cut_cutAt s).sameSight ha (hrp s hs) (hrest s hs) hne).children
    · rfl
  rw [child?, child?, hchildren]
  refine List.find?_congr fun c hc => ?_
  have hcp := ha.mem_children.1 hc
  have hcid : c ≠ id := by
    rintro rfl
    exact hne (Option.some.inj (hcp.symm.trans hp))
  rw [retitled, (sameSight_renamed hcid).name]
  unfold cleared
  split
  · rename_i s hs
    rw [(ha.cut_cutAt s).name?_rest fun hsc => hrest s hs ?_]
    refine hsc.of_parent? ?_ hcp
    rintro rfl
    exact hne (Option.some.inj (hcp.symm.trans (hrp s hs)))
  · rfl

/-! ## Ways -/

include ha hid in
/-- From where no way leads to the directory, all ways lead where they led. -/
theorem descend?_retitled_apart (hk : (a.retitled id new).contains k = true) (hkq : ¬a.Below k q) (names : List String) :
    (a.retitled id new).descend? k names = a.descend? k names := by
  induction names generalizing k with
  | nil => rfl
  | cons name names ih =>
    have hne : k ≠ q := by
      rintro rfl
      exact hkq (.refl a k)
    have hchild := child?_retitled_rest ha hid hk hne name
    rw [descend?, descend?, hchild]
    cases hc : a.child? k name with
    | none => rfl
    | some c =>
      have hcp := ha.parent?_of_child? hc
      rw [hc] at hchild
      have hlive := contains_of_parent? ((wellFormed_retitled ha id new).parent?_of_child? hchild)
      exact ih hlive fun hcq => hkq ((Below.single hcp).trans hcq)

include ha hid in
/-- What stands above the directory is left. -/
theorem contains_retitled_above (hk : a.Below k q) : (a.retitled id new).contains k = true := by
  have hp := ha.parent?_of_child? hid
  refine (contains_retitled ha).2 ⟨ha.contains_of_below hk (ha.contains_parent hp), fun s hs hsk => ?_⟩
  exact ha.acyclic (parent?_rival ha hp hs) (hsk.trans hk)

include ha hid in
/-- The way to the directory is the same. -/
theorem descend?_retitled_front (hq : a.descend? k front = some q) : (a.retitled id new).descend? k front = some q := by
  induction front generalizing k with
  | nil => exact hq
  | cons name front ih =>
    have hk := ha.below_of_descend? hq
    obtain ⟨c, hc, hcq⟩ := Option.bind_eq_some_iff.1 hq
    have hne : k ≠ q := by
      rintro rfl
      exact ha.acyclic (ha.parent?_of_child? hc) (ha.below_of_descend? hcq)
    rw [descend?, child?_retitled_rest ha hid (contains_retitled_above ha hid hk) hne, hc]
    exact ih hcq

include ha hd hid in
/-- Behind the new name all is found that was found behind the old one. -/
theorem descend?_retitled_moved (hq : a.descend? k front = some q) (rest : List String) :
    (a.retitled id new).descend? k (front ++ new :: rest) = a.descend? k (front ++ old :: rest) := by
  have hlive := contains_of_parent? ((wellFormed_retitled ha id new).parent?_of_child?
    ((child?_retitled_dir ha hd hid new).trans (if_pos rfl)))
  rw [descend?_append, descend?_append, hq, descend?_retitled_front ha hid hq, Option.bind_some, Option.bind_some,
    descend?, descend?, hid, child?_retitled_dir ha hd hid, if_pos rfl]
  exact descend?_retitled_apart ha hid hlive (ha.acyclic (ha.parent?_of_child? hid)) rest

include ha hd hid in
/-- Behind the old name nothing is found, if it is another one. -/
theorem descend?_retitled_left (hq : a.descend? k front = some q) (hne : new ≠ old) (rest : List String) :
    (a.retitled id new).descend? k (front ++ old :: rest) = none := by
  rw [descend?_append, descend?_retitled_front ha hid hq, Option.bind_some, descend?, child?_retitled_dir ha hd hid,
    if_neg hne.symm, if_pos rfl]
  rfl

include ha hd hid in
/-- By other ways all is found that was found. -/
theorem descend?_retitled_elsewhere (hq : a.descend? k front = some q) (hold : ¬front ++ [old] <+: names)
    (hnew : ¬front ++ [new] <+: names) : (a.retitled id new).descend? k names = a.descend? k names := by
  have hk := ha.below_of_descend? hq
  induction front generalizing k names with
  | nil =>
    obtain rfl : k = q := Option.some.inj hq
    cases names with
    | nil => rfl
    | cons name names =>
      have hname : name ≠ new ∧ name ≠ old := by
        constructor <;> rintro rfl
        · exact hnew ⟨names, rfl⟩
        · exact hold ⟨names, rfl⟩
      have hchild : (a.retitled id new).child? k name = _ := child?_retitled_dir ha hd hid name
      rw [if_neg hname.1, if_neg hname.2] at hchild
      rw [descend?, descend?, hchild]
      cases hc : a.child? k name with
      | none => rfl
      | some c =>
        rw [hc] at hchild
        exact descend?_retitled_apart ha hid
          (contains_of_parent? ((wellFormed_retitled ha id new).parent?_of_child? hchild))
          (ha.acyclic (ha.parent?_of_child? hc)) names
  | cons name front ih =>
    cases names with
    | nil => rfl
    | cons other names =>
      obtain ⟨c, hc, hcq⟩ := Option.bind_eq_some_iff.1 hq
      have hne : k ≠ q := by
        rintro rfl
        exact ha.acyclic (ha.parent?_of_child? hc) (ha.below_of_descend? hcq)
      have hchild : (a.retitled id new).child? k other = a.child? k other :=
        child?_retitled_rest ha hid (contains_retitled_above ha hid hk) hne other
      rw [descend?, descend?, hchild]
      cases hi : a.child? k other with
      | none => rfl
      | some i =>
        rw [hi] at hchild
        have hlive := contains_of_parent? ((wellFormed_retitled ha id new).parent?_of_child? hchild)
        by_cases hiq : a.Below i q
        · -- Only one entry of a directory lies on the way, so the two names are one.
          obtain rfl : i = c := ha.eq_of_below_siblings (ha.parent?_of_child? hi) (ha.parent?_of_child? hc) hiq
            (ha.below_of_descend? hcq)
          obtain rfl : other = name := Option.some.inj ((name?_of_child? hi).symm.trans (name?_of_child? hc))
          exact ih hcq (fun h => hold (by simpa using h)) (fun h => hnew (by simpa using h)) hiq
        · exact descend?_retitled_apart ha hid hlive hiq names

end Directory

end Arena

namespace Tree

variable {t : Tree} {oldPath newPath p : Path} {cs : List Path.Component}

/-! ## Paths -/

/-- What a rename in a tree leaves, if it has an answer. -/
structure Retitles (t : Tree) (a b : Arena) (oldPath newPath : Path) (id : NodeId) : Prop where
  located : t.locate a oldPath = .ok (some id)
  moved : ∀ r : Path, r.isAbsolute = false → t.locate b (newPath.join r) = t.locate a (oldPath.join r)
  left : newPath.same oldPath = false → ∀ r : Path, r.isAbsolute = false → t.locate b (oldPath.join r) = .ok none
  elsewhere : ∀ p : Path, p.startsWith oldPath = false → p.startsWith newPath = false → t.locate b p = t.locate a p
  released : ∀ j, a.contains j = true ∧ b.contains j = false ↔
    newPath.same oldPath = false ∧ ∃ s, t.locate a newPath = .ok (some s) ∧ j ∈ a.subtree s
  projected : ∃ m, b.get? id = some m ∧ m.name = newPath.entryName ∧
    m.fuzzy = Projection.fuzzy.apply newPath.entryName ∧ m.word = Projection.word.apply newPath.entryName
  forgotten : ∀ j ∈ a.subtree id, ∀ m, b.get? j = some m → m.knownPath = none
  /-- Of every node that is left all else is as it was; children that are released are children no more. -/
  frame : ∀ j m, b.get? j = some m → ∃ n, a.get? j = some n ∧
    (j ≠ id → m.name = n.name ∧ m.fuzzy = n.fuzzy ∧ m.word = n.word) ∧
    (j ∉ a.subtree id → m.knownPath = n.knownPath) ∧ m.parent = n.parent ∧ m.anchor = n.anchor ∧
    m.metadata = n.metadata ∧ m.flags = n.flags ∧ m.children = n.children.filter (b.contains ·)

/-- The names that lead to a path behind one that names lead to. -/
theorem names?_of_append (h : p.components = t.area.path.components ++ names.map .name ++ cs) :
    t.names? p = (Path.plainNames? cs).map (names ++ ·) := by
  refine Option.ext fun more => ?_
  rw [names?_eq_some, h, List.append_assoc, List.append_cancel_left_eq, Option.map_eq_some_iff]
  simp only [Path.plainNames?_eq_some]
  constructor
  · intro he
    obtain ⟨pre, rest, rfl, hpre, rfl⟩ := List.append_eq_map_iff.1 he
    exact ⟨rest, rfl, by rw [List.map_injective_iff.2 (fun _ _ => Path.Component.name.inj) hpre]⟩
  · rintro ⟨rest, rfl, rfl⟩
    rw [List.map_append]

/-- How the node of a rename stands in its tree: in a directory, under the last name of its path. -/
structure Held (t : Tree) (a : Arena) (oldPath newPath : Path) (root q id : NodeId) (front : List String)
    (old new : String) : Prop where
  rooted : t.root = some root
  way : a.descend? root front = some q
  child : a.child? q old = some id
  old : oldPath.components = t.area.path.components ++ front.map .name ++ [.name old]
  new : newPath.components = t.area.path.components ++ front.map .name ++ [.name new]

theorem exists_held (hn : t.renames? a oldPath newPath = some id) (hname : newPath.name? = some new) :
    ∃ root q front old, t.Held a oldPath newPath root q id front old new := by
  have hcond : oldPath.sameParent newPath = true ∧ ¬oldPath.same t.area.path = true := by
    unfold renames? at hn
    split at hn
    · assumption
    · cases hn
  obtain ⟨root, names, hr, hnames, hid⟩ := located?_eq_some.1 (located?_of_renames? hn)
  rw [names?_eq_some] at hnames
  rcases List.eq_nil_or_concat names with rfl | ⟨front, old, rfl⟩
  · exact absurd (by rw [Path.same, hnames]; simp) hcond.2
  rw [List.concat_eq_append] at hnames hid
  rw [List.map_append, ← List.append_assoc] at hnames
  obtain ⟨c, hc⟩ := Path.components_of_sameParent hcond.1 hnames
  obtain ⟨q, hq, hchild⟩ := Option.bind_eq_some_iff.1 (descend?_concat.symm.trans hid)
  have hlast := Path.getLast?_of_name? hname
  rw [hc, List.getLast?_concat, Option.some.injEq] at hlast
  exact ⟨root, q, front, old, hr, hq, hchild, hnames, by rw [hc, hlast]⟩

namespace Held

variable {root : NodeId} (h : t.Held a oldPath newPath root q id front old new)

include h

theorem entryName : newPath.entryName = new := Path.entryName_of_components h.new

theorem same_iff : newPath.same oldPath = true ↔ new = old := by
  rw [Path.same, beq_iff_eq, h.old, h.new, List.append_cancel_left_eq]
  simp

theorem located?_eq (b : Arena) (p : Path) : t.located? b p = (t.names? p).bind (b.descend? root) := by
  rw [located?, h.rooted, Option.bind_some]

omit h in
/-- The names behind a path are those behind its directory. -/
theorem names?_join {path : Path} {last : String}
    (hpath : path.components = t.area.path.components ++ front.map .name ++ [.name last]) {r : Path}
    (hr : r.isAbsolute = false) : t.names? (path.join r) =
      (Path.plainNames? (r.components.filter (· ≠ .here))).map fun rest => front ++ last :: rest := by
  have hne : path.components ≠ [] := by rw [hpath]; simp
  have hjoin : (path.join r).components = t.area.path.components ++ (front ++ [last]).map .name ++
      r.components.filter (· ≠ .here) := by
    rw [Path.components_join, if_neg (by simp [hr]), if_neg hne, hpath]
    simp
  rw [names?_of_append hjoin]
  simp

theorem located?_new : t.located? a newPath = a.child? q new := by
  have hnames : t.names? newPath = some (front ++ [new]) := names?_eq_some.2 (by rw [h.new]; simp)
  rw [h.located?_eq, hnames, Option.bind_some, descend?_concat, h.way, Option.bind_some]

/-- What gives way is what stands at the new path, if that is another one. -/
theorem rival?_eq_some (ha : a.WellFormed) : a.rival? id new = some s ↔
    newPath.same oldPath = false ∧ t.located? a newPath = some s := by
  rw [rival?_of_child? ha h.child, h.located?_new, ← Bool.not_eq_true, h.same_iff]
  split <;> simp_all

/-! ## The rename -/

section

variable (ha : a.WellFormed) (hroot : a.contains root = true)
include ha

theorem contains_root_retitled : ∀ r, t.root = some r → (a.retitled id new).contains r = true := fun r hr => by
  obtain rfl := Option.some.inj (h.rooted.symm.trans hr)
  exact contains_retitled_above ha h.child (ha.below_of_descend? h.way)

theorem locate_retitled (p : Path) :
    t.locate (a.retitled id new) p = .ok ((t.names? p).bind ((a.retitled id new).descend? root)) := by
  rw [locate_eq (wellFormed_retitled ha id new) (h.contains_root_retitled ha), h.located?_eq]

/-- Of all but the node itself the names stay, and of all nodes what is known of them and where they stand. -/
theorem frame_retitled {m : Node} (hm : (a.retitled id new).get? j = some m) : ∃ n, a.get? j = some n ∧
    (j ≠ id → m.name = n.name ∧ m.fuzzy = n.fuzzy ∧ m.word = n.word) ∧
    (j ∉ a.subtree id → m.knownPath = n.knownPath) ∧ m.parent = n.parent ∧ m.anchor = n.anchor ∧
    m.metadata = n.metadata ∧ m.flags = n.flags ∧
    m.children = n.children.filter ((a.retitled id new).contains ·) := by
  have hid := contains_of_parent? (ha.parent?_of_child? h.child)
  have hjb := contains_iff.2 ⟨m, hm⟩
  obtain ⟨hj, hrest⟩ := (contains_retitled ha).1 hjb
  obtain ⟨n, hn⟩ := contains_iff.1 hj
  have hcore := core?_retitled ha hjb
  rw [core?_of_get? hm, core?_of_get? hn, Option.map_some, Option.some.injEq] at hcore
  have hsame : m.parent = n.parent ∧ m.anchor = n.anchor ∧ m.metadata = n.metadata ∧ m.flags = n.flags := by
    split at hcore <;> exact ⟨(congrArg Node.parent hcore :), (congrArg Node.anchor hcore :),
      (congrArg Node.metadata hcore :), (congrArg Node.flags hcore :)⟩
  have hchildren : m.children = n.children.filter fun c => a.rival? id new ≠ some c := by
    have := congrArg Node.children hcore
    split at this <;> exact this
  refine ⟨n, hn, fun hne => ?_, fun hmem => ?_, hsame.1, hsame.2.1, hsame.2.2.1, hsame.2.2.2, ?_⟩
  · rw [if_neg hne] at hcore
    exact ⟨(congrArg Node.name hcore :), (congrArg Node.fuzzy hcore :), (congrArg Node.word hcore :)⟩
  · exact knownPath_retitled_rest ha (fun hb => hmem ((ha.mem_subtree hid).2 hb)) hn hm
  · rw [hchildren]
    -- A child of a node that is left is released only if it is the one that gives way.
    refine List.filter_congr fun c hc => ?_
    have hcp : a.parent? c = some j := by rwa [← ha.mem_children, children_of_get? hn]
    rw [Bool.eq_iff_iff, decide_eq_true_eq, contains_retitled ha]
    refine ⟨fun hne => ⟨contains_of_parent? hcp, fun s hs hsc => hrest s hs (hsc.of_parent? ?_ hcp)⟩, fun hc he => ?_⟩
    · rintro rfl
      exact hne hs
    · exact hc.2 c he (.refl a c)

/-- The node has the new name and what is made of it. -/
theorem projected_retitled : ∃ m, (a.retitled id new).get? id = some m ∧ m.name = new ∧
    m.fuzzy = Projection.fuzzy.apply new ∧ m.word = Projection.word.apply new := by
  have hid := contains_of_parent? (ha.parent?_of_child? h.child)
  obtain ⟨m, hm⟩ := contains_iff.1 ((contains_retitled ha).2 ⟨hid, fun s hs => not_below_rival ha hs⟩)
  have hcore := core?_retitled ha (contains_iff.2 ⟨m, hm⟩)
  obtain ⟨n, hn⟩ := contains_iff.1 hid
  rw [core?_of_get? hm, core?_of_get? hn, Option.map_some, if_pos rfl, Option.some.injEq] at hcore
  exact ⟨m, hm, (congrArg Node.name hcore :), (congrArg Node.fuzzy hcore :), (congrArg Node.word hcore :)⟩

include hroot

omit ha in
theorem contains_rooted : ∀ r, t.root = some r → a.contains r = true := fun r hr => by
  obtain rfl := Option.some.inj (h.rooted.symm.trans hr)
  exact hroot

theorem locate_eq_bind (p : Path) : t.locate a p = .ok ((t.names? p).bind (a.descend? root)) := by
  rw [Tree.locate_eq ha (h.contains_rooted hroot), h.located?_eq]

/-- What is released stands at or below what was at the new path. -/
theorem released_retitled (j : NodeId) : a.contains j = true ∧ (a.retitled id new).contains j = false ↔
    newPath.same oldPath = false ∧ ∃ s, t.locate a newPath = .ok (some s) ∧ j ∈ a.subtree s := by
  have hgone : a.contains j = true → (¬(a.retitled id new).contains j = true ↔
      ∃ s, a.rival? id new = some s ∧ a.Below s j) := fun hj => by
    rw [contains_retitled ha]
    simp [hj]
  rw [Tree.locate_eq ha (h.contains_rooted hroot)]
  simp only [Except.ok.injEq]
  constructor
  · rintro ⟨hj, hjb⟩
    obtain ⟨s, hs, hsj⟩ := (hgone hj).1 (by rw [hjb]; simp)
    obtain ⟨hne, hloc⟩ := (h.rival?_eq_some ha).1 hs
    exact ⟨hne, s, hloc, (ha.mem_subtree (ha.contains_of_below hsj hj)).2 hsj⟩
  · rintro ⟨hne, s, hloc, hj⟩
    have hs := (h.rival?_eq_some ha).2 ⟨hne, hloc⟩
    have hsj := ha.below_of_mem_subtree hj
    have hjlive := hsj.contains (contains_of_parent? (parent?_rival ha (ha.parent?_of_child? h.child) hs))
    exact ⟨hjlive, by simpa using (hgone hjlive).2 ⟨s, hs, hsj⟩⟩

variable (hd : ((a.children q).map a.name?).Nodup)
include hd

/-- What was found behind the old path is found behind the new one. -/
theorem moved_retitled {r : Path} (hr : r.isAbsolute = false) :
    t.locate (a.retitled id new) (newPath.join r) = t.locate a (oldPath.join r) := by
  rw [h.locate_eq_bind ha hroot, h.locate_retitled ha, names?_join h.old hr, names?_join h.new hr]
  cases Path.plainNames? (r.components.filter (· ≠ .here)) with
  | none => rfl
  | some rest => exact congrArg _ (descend?_retitled_moved ha hd h.child h.way rest)

omit hroot in
/-- Behind the old path nothing is found, if it is another one. -/
theorem left_retitled (hne : newPath.same oldPath = false) {r : Path} (hr : r.isAbsolute = false) :
    t.locate (a.retitled id new) (oldPath.join r) = .ok none := by
  rw [h.locate_retitled ha, names?_join h.old hr]
  cases Path.plainNames? (r.components.filter (· ≠ .here)) with
  | none => rfl
  | some rest =>
    refine congrArg _ (descend?_retitled_left ha hd h.child h.way (fun he => ?_) rest)
    rw [h.same_iff.2 he] at hne
    cases hne

/-- Elsewhere all is found as it was. -/
theorem elsewhere_retitled (hpo : p.startsWith oldPath = false) (hpn : p.startsWith newPath = false) :
    t.locate (a.retitled id new) p = t.locate a p := by
  rw [h.locate_eq_bind ha hroot, h.locate_retitled ha]
  cases hnames : t.names? p with
  | none => rfl
  | some names =>
    rw [names?_eq_some] at hnames
    have hnot : ∀ {path : Path} {last : String}, p.startsWith path = false →
        path.components = t.area.path.components ++ front.map .name ++ [.name last] → ¬front ++ [last] <+: names := by
      rintro path last hno hpath ⟨rest, rfl⟩
      rw [Path.startsWith, hpath, hnames, ← Bool.not_eq_true, List.isPrefixOf_iff_prefix] at hno
      exact hno ⟨rest.map .name, by simp⟩
    exact congrArg _ (descend?_retitled_elsewhere ha hd h.child h.way (hnot hpo h.old) (hnot hpn h.new))

theorem retitles : t.Retitles a (a.retitled id new) oldPath newPath id where
  located := by
    have hold : t.names? oldPath = some (front ++ [old]) := names?_eq_some.2 (by rw [h.old]; simp)
    rw [h.locate_eq_bind ha hroot, hold, Option.bind_some, descend?_concat, h.way, Option.bind_some, h.child]
  moved _ hr := h.moved_retitled ha hroot hd hr
  left hne _ hr := h.left_retitled ha hd hne hr
  elsewhere _ hpo hpn := h.elsewhere_retitled ha hroot hd hpo hpn
  released := h.released_retitled ha hroot
  projected := by
    rw [h.entryName]
    exact h.projected_retitled ha
  forgotten _ hj _ hm :=
    knownPath_retitled ha (contains_of_parent? (ha.parent?_of_child? h.child)) (ha.below_of_mem_subtree hj) hm
  frame _ _ hm := h.frame_retitled ha hm

end

end Held

/-- **What a rename does to a tree.** In a tree in order, in which siblings have names of their own, a rename to a plain
name in the same directory comes back; if it has an answer, this is the node at the old path, which is found at the new
path with all below it, while what was there is gone and all else is as it was. -/
theorem rename_retitles (ha : a.WellFormed) (hroot : ∀ r, t.root = some r → a.contains r = true)
    (hd : ∀ r q, t.root = some r → a.Below r q → ((a.children q).map a.name?).Nodup)
    (hmove : oldPath.sameParent newPath = true) (hname : newPath.name? = some new) :
    ∃ found b, t.rename a oldPath newPath = .ok (found, b) ∧
      ∀ id, found = some id → t.Retitles a b oldPath newPath id := by
  rw [rename_eq ha hroot hmove]
  cases hn : t.renames? a oldPath newPath with
  | none => exact ⟨none, a, rfl, nofun⟩
  | some id =>
    refine ⟨some id, _, rfl, fun id' he => ?_⟩
    obtain rfl := Option.some.inj he
    obtain ⟨root, q, front, old, hheld⟩ := exists_held hn hname
    rw [hheld.entryName]
    exact hheld.retitles ha (hroot root hheld.rooted) (hd root q hheld.rooted (ha.below_of_descend? hheld.way))

/-- The tree of a directory with two files. -/
def filledTree : Tree where
  area := ⟨⟨"a"⟩, true⟩
  root := some ⟨0⟩
  includeHidden := true

/-- One of the files takes the place of the other. -/
theorem rename_retitles_filled : filledTree.Owns Index.filledIndex.arena ∧
    (⟨"a/x"⟩ : Path).sameParent ⟨"a/y"⟩ = true ∧ (⟨"a/y"⟩ : Path).name? = some "y" ∧
    ∃ b, filledTree.rename Index.filledIndex.arena ⟨"a/x"⟩ ⟨"a/y"⟩ = .ok (some ⟨1⟩, b) ∧
      filledTree.Retitles Index.filledIndex.arena b ⟨"a/x"⟩ ⟨"a/y"⟩ ⟨1⟩ := by
  have hcollect : Tree.collect (Index.rootDisk Index.filled) ⟨⟨"a"⟩, true⟩ true {} {} =
      .ok (some (filledTree, Index.filledIndex.arena)) := by cbv
  obtain ⟨found, hf, -, h⟩ := collect_owns (Index.valid_rootDisk 0 0) ⟨⟨"a"⟩, true⟩ true {}
  have hs := h filledTree Index.filledIndex.arena (Except.ok.inj (hf.symm.trans hcollect))
  obtain ⟨found, b, hb, hr⟩ : ∃ found b, filledTree.rename Index.filledIndex.arena ⟨"a/x"⟩ ⟨"a/y"⟩ = .ok (found, b) ∧
      ∀ id, found = some id → filledTree.Retitles Index.filledIndex.arena b ⟨"a/x"⟩ ⟨"a/y"⟩ id :=
    rename_retitles hs.toWellFormed hs.contains_root (fun _ q _ _ => hs.distinct q) rfl rfl
  have hfound : filledTree.renames? Index.filledIndex.arena ⟨"a/x"⟩ ⟨"a/y"⟩ = some ⟨1⟩ := by decide
  rw [rename_eq hs.toWellFormed hs.contains_root rfl, hfound] at hb
  cases hb
  exact ⟨hs, rfl, rfl, _, rename_eq hs.toWellFormed hs.contains_root rfl, hr _ rfl⟩

end Tree

end FileIndex
