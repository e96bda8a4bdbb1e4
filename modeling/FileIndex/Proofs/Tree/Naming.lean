/-
The names of roots. A look-up in a tree starts from the path of the area, while the path of a node is put together from
the directory that the root is anchored in, the name of the root and the names below. The two agree where the name of
the root leads from that directory to the path of the area (`Tree.Fits`). The name that a collect or an addition gives
to a root does so unless the path goes up at its end (`Path.Climbs`).
-/
import FileIndex.Proofs.Arena.Snapshots
import FileIndex.Proofs.Tree.Growing

namespace FileIndex

open Arena

namespace Path

variable {p q : Path} {name other : String}

/-! ## Names of paths -/

/-- Whether the entry of a name, in the directory of a path, lies at that path. -/
def NamedBy (p : Path) (name : String) : Prop := ((p.parent?.getD ⟨""⟩).child name).components = p.components

/-- Whether a relative path goes up at its end, from something in front of that. -/
def Climbs (p : Path) : Prop :=
  p.isAbsolute = false ∧ ∃ front, p.components = front ++ [.up] ∧ front ≠ [] ∧ front ≠ [.here]

theorem namedBy_congr (h : components ⟨name⟩ = components ⟨other⟩) : p.NamedBy name ↔ p.NamedBy other := by
  rw [NamedBy, NamedBy, child, child, components_join_congr rfl h]

/-- The directory of a path has the components in front of the last one, if there is any. -/
theorem components_dir (p : Path) : (p.parent?.getD ⟨""⟩).components = p.components.dropLast := by
  cases hq : p.parent? with
  | some q =>
    obtain ⟨c, hc⟩ := components_of_parent? hq
    rw [hc, List.dropLast_concat, Option.getD_some]
  | none =>
    cases hl : p.components.getLast? with
    | none =>
      rw [List.getLast?_eq_none_iff] at hl
      rw [hl]
      rfl
    | some c =>
      have hroot : c = .root := by
        by_contra hc
        have hsome := parent?_isSome hl hc
        rw [hq] at hsome
        cases hsome
      rw [components_of_getLast? hl (.inl hroot)]
      rfl

theorem namedBy_congr_path (h : p.components = q.components) : p.NamedBy name ↔ q.NamedBy name := by
  have hdir : (p.parent?.getD ⟨""⟩).components = (q.parent?.getD ⟨""⟩).components := by
    rw [components_dir, components_dir, h]
  rw [NamedBy, NamedBy, child, child, components_join_congr hdir rfl, h]

/-- A path is named by the name that it ends in. -/
theorem namedBy_of_components {base : List Component} (h : p.components = base ++ [.name name]) : p.NamedBy name := by
  have hname : components ⟨name⟩ = [.name name] := components_of_name? (p := p) (by simp [name?, h])
  rw [NamedBy, components_child_of_single hname, components_dir, h, List.dropLast_concat]

theorem components_entryName_congr (h : p.components = q.components) :
    components ⟨p.entryName⟩ = components ⟨q.entryName⟩ := by
  have hname : p.name? = q.name? := by rw [name?, name?, h]
  rw [entryName, entryName, hname]
  cases q.name? with
  | some n => rfl
  | none => exact h

/-- The components in front of a last one that goes up hold the dot only in front. -/
theorem filter_ne_here_eq_nil (hne : q.components ≠ []) :
    q.components.filter (· ≠ .here) = [] ↔ q.components = [.here] := by
  refine ⟨fun h => ?_, fun h => by rw [h]; rfl⟩
  have hall : ∀ c ∈ q.components, c = .here := by simpa [List.filter_eq_nil_iff] using h
  refine components_of_getLast? ?_ (.inr rfl)
  rw [List.getLast?_eq_some_getLast hne, hall _ (List.getLast_mem hne)]

/-- **The name of a path's entry leads back to the path unless the path climbs**: it is then the whole path again. -/
theorem namedBy_entryName : p.NamedBy p.entryName ↔ ¬p.Climbs := by
  by_cases hup : p.components.getLast? = some .up
  · obtain ⟨q, hq⟩ := Option.isSome_iff_exists.1 (parent?_isSome hup (by simp))
    obtain ⟨c, hc⟩ := components_of_parent? hq
    obtain rfl : c = .up := by simpa [hc] using hup
    have hentry : p.entryName = p.spelling := by
      rw [entryName, name?, hup]
      rfl
    have hclimbs : p.Climbs ↔ p.isAbsolute = false ∧ q.components ≠ [] ∧ q.components ≠ [.here] := by
      refine and_congr_right fun _ => ⟨?_, fun h => ⟨q.components, hc, h⟩⟩
      rintro ⟨front, hfront, h⟩
      obtain rfl := List.append_cancel_right (hfront.symm.trans hc)
      exact h
    rw [NamedBy, hentry, hq, Option.getD_some, child, components_join, hclimbs]
    by_cases habs : p.isAbsolute = true
    · simp [habs]
    · by_cases hnil : q.components = []
      · simp [habs, hnil]
      · rw [if_neg habs, if_neg hnil, hc, List.append_cancel_left_eq, List.filter_append]
        have hhere := filter_ne_here_eq_nil hnil
        simp [habs, hnil, ← hhere]
  · refine iff_of_true (components_entry hup) ?_
    rintro ⟨-, front, hfront, -⟩
    exact hup (by rw [hfront, List.getLast?_concat])

end Path

namespace Tree

variable {a b c : Arena} {t t' u : Tree} {d : Disk} {p way : Path} {metadata : Metadata} {id j r current root : NodeId}
  {name : String} {names : List String} {top made : Option NodeId} {rest : List Path.Component} {directory : Option Path}

/-! ## Roots that fit -/

/-- Whether the name of the root, if it is there, leads to the path of the area. -/
def Fits (t : Tree) (a : Arena) : Prop :=
  ∀ r name, t.root = some r → a.name? r = some name → t.area.path.NamedBy name

theorem Fits.congr (h : t.Fits a) (ha : u.area = t.area) (hr : ∀ r name, u.root = some r → b.name? r = some name →
    t.root = some r ∧ a.name? r = some name) : u.Fits b := by
  intro r name hur hbn
  obtain ⟨htr, han⟩ := hr r name hur hbn
  rw [ha]
  exact h r name htr han

theorem fits_iff (hr : t.root = some r) (hn : a.name? r = some name) : t.Fits a ↔ t.area.path.NamedBy name := by
  refine ⟨fun h => h r name hr hn, fun h r' name' hr' hn' => ?_⟩
  obtain rfl := Option.some.inj (hr.symm.trans hr')
  obtain rfl := Option.some.inj (hn.symm.trans hn')
  exact h

/-! ## Roots that are made -/

theorem addBelow_name?_old {added : Added} (ha : a.WellFormed) (hcur : a.contains current = true)
    (hadd : t.addBelow d p metadata a top current way rest = .ok added) (hj : a.contains j = true) :
    added.arena.name? j = a.name? j := by
  induction rest generalizing a top current way with
  | nil =>
    cases hadd
    rfl
  | cons k rest ih =>
    cases k with
    | name name =>
      cases hc : a.child? current name with
      | some child =>
        rw [addBelow_found ha hcur hc] at hadd
        exact ih ha (contains_of_parent? (ha.parent?_of_child? hc)) hadd hj
      | none =>
        obtain ⟨child, b, hmake, hs⟩ := sprouted_makeNode ha t d p metadata name (way.child name) rest
        obtain ⟨c, hattach, hs⟩ := hs.attach hcur
        rw [addBelow_missing ha hcur hc hmake hattach] at hadd
        rw [ih hs.wellFormed hs.contains_top hadd (hs.contains_old hj), hs.toGrown.name?_old hj]
    | root | here | up =>
      cases hadd
      rfl

/-- A root that is made has a name that means what the name of the area's entry means. -/
theorem ensureRoot_name? (hv : d.Valid) (ha : a.WellFormed) (hnone : t.root = none)
    (hp : p.components = t.area.path.components ++ rest) {new : Option NodeId}
    (hensure : t.ensureRoot a d p metadata rest = .ok (root, new, c)) : c.WellFormed ∧ c.contains root = true ∧
      ∃ name, c.name? root = some name ∧ Path.components ⟨name⟩ = Path.components ⟨t.area.path.entryName⟩ := by
  rw [ensureRoot, hnone] at hensure
  have hanchored : ∀ {i b name}, Sown a b none i → b.name? i = some name →
      Path.components ⟨name⟩ = Path.components ⟨t.area.path.entryName⟩ →
      (b.modify i (·.setAnchor t.area.path.parent?)).WellFormed ∧
      (b.modify i (·.setAnchor t.area.path.parent?)).contains i = true ∧
      ∃ name, (b.modify i (·.setAnchor t.area.path.parent?)).name? i = some name ∧
        Path.components ⟨name⟩ = Path.components ⟨t.area.path.entryName⟩ := fun {i b name} hs hn hname => by
    have hl := sameLinks_setAnchor b i t.area.path.parent?
    exact ⟨hl.wellFormed hs.wellFormed, hl.contains i ▸ hs.contains_top, name, (name?_setAnchor b i _ i).trans hn, hname⟩
  by_cases hrest : rest = []
  · obtain ⟨i, b, hb, hm⟩ := createNode_made ha hv t p metadata
    simp only [hrest, if_true, hb, ok_bind, pure_eq_ok, Except.ok.injEq, Prod.mk.injEq] at hensure
    obtain ⟨rfl, -, rfl⟩ := hensure
    exact hanchored hm.toSown hm.name (Path.components_entryName_congr (by rw [hp, hrest, List.append_nil]))
  · obtain ⟨i, b, hinsert, hs, hn, -⟩ := ha.sown_insert t.area.path.entryName (wayMetadata d t.area.path)
    simp only [hrest, if_false, hinsert, ok_bind, pure_eq_ok, Except.ok.injEq, Prod.mk.injEq] at hensure
    obtain ⟨rfl, -, rfl⟩ := hensure
    exact hanchored hs hn rfl

/-- **A root that an addition makes fits unless the path of the area climbs.** -/
theorem add_fits (hv : d.Valid) (ha : a.WellFormed) (hnone : t.root = none) (hr : t'.root = some r)
    (hadd : t.add a d p = .ok (made, t', b)) : t'.Fits b ↔ ¬t.area.path.Climbs := by
  unfold add at hadd
  split at hadd
  · rename_i rest metadata hrest _
    split at hadd
    · cases hadd
      rw [hnone] at hr
      cases hr
    · obtain ⟨⟨root, new, c⟩, hensure, hrun⟩ := bind_eq_ok.1 hadd
      obtain ⟨added, hbelow, -⟩ := bind_eq_ok.1 hrun
      simp only [hensure, ok_bind, hbelow, pure_eq_ok, Except.ok.injEq, Prod.mk.injEq] at hadd
      obtain ⟨-, rfl, rfl⟩ := hadd
      obtain ⟨hc, hlive, name, hn, hname⟩ := ensureRoot_name? hv ha hnone (Path.below?_eq_some.1 hrest) hensure
      have hroot : added.outcome.2.name? root = some name := by
        rw [outcome_name?, addBelow_name?_old hc hlive hbelow hlive, hn]
      rw [fits_iff (t := { t with root := some root }) rfl hroot, Path.namedBy_congr hname, Path.namedBy_entryName]
  · cases hadd
    rw [hnone] at hr
    cases hr

/-! ## Paths below a root -/

/-- Where the root is at the path of the area, all nodes are at the paths where they are found. -/
theorem workedPath?_of_descend? (ha : a.WellFormed) {w : Path} (hw : a.workedPath? root = some w)
    (hsame : w.components = t.area.path.components) (hn : t.names? p = some names)
    (hid : a.descend? root names = some id) : ∃ q, a.workedPath? id = some q ∧ q.components = p.components := by
  induction names using List.reverseRecOn generalizing p id with
  | nil =>
    obtain rfl := Option.some.inj hid
    exact ⟨w, hw, by rw [hsame, names?_eq_some.1 hn, List.map_nil, List.append_nil]⟩
  | append_singleton names name ih =>
    rw [descend?_concat, Option.bind_eq_some_iff] at hid
    obtain ⟨j, hj, hid⟩ := hid
    have hp := names?_eq_some.1 hn
    rw [List.map_append, List.map_singleton, ← List.append_assoc] at hp
    obtain ⟨q, hq, hqdir⟩ := ih (p := p.parent?.getD ⟨""⟩)
      (names?_eq_some.2 (by rw [Path.components_dir, hp, List.dropLast_concat])) hj
    obtain ⟨n, hget⟩ := contains_iff.1 (contains_of_parent? (ha.parent?_of_child? hid))
    have hname := name?_of_child? hid
    rw [name?_of_get? hget, Option.some.injEq] at hname
    refine ⟨q.child n.name, ?_, ?_⟩
    · rw [ha.workedPath?_child hget (parent?_of_get? hget ▸ ha.parent?_of_child? hid), hq, Option.map_some]
    · rw [hname, ← Path.namedBy_of_components hp, Path.child, Path.child, Path.components_join_congr hqdir rfl]

/-- The path where a node is found is named by the node's name, if the root fits. -/
theorem namedBy_of_located? (hf : t.Fits a) (hl : t.located? a p = some id) (hn : a.name? id = some name) :
    p.NamedBy name := by
  obtain ⟨root, names, hr, hnames, hid⟩ := located?_eq_some.1 hl
  rw [names?_eq_some] at hnames
  rcases List.eq_nil_or_concat names with rfl | ⟨front, last, rfl⟩
  · obtain rfl := Option.some.inj hid
    rw [Path.namedBy_congr_path (q := t.area.path) (by simpa using hnames)]
    exact hf root name hr hn
  · rw [List.concat_eq_append, descend?_concat, Option.bind_eq_some_iff] at hid
    obtain ⟨j, -, hid⟩ := hid
    obtain rfl : last = name := Option.some.inj ((name?_of_child? hid).symm.trans hn)
    have hcs : p.components = (t.area.path.components ++ front.map .name) ++ [.name last] := by
      rw [hnames, List.concat_eq_append, List.map_append, List.append_assoc]
      rfl
    exact Path.namedBy_of_components hcs

/-! ## Paths of what is taken out -/

/-- What a node below one that is taken away from its parent has become. It may know its path still where there was no
parent to be taken away from. -/
theorem detach_get? (ha : a.WellFormed) (hid : a.contains id = true) (hj : a.Below id j) {n : Node}
    (hn : a.get? j = some n) : ∃ m, (a.detach id).2.get? j = some m ∧ m.name = n.name ∧
      m.parent = (if j = id then none else n.parent) ∧ (m.knownPath = none ∨ m.knownPath = n.knownPath) := by
  cases hp : a.parent? id with
  | none =>
    rw [detach_of_parent?_eq_none hp]
    refine ⟨n, hn, rfl, ?_, .inr rfl⟩
    split
    · rename_i hjid
      rw [← parent?_of_get? hn, hjid, hp]
    · rfl
  | some q =>
    have hu := (ha.detached_unlink hp).unlinked ha
    have hmem : j ∈ (a.unlink q id).subtree id :=
      ((hu.wellFormed ha).mem_subtree (by rw [hu.contains, hid])).2 ((hu.below_self_iff ha).2 hj)
    rw [detach_of_parent? hp, get?_forgetPaths, if_pos hmem, ha.get?_unlink hp, hn]
    by_cases hjid : j = id
    · simp [hjid, Node.forgetPath]
    · simp [hjid, Node.forgetPath, Node.removeChild]

theorem takeOut_get? (ha : a.WellFormed) (hid : a.contains id = true) (htake : takeOut a id directory = .ok b)
    (hj : a.Below id j) {n : Node} (hn : a.get? j = some n) : ∃ m, b.get? j = some m ∧ m.name = n.name ∧
      m.parent = (if j = id then none else n.parent) ∧ (j = id → m.anchor = directory) ∧
      (m.knownPath = none ∨ m.knownPath = n.knownPath) := by
  obtain ⟨k, hk, hname, hparent, hknown⟩ := detach_get? ha hid hj hn
  rw [takeOut, hid] at htake
  simp only [Bool.not_true, Bool.false_eq_true, if_false, Except.ok.injEq] at htake
  obtain ⟨k', hset, hk'⟩ : ∃ k', ((a.detach id).2.modify id (·.setAnchor directory)).get? j = some k' ∧
      k'.name = n.name ∧ k'.parent = (if j = id then none else n.parent) ∧ (j = id → k'.anchor = directory) ∧
      (k'.knownPath = none ∨ k'.knownPath = n.knownPath) := by
    rw [get?_modify, hk]
    by_cases hjid : j = id
    · rw [if_pos hjid]
      exact ⟨_, rfl, hname, hparent, fun _ => rfl, .inl rfl⟩
    · rw [if_neg hjid]
      exact ⟨k, rfl, hname, hparent, fun h => absurd h hjid, hknown⟩
  rw [← htake, get?_modifyAll, hset]
  swap
  · exact fun _ => rfl
  by_cases hmem : j ∈ ((a.detach id).2.modify id (·.setAnchor directory)).subtree id
  · rw [if_pos hmem]
    exact ⟨_, rfl, hk'⟩
  · rw [if_neg hmem]
    exact ⟨k', rfl, hk'⟩

/-- **What is taken out keeps its paths**, up to their spelling, if the directory it is put into is the one it was in. -/
theorem takeOut_path? (ha : a.WellFormed) (hk : a.PathsKnown) (htake : takeOut a id directory = .ok b) {n : Node}
    {w : Path} (hn : a.get? id = some n) (hw : a.workedPath? id = some w)
    (hdir : ((directory.getD ⟨""⟩).child n.name).components = w.components) (hj : a.Below id j) :
    ∃ q v, (b.path? j).1 = some q ∧ a.workedPath? j = some v ∧ q.components = v.components := by
  have hid : a.contains id = true := contains_iff.2 ⟨n, hn⟩
  obtain ⟨b', htake', hlinks, -⟩ := takeOut_spec ha hid directory
  obtain rfl := Except.ok.inj (htake.symm.trans htake')
  have hb : b.WellFormed := hlinks.wellFormed (((ha.detached_detach id).unlinked ha).wellFormed ha)
  have hworked : ∃ q v, b.workedPath? j = some q ∧ a.workedPath? j = some v ∧ q.components = v.components := by
    induction hj with
    | refl =>
      obtain ⟨m, hm, hname, hparent, hanchor, -⟩ := takeOut_get? ha hid htake (.refl a id) hn
      rw [if_pos rfl] at hparent
      exact ⟨_, w, workedPath?_top hm hparent, hw, by rw [hanchor rfl, hname, hdir]⟩
    | @tail i j hj hpar ih =>
      obtain ⟨q, v, hq, hv, hsame⟩ := ih
      obtain ⟨k, hget⟩ := contains_iff.1 (contains_of_parent? hpar)
      obtain ⟨m, hm, hname, hparent, -⟩ := takeOut_get? ha hid htake (hj.tail hpar) hget
      have hne : j ≠ id := fun he => ha.acyclic hpar (he ▸ hj)
      rw [parent?_of_get? hget] at hpar
      rw [if_neg hne, hpar] at hparent
      exact ⟨q.child m.name, v.child k.name, by rw [hb.workedPath?_child hm hparent, hq, Option.map_some],
        by rw [ha.workedPath?_child hget hpar, hv, Option.map_some],
        by rw [hname, Path.child, Path.child, Path.components_join_congr hsame rfl]⟩
  obtain ⟨q, v, hq, hv, hsame⟩ := hworked
  obtain ⟨k, hget⟩ := contains_iff.1 (hj.contains hid)
  obtain ⟨m, hm, -, -, -, hknown⟩ := takeOut_get? ha hid htake hj hget
  rw [path?_fst_eq, hm, Option.bind_some, hq]
  cases hmk : m.knownPath with
  | none => exact ⟨q, v, rfl, hv, hsame⟩
  | some u =>
    -- A path that is known still is the one that was worked out before.
    rw [hmk] at hknown
    exact ⟨u, v, rfl, hv, by rw [Option.some.inj ((hk j k u hget (hknown.resolve_left (by simp)).symm).symm.trans hv)]⟩

end Tree

end FileIndex
