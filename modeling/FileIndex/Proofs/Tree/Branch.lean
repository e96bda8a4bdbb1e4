/-
What an addition makes, node by node. It hangs one tree of new nodes on the deepest node on the way to the path that is
there, or makes it the root (`Tree.add_adds`). This tree is a node for each missing name, one below the other, and at its
end what a walk finds at the path (`Tree.branch`), whatever else the arena holds; names lead to the same in both
(`Shows.descend?_rel`).
-/
import FileIndex.Proofs.Arena.Kept
import FileIndex.Proofs.Tree.Landing
import FileIndex.Proofs.Tree.Making
import FileIndex.Proofs.Tree.Renewing

namespace FileIndex

/-- A node that is marked as added. -/
def Node.marked (n : Node) : Node := { n with flags := { n.flags with added := true } }

/-! ## Names in what was found -/

namespace Collected

/-- The first entry of a name in what was found. -/
def child? (c : Collected) (name : String) : Option Collected := c.children.find? fun f => f.name == name

/-- What names lead to in what was found. -/
def at? (c : Collected) : List String → Option Collected
  | [] => some c
  | name :: rest => (c.child? name).bind fun f => f.at? rest

/-- Where there is one entry, its name alone leads on. -/
theorem at?_single (found : Collected) (name last : String) (metadata : Metadata) (more : List String) :
    (entry name metadata [found]).at? (last :: more) = if last = found.name then found.at? more else none := by
  rw [at?, child?, children, List.find?_singleton]
  by_cases h : last = found.name
  · rw [if_pos h, if_pos (beq_iff_eq.2 h.symm), Option.bind_some]
  · rw [if_neg h, if_neg (by simpa using Ne.symm h), Option.bind_none]

end Collected

namespace Arena

variable {a b : Arena} {id q top : NodeId} {found : Collected} {founds : List Collected} {name : String}
  {names front rest : List String} {parent : Option NodeId} {ids : List NodeId}

theorem ShowsAll.find?_rel (h : a.ShowsAll founds ids) (name : String) :
    Option.Rel a.Shows (founds.find? fun f => f.name == name) (ids.find? fun j => a.name? j == some name) := by
  induction founds generalizing ids with
  | nil =>
    obtain rfl : ids = [] := h
    exact .none
  | cons f founds ih =>
    obtain ⟨j, more, rfl, hj, hmore⟩ := h
    rw [List.find?_cons, List.find?_cons, name?_of_shows hj, Option.some_beq_some]
    split
    · exact .some hj
    · exact ih hmore

/-- Names lead from a node to what they lead to in what it shows. -/
theorem Shows.descend?_rel (h : a.Shows found id) (names : List String) :
    Option.Rel a.Shows (found.at? names) (a.descend? id names) := by
  induction names generalizing found id with
  | nil => exact .some h
  | cons name names ih =>
    have hchild : Option.Rel a.Shows (found.child? name) (a.child? id name) := by
      cases found with
      | entry _ _ founds =>
        obtain ⟨n, hn, -, -, hall⟩ := h
        rw [child?, children_of_get? hn]
        exact hall.find?_rel name
    rw [Collected.at?, descend?]
    rcases eq_or_exists_of_rel hchild with ⟨hf, hj⟩ | ⟨f, j, hf, hj, hs⟩
    · rw [hf, hj]
      exact .none
    · rw [hf, hj]
      exact ih hs

/-- A new tree in an arena that shows what was found, all of it marked as added. Its topmost node may have been put into
a directory. -/
structure Grafted (a b : Arena) (parent : Option NodeId) (top : NodeId) (found : Collected) (anchor : Option Path) : Prop
    extends Sprouted a b parent top where
  shows : b.Shows found top
  marked : ∀ j n, b.Below top j → b.get? j = some n →
    n.flags = { added := true } ∧ n.anchor = if j = top then anchor else none
  balanced : a.Balanced b

/-- A child that is missing is found behind the growth by it. -/
theorem Grown.child?_new (h : Grown a b (some q) top) (ha : a.WellFormed) (hnone : a.child? q name = none)
    (hname : b.name? top = some name) : b.child? q name = some top := by
  rw [h.child?_old ha (h.contains_parent q rfl), hnone, Option.none_or, if_pos ⟨rfl, hname⟩]

end Arena

namespace Tree

open Arena

variable {a b : Arena} {t t' : Tree} {d : Disk} {p way : Path} {metadata : Metadata} {current q r top : NodeId}
  {name next last : String} {names front rest : List String} {made : Option NodeId}

/-! ## What is made for names -/

/-- What is made for the entry at a path. -/
def created (t : Tree) (d : Disk) (p : Path) (metadata : Metadata) : Collected :=
  if metadata.isDirectory && (t.area.recursive || p.same t.area.path) then
    match FileIndex.walk d p (scope t.area t.includeHidden) {} with
    | .collected found => found
    | _ => .entry p.entryName metadata []
  else .entry p.entryName metadata []

/-- What is made for a name and those behind it: a node for each of them, one below the other, where the last one is for
the entry at the path. -/
def branch (t : Tree) (d : Disk) (p : Path) (metadata : Metadata) (way : Path) (name : String) : List String → Collected
  | [] => t.created d p metadata
  | next :: rest =>
    .entry name (wayMetadata d (way.child name)) [t.branch d p metadata (way.child name) next rest]

/-- What is made where a tree has no root. -/
def stem (t : Tree) (d : Disk) (p : Path) (metadata : Metadata) : List String → Collected
  | [] => t.created d p metadata
  | name :: rest =>
    .entry t.area.path.entryName (wayMetadata d t.area.path) [t.branch d p metadata t.area.path name rest]

/-- What is made depends on the area of a tree and on whether it takes hidden names. -/
theorem created_congr (ha : t'.area = t.area) (hh : t'.includeHidden = t.includeHidden) :
    t'.created d p metadata = t.created d p metadata := by
  unfold created
  rw [ha, hh]

theorem branch_congr (ha : t'.area = t.area) (hh : t'.includeHidden = t.includeHidden) :
    t'.branch d p metadata way name rest = t.branch d p metadata way name rest := by
  induction rest generalizing way name with
  | nil => exact created_congr ha hh
  | cons next rest ih => rw [branch, branch, ih]

theorem name_created : (t.created d p metadata).name = p.entryName := by
  unfold created FileIndex.walk
  split
  · cases d.find? false p with
    | none => rfl
    | some e => exact name_walkEntry _ true p.entryName e
  · rfl

/-- A branch has the name that it is for. -/
theorem name_branch (hlast : (name :: rest).getLast? = some p.entryName) :
    (t.branch d p metadata way name rest).name = name := by
  cases rest with
  | nil => exact name_created.trans (by simpa using hlast.symm)
  | cons next rest => rfl

/-- The names that a branch is for lead to what is made for the entry. -/
theorem at?_branch (hlast : (name :: rest).getLast? = some p.entryName) :
    (t.branch d p metadata way name rest).at? rest = some (t.created d p metadata) := by
  induction rest generalizing way name with
  | nil => rfl
  | cons next rest ih =>
    have hlast' : (next :: rest).getLast? = some p.entryName := by simpa using hlast
    rw [branch, Collected.at?_single, name_branch hlast', if_pos rfl]
    exact ih hlast'

theorem at?_stem (hlast : names.getLast? = some p.entryName ∨ names = []) :
    (t.stem d p metadata names).at? names = some (t.created d p metadata) := by
  cases names with
  | nil => rfl
  | cons name rest =>
    have hlast' := hlast.resolve_right (List.cons_ne_nil name rest)
    rw [stem, Collected.at?_single, name_branch hlast', if_pos rfl]
    exact at?_branch hlast'

/-- A branch has one way to go. -/
theorem at?_branch_cons (hlast : (next :: rest).getLast? = some p.entryName) (more : List String) :
    (t.branch d p metadata way name (next :: rest)).at? (last :: more) =
      if last = next then (t.branch d p metadata (way.child name) next rest).at? more else none := by
  rw [branch, Collected.at?_single, name_branch hlast]

/-- Names that leave the way lead to nothing. -/
theorem at?_branch_apart (hlast : (name :: rest).getLast? = some p.entryName) {more : List String} (hm : ¬more <+: rest)
    (hr : ¬rest <+: more) : (t.branch d p metadata way name rest).at? more = none := by
  induction rest generalizing way name more with
  | nil => exact absurd (List.nil_prefix) hr
  | cons next rest ih =>
    have hlast' : (next :: rest).getLast? = some p.entryName := by simpa using hlast
    cases more with
    | nil => exact absurd List.nil_prefix hm
    | cons last more =>
      rw [at?_branch_cons hlast']
      split
      · rename_i he
        subst he
        simp only [List.cons_prefix_cons, true_and] at hm hr
        exact ih hlast' hm hr
      · rfl

/-- Behind the first names of a branch comes the branch for the others. -/
theorem at?_branch_front (hlast : (name :: (front ++ next :: rest)).getLast? = some p.entryName) (more : List String) :
    (t.branch d p metadata way name (front ++ next :: rest)).at? (front ++ next :: more) =
      (t.branch d p metadata ((way.child name).under front) next rest).at? more := by
  induction front generalizing way name with
  | nil => rw [List.nil_append, List.nil_append, at?_branch_cons (by simpa using hlast), if_pos rfl, Path.under, List.foldl_nil]
  | cons first front ih =>
    have hlast' : (first :: (front ++ next :: rest)).getLast? = some p.entryName := by simpa using hlast
    rw [List.cons_append, List.cons_append, at?_branch_cons hlast', if_pos rfl, ih hlast']
    rfl

theorem at?_stem_cons (hlast : (next :: rest).getLast? = some p.entryName) (more : List String) :
    (t.stem d p metadata (next :: rest)).at? (last :: more) =
      if last = next then (t.branch d p metadata t.area.path next rest).at? more else none := by
  rw [stem, Collected.at?_single, name_branch hlast]

theorem at?_stem_apart (hlast : names.getLast? = some p.entryName ∨ names = []) {more : List String} (hm : ¬more <+: names)
    (hn : ¬names <+: more) : (t.stem d p metadata names).at? more = none := by
  cases names with
  | nil => exact absurd List.nil_prefix hn
  | cons next rest =>
    have hlast' := hlast.resolve_right (List.cons_ne_nil next rest)
    cases more with
    | nil => exact absurd List.nil_prefix hm
    | cons last more =>
      rw [at?_stem_cons hlast']
      split
      · rename_i he
        subst he
        simp only [List.cons_prefix_cons, true_and] at hm hn
        exact at?_branch_apart hlast' hm hn
      · rfl

/-- What is made from the first missing name on is part of what is made where there is no root. -/
theorem at?_stem_front (hlast : (front ++ name :: rest).getLast? = some p.entryName) (more : List String) :
    (t.stem d p metadata (front ++ name :: rest)).at? (front ++ name :: more) =
      (t.branch d p metadata (t.area.path.under front) name rest).at? more := by
  cases front with
  | nil => rw [List.nil_append, List.nil_append, at?_stem_cons hlast, if_pos rfl]; rfl
  | cons first front =>
    rw [List.cons_append] at hlast ⊢
    rw [List.cons_append, at?_stem_cons hlast, if_pos rfl, at?_branch_front hlast]
    rfl

/-! ## Making it -/

theorem insertCollected_single (a : Arena) (name : String) (metadata : Metadata) :
    a.insertCollected (.entry name metadata []) = .ok (a.insert (.ofName name metadata)) := by
  rw [insertCollected]
  rfl

theorem createNode_eq : t.createNode a d p metadata = a.insertCollected (t.created d p metadata) := by
  unfold createNode created
  dsimp only
  split
  · cases FileIndex.walk d p (scope t.area t.includeHidden) {} with
    | collected found => rfl
    | missing | canceled => exact (insertCollected_single a _ _).symm
  · exact (insertCollected_single a _ _).symm

/-- **From the first missing name on a branch is made.** -/
theorem addBelow_branch (t : Tree) (d : Disk) (p : Path) (metadata : Metadata) (way : Path) (rest : List String)
    (made : Option NodeId) (ha : a.WellFormed) (hcur : a.contains current = true)
    (hnone : a.child? current name = none) : ∃ top b,
      t.addBelow d p metadata a made current way ((name :: rest).map .name) =
        .ok { arena := b, top := some (made.getD top), complete := true } ∧
      Sprouted a b (some current) top ∧ b.Shows (t.branch d p metadata way name rest) top ∧
      ∀ R, Kept R → R a → R b := by
  induction rest generalizing a current way name made with
  | nil =>
    obtain ⟨top, b, hb, ht⟩ := ha.taken (t.created d p metadata)
    obtain ⟨c, hattach, hsc, hshows⟩ := ht.toSprouted.attach_shows hcur ht.shows
    have hnode : t.makeNode a d p metadata name (way.child name) [] = .ok (top, b) := createNode_eq.trans hb
    refine ⟨top, c, ?_, hsc, hshows, fun R hR h => hR.attach (hR.insertCollected h hb) hattach⟩
    rw [List.map_singleton, addBelow_missing ha hcur hnone hnode hattach, addBelow]
  | cons next rest ih =>
    -- The node in between has nothing below it, and the rest is made there.
    have halone := ha.sprouted_insert (n := Node.ofName name (wayMetadata d (way.child name))) rfl rfl rfl
    have hshows := ha.shows_insert name (wayMetadata d (way.child name))
    have hkept : ∀ R, Kept R → R a → R (a.insert (.ofName name (wayMetadata d (way.child name)))).2 :=
      fun R hR => hR.insert a _ _
    have hnode : t.makeNode a d p metadata name (way.child name) ((next :: rest).map .name) =
        .ok (a.insert (Node.ofName name (wayMetadata d (way.child name)))) := by
      rw [makeNode, if_neg (by simp)]
    generalize a.insert (Node.ofName name (wayMetadata d (way.child name))) = new at halone hshows hkept hnode
    obtain ⟨top, b⟩ := new
    obtain ⟨c, hattach, hsc, n, hn, hname, hmetadata, hchildren⟩ := halone.attach_shows hcur hshows
    have hempty : c.child? top next = none := by
      rw [child?, children_of_get? hn, show n.children = [] from hchildren]
      rfl
    obtain ⟨below, g, hadd, hsg, hsh, hkg⟩ := ih _ (some (made.getD top)) hsc.wellFormed hsc.contains_top hempty
    refine ⟨top, g, ?_, hsc.inside (.refl c top) hsg, ?_, fun R hR h => hkg R hR (hR.attach (hkept R hR h) hattach)⟩
    · rw [List.map_cons, addBelow_missing ha hcur hnone hnode hattach, hadd, Option.getD_some]
    · refine ⟨n.withChild below, ?_, hname, hmetadata, below, [], ?_, hsh, rfl⟩
      · rw [hsg.get?_old top hsc.contains_top, hn, Option.map_some, if_pos rfl]
      · exact congrArg (· ++ [below]) hchildren

/-! ## Adding to a tree -/

/-- How an addition of an entry that a tree takes comes out. -/
inductive Adds (t : Tree) (d : Disk) (p : Path) (metadata : Metadata) (names : List String) (a : Arena) :
    Option NodeId → Tree → Arena → Prop
  /-- There is a node at the path. -/
  | present {r j : NodeId} : t.root = some r → a.descend? r names = some j → Adds t d p metadata names a none t a
  /-- The first name of the rest is missing. -/
  | below {b : Arena} {r q top : NodeId} {front : List String} {name : String} {rest : List String} :
    t.root = some r → names = front ++ name :: rest → a.descend? r front = some q → a.child? q name = none →
    Grafted a b (some q) top (t.branch d p metadata (t.area.path.under front) name rest) none →
    Adds t d p metadata names a (some top) t b
  | root {b : Arena} {top : NodeId} : t.root = none →
    Grafted a b none top (t.stem d p metadata names) t.area.path.parent? →
    Adds t d p metadata names a (some top) { t with root := some top } b

/-- The way that names lead ends, or one of them is missing. -/
theorem exists_missing (a : Arena) (r : NodeId) (names : List String) : (∃ j, a.descend? r names = some j) ∨
    ∃ front name rest q, names = front ++ name :: rest ∧ a.descend? r front = some q ∧ a.child? q name = none := by
  induction names generalizing r with
  | nil => exact .inl ⟨r, rfl⟩
  | cons name names ih =>
    cases hc : a.child? r name with
    | none => exact .inr ⟨[], name, names, r, rfl, rfl, hc⟩
    | some c =>
      rcases ih c with ⟨j, hj⟩ | ⟨front, next, rest, q, rfl, hq, hnone⟩
      · exact .inl ⟨j, by rw [descend?, hc]; exact hj⟩
      · exact .inr ⟨name :: front, next, rest, q, rfl, by rw [descend?, hc]; exact hq, hnone⟩

/-- Whether all at and below a node is new and without a mark, and none of it but the node itself has been put into a
directory. -/
def Unmarked (b : Arena) (top : NodeId) (anchor : Option Path) : Prop :=
  ∀ j n, b.Below top j → b.get? j = some n → n.flags = {} ∧ n.anchor = if j = top then anchor else none

/-- All that was made is marked. -/
theorem outcome_grafted {r : Added} {parent : Option NodeId} {found : Collected} (anchor : Option Path)
    (htop : r.top = some top) (hc : r.complete = true) (hs : Sprouted a r.arena parent top)
    (hshows : r.arena.Shows found top) (hb : a.Balanced r.arena)
    (hplain : Unmarked r.arena top anchor) : ∃ b, r.outcome = (some top, b) ∧ Grafted a b parent top found anchor := by
  obtain ⟨b, ho, hsb, hshb, -⟩ := outcome_shows htop hc hs hshows
  have hbe : b = r.arena.modifyAll (r.arena.subtree top) Node.marked := by
    rw [Added.outcome, hc, htop] at ho
    exact (congrArg Prod.snd ho).symm
  refine ⟨b, ho, hsb, hshb, fun j n hj hn => ?_, ?_⟩
  · have hl : SameLinks r.arena b := by
      rw [hbe]
      refine sameLinks_modifyAll ?_ ?_ _ _ <;> exact fun _ => rfl
    rw [hl.below] at hj
    rw [hbe, get?_modifyAll (f := Node.marked) (fun _ => rfl), if_pos ((hs.wellFormed.mem_subtree hs.contains_top).2 hj)] at hn
    obtain ⟨m, hm, rfl⟩ := Option.map_eq_some_iff.1 hn
    obtain ⟨hflags, hanchor⟩ := hplain j m hj hm
    exact ⟨by rw [Node.marked, hflags], hanchor⟩
  · rw [hbe]
    unfold Arena.Balanced at hb ⊢
    simpa using hb

/-- A root that is made is put into its directory. -/
theorem ensureRoot_sprouted (d : Disk) (p : Path) (metadata : Metadata) (ha : a.WellFormed) (hr : t.root = none)
    (rest : List Path.Component) :
    ∃ root c, t.ensureRoot a d p metadata rest = .ok (root, some root, c) ∧ Sprouted a c none root ∧
      c.Shows (if rest = [] then t.created d p metadata else
        .entry t.area.path.entryName (wayMetadata d t.area.path) []) root ∧
      a.Balanced c ∧ Unmarked c root t.area.path.parent? := by
  obtain ⟨root, b, hb, ht⟩ := ha.taken (if rest = [] then t.created d p metadata else
    .entry t.area.path.entryName (wayMetadata d t.area.path) [])
  have hs : Sprouted a (b.modifyAll [root] (·.setAnchor t.area.path.parent?)) none root :=
    ht.toSprouted.modify [root] (by simpa using .refl b root) (fun _ => rfl) (fun _ => rfl) fun _ _ => rfl
  have hplain := (kept_plain a).insertCollected (fun j n hn hj => absurd (contains_iff.2 ⟨n, hn⟩) hj) hb
  refine ⟨root, _, ?_, hs, ?_, ?_, fun j n hj hn => ?_⟩
  · rw [ensureRoot, hr]
    by_cases hrest : rest = []
    · rw [if_pos hrest] at hb
      simp only [hrest, if_true, createNode_eq, hb, ok_bind, pure_eq_ok]
      rfl
    · rw [if_neg hrest, insertCollected_single, Except.ok.injEq] at hb
      simp only [hrest, if_false, hb, ok_bind, pure_eq_ok]
      rfl
  · apply ht.shows.modifyAll ht.wellFormed
    · exact fun _ => rfl
    · exact fun _ => ⟨rfl, rfl, rfl⟩
  · have hbal : a.Balanced b := (kept_balanced a).insertCollected (show a.Balanced a from rfl) hb
    unfold Arena.Balanced at hbal ⊢
    simpa using hbal
  · have hj' := hs.fresh j hj
    simp only [get?_modifyAll (f := (·.setAnchor t.area.path.parent?)) fun _ => rfl, List.mem_singleton] at hn
    split at hn
    · obtain ⟨m, hm, rfl⟩ := Option.map_eq_some_iff.1 hn
      exact ⟨(hplain j m hm hj').1, (if_pos ‹j = root›).symm⟩
    · exact ⟨(hplain j n hn hj').1, by rw [if_neg ‹_›, (hplain j n hn hj').2]⟩

/-- Nothing is added where there is a node, whatever the tree takes. -/
theorem add_of_descend? {j : NodeId} (ha : a.WellFormed) (hr : t.root = some r) (hlive : a.contains r = true)
    (hp : p.components = t.area.path.components ++ names.map .name)
    (htakes : t.area.covers p = true ∧ t.hides (names.map .name) = false) (hm : d.metadata? p = some metadata)
    (hj : a.descend? r names = some j) : t.add a d p = .ok (none, t, a) := by
  have hpass := addBelow_descend t d p metadata none t.area.path ha hlive hj []
  rw [List.append_nil, addBelow] at hpass
  rw [add_eq hr hp htakes hm, hpass]
  rfl

/-- Nothing is added where nothing lies, and where the tree does not take the path. -/
theorem add_refused (hp : p.components = t.area.path.components ++ names.map .name)
    (hno : ∀ metadata, d.metadata? p = some metadata → ¬(t.area.covers p = true ∧ t.hides (names.map .name) = false)) :
    t.add a d p = .ok (none, t, a) := by
  unfold add
  rw [Path.below?_eq_some.2 hp]
  cases hm : d.metadata? p with
  | none => rfl
  | some metadata =>
    have htakes : (!t.area.covers p || t.hides (names.map .name)) = true := by
      have := hno metadata hm
      revert this
      cases t.area.covers p <;> cases t.hides (names.map .name) <;> simp
    simp only [htakes, if_true]
    rfl

section

variable (ha : a.WellFormed) (hp : p.components = t.area.path.components ++ names.map .name)
  (htakes : t.area.covers p = true ∧ t.hides (names.map .name) = false) (hm : d.metadata? p = some metadata)
include ha hp htakes hm

/-- Where a name is missing below the root, all from there on is made. -/
theorem add_unmet {front rest : List String} (hr : t.root = some r) (hlive : a.contains r = true)
    (hnames : names = front ++ name :: rest) (hq : a.descend? r front = some q) (hnone : a.child? q name = none) :
    ∃ top b, t.add a d p = .ok (some top, t, b) ∧ t.Adds d p metadata names a (some top) t b := by
  subst hnames
  have hqlive := ha.contains_of_descend? hlive hq
  have hpass := addBelow_descend t d p metadata none t.area.path ha hlive hq ((name :: rest).map .name)
  obtain ⟨top, c, hbelow, hs, hshows, hkept⟩ :=
    addBelow_branch t d p metadata (t.area.path.under front) rest none ha hqlive hnone
  have hplain := hkept _ (kept_plain a) fun j n hn hj => absurd (contains_iff.2 ⟨n, hn⟩) hj
  obtain ⟨b, ho, hg⟩ := outcome_grafted (r := { arena := c, top := some top, complete := true }) none rfl rfl hs hshows
    (hkept _ (kept_balanced a) rfl) fun j n hj hn => by
      simpa using hplain j n hn (hs.fresh j hj)
  refine ⟨top, b, ?_, .below hr rfl hq hnone hg⟩
  rw [add_eq hr hp htakes hm, List.map_append, hpass, hbelow]
  simp only [Option.getD_none, Except.bind, ho]

/-- Where there is no root, the root is made and all below it. -/
theorem add_rootless (hr : t.root = none) : ∃ root b, t.add a d p = .ok (some root, { t with root := some root }, b) ∧
    t.Adds d p metadata names a (some root) { t with root := some root } b := by
  obtain ⟨root, c, hensure, hs, hshows, hbal, hplain⟩ := ensureRoot_sprouted d p metadata ha hr (names.map .name)
  have hadd : ∀ g, ({ t with root := some root } : Tree).addBelow d p metadata c (some root) root t.area.path
      (names.map .name) = .ok { arena := g, top := some root, complete := true } →
      ∀ b, Added.outcome { arena := g, top := some root, complete := true } = (some root, b) →
      t.add a d p = .ok (some root, { t with root := some root }, b) := by
    intro g hbelow b ho
    simp only [add, Path.below?_eq_some.2 hp, hm, htakes.1, htakes.2, hensure, ok_bind, hbelow, ho, pure_eq_ok]
    rfl
  cases names with
  | nil =>
    obtain ⟨b, ho, hg⟩ := outcome_grafted (r := { arena := c, top := some root, complete := true }) _ rfl rfl hs hshows
      hbal hplain
    exact ⟨_, b, hadd c (by rw [List.map_nil, addBelow]) b ho, .root hr hg⟩
  | cons name rest =>
    rw [List.map_cons, if_neg (List.cons_ne_nil _ _)] at hshows
    obtain ⟨n, hn, hname, hmetadata, hchildren⟩ := hshows
    have hempty : c.child? root name = none := by
      rw [child?, children_of_get? hn, show n.children = [] from hchildren]
      rfl
    obtain ⟨top, g, hbelow, hsg, hshg, hkept⟩ :=
      addBelow_branch { t with root := some root } d p metadata t.area.path rest (some root) hs.wellFormed
        hs.contains_top hempty
    rw [branch_congr (show ({ t with root := some root } : Tree).area = t.area from rfl) rfl] at hshg
    have hshows : g.Shows (t.stem d p metadata (name :: rest)) root := by
      refine ⟨n.withChild top, ?_, hname, hmetadata, top, [], ?_, hshg, rfl⟩
      · rw [hsg.get?_old root hs.contains_top, hn, Option.map_some, if_pos rfl]
      · exact congrArg (· ++ [top]) hchildren
    have hplaing : Unmarked g root t.area.path.parent? := by
      intro j m hj hm
      by_cases hold : c.contains j = true
      · rw [hsg.get?_old j hold] at hm
        obtain ⟨k, hk, rfl⟩ := Option.map_eq_some_iff.1 hm
        have hkj := hplain j k ((hsg.below_old hs.wellFormed hold).1 hj) hk
        split <;> exact hkj
      · have hmj := hkept _ (kept_plain c) (fun j n hn hj => absurd (contains_iff.2 ⟨n, hn⟩) hj) j m hm hold
        rw [if_neg (by rintro rfl; exact hold hs.contains_top)]
        exact hmj
    obtain ⟨b, ho, hg⟩ := outcome_grafted (r := { arena := g, top := some root, complete := true }) _ rfl rfl
      (hs.inside (.refl c root) hsg) hshows (hkept _ (kept_balanced a) hbal) hplaing
    exact ⟨_, b, hadd g hbelow b ho, .root hr hg⟩

/-- **What an addition comes to**, for a path that the tree takes and where there is an entry. -/
theorem add_adds (hroot : ∀ r, t.root = some r → a.contains r = true) :
    ∃ made t' b, t.add a d p = .ok (made, t', b) ∧ t.Adds d p metadata names a made t' b := by
  cases hr : t.root with
  | some r =>
    have hlive := hroot r hr
    rcases exists_missing a r names with ⟨j, hj⟩ | ⟨front, name, rest, q, hnames, hq, hnone⟩
    · exact ⟨none, t, a, add_of_descend? ha hr hlive hp htakes hm hj, .present hr hj⟩
    · obtain ⟨top, b, hadd⟩ := add_unmet ha hp htakes hm hr hlive hnames hq hnone
      exact ⟨some top, t, b, hadd⟩
  | none =>
    obtain ⟨root, b, hadd⟩ := add_rootless ha hp htakes hm hr
    exact ⟨some root, _, b, hadd⟩

end

namespace Adds

variable (h : t.Adds d p metadata names a made t' b) (ha : a.WellFormed)
  (hp : p.components = t.area.path.components ++ names.map .name)

include h

theorem area : t'.area = t.area ∧ t'.includeHidden = t.includeHidden := by
  cases h <;> exact ⟨rfl, rfl⟩

theorem balanced : a.Balanced b := by
  cases h with
  | present => exact rfl
  | below _ _ _ _ hg | root _ hg => exact hg.balanced

include ha

theorem wellFormed : b.WellFormed := by
  cases h with
  | present => exact ha
  | below _ _ _ _ hg | root _ hg => exact hg.wellFormed

include hp

omit h ha in
/-- The last of the names is that of the entry. -/
theorem getLast?_eq (hnames : names = front ++ name :: rest) : (name :: rest).getLast? = some p.entryName := by
  obtain ⟨back, last, hlast⟩ := (List.eq_nil_or_concat (name :: rest)).resolve_left (List.cons_ne_nil _ _)
  rw [List.concat_eq_append] at hlast
  rw [hnames, hlast, List.map_append, List.map_append, ← List.append_assoc, ← List.append_assoc] at hp
  rw [hlast, List.getLast?_concat, Path.entryName_of_components hp]

omit h in
/-- What hangs on a node is found there by its name. -/
theorem child?_top {front : List String} {rest : List String} {parent : NodeId} {top : NodeId}
    (hnames : names = front ++ name :: rest) (hnone : a.child? parent name = none)
    (hg : Grafted a b (some parent) top (t.branch d p metadata way name rest) none) : b.child? parent name = some top :=
  hg.child?_new ha hnone ((name?_of_shows hg.shows).trans (congrArg some (name_branch (getLast?_eq hp hnames))))

/-- Behind an addition there is a node at the path. -/
theorem exists_node : ∃ r j, t'.root = some r ∧ b.descend? r names = some j := by
  cases h with
  | present hr hj => exact ⟨_, _, hr, hj⟩
  | @below _ r q top front name rest hr hnames hq hnone hg =>
    have htop := child?_top ha hp hnames hnone hg
    have hrel := hg.shows.descend?_rel rest
    rw [at?_branch (getLast?_eq hp hnames)] at hrel
    rcases eq_or_exists_of_rel hrel with ⟨hno, -⟩ | ⟨-, j, -, hj, -⟩
    · cases hno
    · refine ⟨r, j, hr, ?_⟩
      rw [hnames, descend?_append, (hg.keepsChildren ha).descend? hq, Option.bind_some, descend?, htop, Option.bind_some, hj]
  | @root _ top hr hg =>
    have hrel := hg.shows.descend?_rel names
    rw [at?_stem] at hrel
    · rcases eq_or_exists_of_rel hrel with ⟨hno, -⟩ | ⟨-, j, -, hj, -⟩
      · cases hno
      · exact ⟨top, j, rfl, hj⟩
    · cases names with
      | nil => exact .inr rfl
      | cons name rest => exact .inl (getLast?_eq hp (List.nil_append _).symm)

/-- **An addition that is made again adds nothing.** -/
theorem add_again (hroot : ∀ r, t.root = some r → a.contains r = true)
    (htakes : t.area.covers p = true ∧ t.hides (names.map .name) = false) (hm : d.metadata? p = some metadata) :
    t'.add b d p = .ok (none, t', b) := by
  obtain ⟨r, j, hr, hj⟩ := h.exists_node ha hp
  obtain ⟨harea, hhidden⟩ := h.area
  refine add_of_descend? (h.wellFormed ha) hr ?_ (harea ▸ hp) ?_ hm hj
  · cases h with
    | present => exact hroot r hr
    | below hr' _ _ _ hg => exact hg.contains_old (hroot r hr)
    | root _ hg =>
      obtain rfl := Option.some.inj hr
      exact hg.contains_top
  · rw [harea]
    exact ⟨htakes.1, by rw [hides, hhidden]; exact htakes.2⟩

end Adds

end Tree

end FileIndex
