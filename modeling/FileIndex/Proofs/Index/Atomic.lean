/-
Operations that come to nothing. A path that is removed, read again or pinned without an answer leaves the index as it
was. An addition without an answer does so too, but for one case: where the path goes through something else than a name
below the area, the walk along it makes the nodes for the names in front of that, and only then gives up (`Strands`). A
rename of nothing comes to such an addition.
-/
import FileIndex.Proofs.Index.Answering

namespace FileIndex

open Arena

variable {x y : Index} {d : Disk} {a b : Arena} {t t' : Tree} {i : Nat} {p old new way : Path} {root : Option Path}
  {current r : NodeId} {top made : Option NodeId} {metadata : Metadata} {rest : List Path.Component}
  {run : List (Disk × Operation)}

/-- The names in front of the first component that is none. -/
def Path.leadingNames : List Path.Component → List String
  | .name n :: rest => n :: leadingNames rest
  | _ => []

namespace Tree

/-! ## Additions that strand -/

/-- Whether an addition to the tree makes nodes and gives no answer: the path is one that the tree takes, with something
else than a name in it, and the names in front of that lead to no node yet. -/
def Strands (t : Tree) (a : Arena) (d : Disk) (p : Path) : Prop :=
  ∃ rest metadata, p.below? t.area.path = some rest ∧ d.metadata? p = some metadata ∧ t.area.covers p = true ∧
    t.hides rest = false ∧ Path.plainNames? rest = none ∧
    ∀ r, t.root = some r → a.contains r = true ∧ a.descend? r (Path.leadingNames rest) = none

theorem Strands.alike (h : t.Strands a d p) (hal : Alike a b) : t.Strands b d p := by
  obtain ⟨rest, metadata, hrest, hm, hcov, hhide, hplain, hroot⟩ := h
  refine ⟨rest, metadata, hrest, hm, hcov, hhide, hplain, fun r hr => ?_⟩
  rw [hal.contains, descend?_congr hal.children hal.name?]
  exact hroot r hr

theorem strands_alike_iff (hal : Alike a b) : t.Strands b d p ↔ t.Strands a d p :=
  ⟨fun h => h.alike hal.symm, fun h => h.alike hal⟩

/-- The walk of an addition makes a node exactly if the names in front do not lead to one. -/
theorem addBelow_top {added : Added} (h : a.WellFormed) (hcur : a.contains current = true)
    (hadd : t.addBelow d p metadata a top current way rest = .ok added) :
    added.top = none ↔ top = none ∧ (a.descend? current (Path.leadingNames rest)).isSome := by
  induction rest generalizing a top current way with
  | nil =>
    cases hadd
    simp [Path.leadingNames, descend?]
  | cons c rest ih =>
    cases c with
    | name name =>
      rw [Path.leadingNames, descend?]
      cases hc : a.child? current name with
      | some child =>
        rw [addBelow_found h hcur hc] at hadd
        rw [Option.bind_some]
        exact ih h (contains_of_parent? (h.parent?_of_child? hc)) hadd
      | none =>
        obtain ⟨child, b, hmake, hs⟩ := sprouted_makeNode h t d p metadata name (way.child name) rest
        obtain ⟨c, hattach, hs⟩ := hs.attach hcur
        rw [addBelow_missing h hcur hc hmake hattach] at hadd
        rw [ih hs.wellFormed hs.contains_top hadd]
        simp
    | root | here | up =>
      cases hadd
      simp [Path.leadingNames, descend?]

/-- What an addition comes to where the path goes through something else than names: whatever the walk has made stays
without an answer. -/
theorem add_of_plainNames?_eq_none (h : a.WellFormed) (hroot : ∀ r, t.root = some r → a.contains r = true)
    (hrest : p.below? t.area.path = some rest) (hm : d.metadata? p = some metadata) (hcov : t.area.covers p = true)
    (hhide : t.hides rest = false) (hplain : Path.plainNames? rest = none) :
    ∃ r c made added last, t.ensureRoot a d p metadata rest = .ok (r, made, c) ∧ Underway a r made c r ∧
      (t.root = some r ∨ t.root = none ∧ made = some r) ∧
      { t with root := some r }.addBelow d p metadata c made r t.area.path rest = .ok added ∧
      Underway a r added.top added.arena last ∧
      t.add a d p = .ok (none, { t with root := some r }, added.arena) := by
  obtain ⟨r, made, c, hensure, hu, hor⟩ := ensureRoot_spec h hroot d p metadata rest
  obtain ⟨added, last, hadd, hend, hcomplete⟩ :=
    addBelow_spec h hu { t with root := some r } d p metadata t.area.path rest
  refine ⟨r, c, made, added, last, hensure, hu, hor, hadd, hend, ?_⟩
  rw [hplain] at hcomplete
  simp only [add, hrest, hm, hcov, hhide, hensure, ok_bind, hadd, Added.outcome, hcomplete, pure_eq_ok]
  rfl

/-- An addition that strands makes a node and has no answer. -/
theorem Strands.add (h : a.WellFormed) (hs : t.Strands a d p) :
    ∃ t' b, t.add a d p = .ok (none, t', b) ∧ ¬Alike a b := by
  obtain ⟨rest, metadata, hrest, hm, hcov, hhide, hplain, hroot⟩ := hs
  obtain ⟨r, c, made, added, last, hensure, hu, hor, hadd, hend, hrun⟩ :=
    add_of_plainNames?_eq_none h (fun r hr => (hroot r hr).1) hrest hm hcov hhide hplain
  refine ⟨_, _, hrun, fun hal => ?_⟩
  have hsome : added.top ≠ none := by
    rw [ne_eq, addBelow_top (hu.wellFormed h) hu.contains hadd]
    rcases hor with hr | ⟨-, rfl⟩
    · rw [ensureRoot, hr] at hensure
      cases hensure
      simp [(hroot r hr).2]
    · simp
  -- The topmost of the new nodes was not there before.
  have hnew : ∀ {q top}, Sprouted a added.arena q top → False := fun hs =>
    hs.fresh _ (.refl _ _) (by rw [← hal.contains, hs.contains_top])
  generalize htop : added.top = top at hend hsome
  generalize added.arena = b at hend hnew
  cases hend with
  | unchanged => exact hsome rfl
  | below _ hs | alone hs => exact hnew hs

/-- An addition that has no answer and does not strand changes nothing. -/
theorem add_of_not_strands (h : a.WellFormed) (hs : ¬t.Strands a d p) (hadd : t.add a d p = .ok (none, t', b)) :
    t' = t ∧ b = a := by
  have hout := addOutcome_of_ok h hadd
  by_cases hstale : ∃ r, t.root = some r ∧ ¬a.contains r = true
  · obtain ⟨r, hr, hstale⟩ := hstale
    exact (add_of_stale hr hstale hadd).2
  push Not at hstale
  -- With names only, growth is an answer.
  have hnamed : ∀ names, t.names? p = some names → t' = t ∧ b = a := by
    intro names hnames
    cases hout with
    | unchanged => exact ⟨rfl, rfl⟩
    | root _ _ hmade | below _ _ _ hmade =>
      rcases hmade with hmade | ⟨-, hnone⟩
      · cases hmade
      · rw [hnames] at hnone
        cases hnone
  cases hrest : p.below? t.area.path with
  | none =>
    simp only [add, hrest] at hadd
    cases hadd
    exact ⟨rfl, rfl⟩
  | some rest =>
    cases hm : d.metadata? p with
    | none =>
      simp only [add, hrest, hm] at hadd
      cases hadd
      exact ⟨rfl, rfl⟩
    | some metadata =>
      by_cases htaken : (!t.area.covers p || t.hides rest) = true
      · simp only [add, hrest, hm, htaken, if_true] at hadd
        cases hadd
        exact ⟨rfl, rfl⟩
      · have htaken : t.area.covers p = true ∧ t.hides rest = false := by simpa using htaken
        cases hplain : Path.plainNames? rest with
        | some names => exact hnamed names (by rw [names?, hrest, Option.bind_some, hplain])
        | none =>
          obtain ⟨r, c, made, added, last, hensure, hu, hor, hbelow, hend, hrun⟩ :=
            add_of_plainNames?_eq_none h hstale hrest hm htaken.1 htaken.2 hplain
          simp only [hadd, Except.ok.injEq, Prod.mk.injEq, true_and] at hrun
          obtain ⟨rfl, rfl⟩ := hrun
          rcases hor with hr | ⟨hr, -⟩
          · rw [ensureRoot, hr] at hensure
            cases hensure
            have hfound : (a.descend? r (Path.leadingNames rest)).isSome := by
              by_contra hnone
              refine hs ⟨rest, metadata, hrest, hm, htaken.1, htaken.2, hplain, fun r' hr' => ⟨hstale r' hr', ?_⟩⟩
              obtain rfl := Option.some.inj (hr.symm.trans hr')
              simpa using hnone
            have htop := (addBelow_top h (hstale r hr) hbelow).2 ⟨rfl, hfound⟩
            refine ⟨by rw [← hr], ?_⟩
            rw [htop] at hend
            generalize added.arena = b at hend
            cases hend
            rfl
          · exact absurd ⟨rest, metadata, hrest, hm, htaken.1, htaken.2, hplain, by simp [hr]⟩ hs

/-! ## Renames of nothing -/

/-- A rename of nothing, or of the area itself, changes nothing. -/
theorem rename_nothing {s : Option NodeId} (hmove : old.sameParent new = true) (hl : t.locate a old = .ok s)
    (hs : s = none ∨ old.same t.area.path = true) : t.rename a old new = .ok (none, a) := by
  unfold rename
  by_cases harea : old.same t.area.path = true
  · simp [hmove, harea]
  · obtain rfl := hs.resolve_right harea
    simp [hmove, harea, hl]

end Tree

namespace Index

/-! ## What is left untouched -/

/-- An index in which nothing has changed that can be seen: the trees, the nodes but for the paths they know, the
numbers of entries and what the subscribers were told. -/
structure Untouched (x y : Index) : Prop where
  arena : Alike x.arena y.arena
  trees : y.trees = x.trees
  size : y.size = x.size
  counter : y.counter = x.counter
  feed : y.feed = x.feed

theorem Untouched.refl (x : Index) : Untouched x x := ⟨.refl _, rfl, rfl, rfl, rfl⟩

theorem Untouched.withArena (h : Alike x.arena b) : Untouched x (x.withArena b) := ⟨h, rfl, rfl, rfl, rfl⟩

theorem Untouched.trans {z : Index} (h : Untouched x y) (k : Untouched y z) : Untouched x z :=
  ⟨h.arena.trans k.arena, k.trees.trans h.trees, k.size.trans h.size, k.counter.trans h.counter, k.feed.trans h.feed⟩

theorem Untouched.symm (h : Untouched x y) : Untouched y x :=
  ⟨h.arena.symm, h.trees.symm, h.size.symm, h.counter.symm, h.feed.symm⟩

/-- Whether an operation has failed: it has no answer, or was asked to move an entry to another directory. -/
def Failed : Except Fault (Option Snapshot) → Prop
  | .ok none => True
  | .error (.renameMoves _ _) => True
  | _ => False

/-- Whether an operation leaves the index untouched if it fails. -/
def Atomic (x : Index) (work : IndexM (Option Snapshot)) : Prop :=
  Failed (x.perform work).1 → Untouched x (x.perform work).2

variable {work : IndexM (Option Snapshot)}

theorem atomic_of_untouched (h : Untouched x (x.perform work).2) : x.Atomic work := fun _ => h

theorem atomic_of_answer {s : Snapshot} (h : (x.perform work).1 = .ok (some s)) : x.Atomic work := fun hf => by
  rw [h] at hf
  exact hf.elim

/-- An operation that starts with something that changes nothing is atomic if the rest of it is. -/
theorem atomic_congr {rest : IndexM (Option Snapshot)} (hrun : x.perform work = y.perform rest) (h : Untouched x y) :
    x.Atomic work ↔ y.Atomic rest := by
  unfold Atomic
  rw [hrun]
  exact imp_congr_right fun _ => ⟨h.symm.trans, h.trans⟩

/-! ## Operation by operation -/

/-- Whether an addition makes nodes and gives no answer. -/
def AddStrands (x : Index) (d : Disk) (root : Option Path) (p : Path) : Prop :=
  ∃ i t, x.owner? root p = some (i, t) ∧ t.Strands x.arena d p

/-- Whether a rename makes nodes and gives no answer: there is nothing to rename, or only the area itself, and the
addition of the new path strands. -/
def RenameStrands (x : Index) (d : Disk) (root : Option Path) (old new : Path) : Prop :=
  ∃ i t s e, x.owner? root old = some (i, t) ∧ t.locate x.arena old = .ok s ∧ t.locate x.arena new = .ok e ∧
    old.sameParent new = true ∧ (s = none ∨ old.same t.area.path = true) ∧ x.AddStrands d root new

theorem atomic_addPath_iff (h : x.arena.WellFormed) (d : Disk) (root : Option Path) (p : Path) :
    x.Atomic (addPath d root p) ↔ ¬x.AddStrands d root p := by
  constructor
  · rintro hatomic ⟨i, t, ho, hs⟩
    obtain ⟨t', b, hadd, hal⟩ := hs.add h
    rw [Atomic, perform_addPath_none ho hadd] at hatomic
    exact hal (hatomic trivial).arena
  · intro hs
    cases ho : x.owner? root p with
    | none =>
      refine atomic_of_untouched ?_
      rw [perform_addPath_unowned ho]
      exact .refl x
    | some it =>
      obtain ⟨i, t⟩ := it
      cases hadd : t.add x.arena d p with
      | error fault =>
        refine atomic_of_untouched ?_
        rw [perform_addPath_error ho hadd]
        exact .refl x
      | ok v =>
        obtain ⟨made, t', b⟩ := v
        cases made with
        | none =>
          obtain ⟨rfl, rfl⟩ := Tree.add_of_not_strands h (fun hst => hs ⟨i, t, ho, hst⟩) hadd
          refine atomic_of_untouched ?_
          rw [perform_addPath_none ho hadd]
          obtain ⟨hlt, ht⟩ := List.getElem?_eq_some_iff.1 (get_of_owner? ho)
          exact ⟨.refl _, by rw [← ht, List.set_getElem_self], rfl, rfl, rfl⟩
        | some top =>
          obtain ⟨s, y, hrun, -⟩ := perform_addPath_some h ho hadd
          exact atomic_of_answer (congrArg Prod.fst hrun)

theorem atomic_removePath (h : x.arena.WellFormed) (root : Option Path) (p : Path) :
    x.Atomic (removePath root p) := by
  rcases perform_removePath_answer h root p with hsame | hfault | ⟨s, hs⟩
  · refine atomic_of_untouched ?_
    rw [hsame]
    exact .refl x
  · intro hf
    rw [hfault] at hf
    exact hf.elim
  · exact atomic_of_answer hs

theorem atomic_refreshPath (h : x.arena.WellFormed) (d : Disk) (root : Option Path) (p : Path) :
    x.Atomic (refreshPath d root p) := by
  have hsame : ∀ {r}, x.perform (refreshPath d root p) = (r, x) → x.Atomic (refreshPath d root p) := fun hr =>
    atomic_of_untouched (by rw [hr]; exact .refl x)
  cases ho : x.owner? root p with
  | none => exact hsame (perform_refreshPath_unowned ho)
  | some it =>
    obtain ⟨i, t⟩ := it
    cases hre : t.refresh x.arena d p with
    | error fault => exact hsame (perform_refreshPath_error ho hre)
    | ok v =>
      obtain ⟨found, b⟩ := v
      cases found with
      | none => exact hsame (perform_refreshPath_none ho hre)
      | some id =>
        obtain ⟨s, y, _, hrun, -⟩ := perform_refreshPath_some h ho hre
        exact atomic_of_answer (congrArg Prod.fst hrun)

theorem atomic_setPinned (h : x.arena.WellFormed) (p : Path) (on : Bool) : x.Atomic (setPinned p on) := by
  rcases perform_setPinned_answer h p on with hsame | ⟨s, hs⟩
  · refine atomic_of_untouched ?_
    rw [hsame]
    exact .refl x
  · exact atomic_of_answer hs

theorem addStrands_iff_of_untouched (h : Untouched x y) :
    y.AddStrands d root p ↔ x.AddStrands d root p := by
  have ho : y.owner? root p = x.owner? root p := by unfold owner?; rw [h.trees]
  simp only [AddStrands, ho, Tree.strands_alike_iff h.arena]

/-- Where its look-ups come to an end, a rename strands exactly if it finds nothing to rename and the addition that it
comes to strands. -/
theorem renameStrands_iff {source target : Option NodeId} (ho : x.owner? root old = some (i, t))
    (hs : t.locate x.arena old = .ok source) (he : t.locate x.arena new = .ok target) :
    x.RenameStrands d root old new ↔ old.sameParent new = true ∧
      (source = none ∨ old.same t.area.path = true) ∧ x.AddStrands d root new := by
  constructor
  · rintro ⟨i', t', s', e', ho', hs', -, hstrands⟩
    obtain ⟨-, rfl⟩ : i = i' ∧ t = t' := by simpa using ho.symm.trans ho'
    obtain rfl : source = s' := by simpa using hs.symm.trans hs'
    exact hstrands
  · exact fun hstrands => ⟨i, t, source, target, ho, hs, he, hstrands⟩

theorem atomic_renamePath_iff (h : x.arena.WellFormed) (d : Disk) (root : Option Path) (old new : Path) :
    x.Atomic (renamePath d root old new) ↔ ¬x.RenameStrands d root old new := by
  cases ho : x.owner? root old with
  | none =>
    refine iff_of_true (atomic_of_untouched ?_) ?_
    · rw [perform_renamePath_unowned ho]
      exact .refl x
    · rintro ⟨i, t, s, e, ho', -⟩
      rw [ho] at ho'
      cases ho'
  | some it =>
    obtain ⟨i, t⟩ := it
    by_cases hlook : ∃ s e, t.locate x.arena old = .ok s ∧ t.locate x.arena new = .ok e
    · obtain ⟨s, e, hs, he⟩ := hlook
      obtain ⟨b, hal, herror, hnone, hsome⟩ := perform_renamePath_looked ho hs he (d := d)
      have hb : b.WellFormed := hal.sameLinks.wellFormed h
      have hiff := renameStrands_iff (d := d) ho hs he
      rw [← Tree.locate_alike hal] at hs
      have hnothing : x.RenameStrands d root old new → t.rename b old new = .ok (none, b) := fun hstrands =>
        Tree.rename_nothing (hiff.1 hstrands).1 hs (hiff.1 hstrands).2.1
      cases hren : t.rename b old new with
      | error fault =>
        refine iff_of_true (atomic_of_untouched ?_) fun hstrands => ?_
        · rw [herror fault hren]
          exact .withArena hal
        · rw [hnothing hstrands] at hren
          cases hren
      | ok v =>
        obtain ⟨found, c⟩ := v
        obtain ⟨hmove, hfound, hsame, hmoved⟩ := Tree.rename_eq_ok hb hren
        cases found with
        | none =>
          obtain rfl := hsame rfl
          rw [atomic_congr (hnone _ hren) (.withArena hal), atomic_addPath_iff hb,
            addStrands_iff_of_untouched (.withArena hal), hiff]
          refine not_congr ⟨fun hstrands => ⟨hmove, ?_, hstrands⟩, fun hstrands => hstrands.2.2⟩
          by_cases harea : old.same t.area.path = true
          · exact .inr harea
          · rw [Tree.locate_eq_ok hb hs, hfound, Tree.renames?, if_pos ⟨hmove, harea⟩]
            exact .inl rfl
        | some id =>
          obtain ⟨hid, rfl⟩ := hmoved id rfl
          refine iff_of_true ?_ fun hstrands => ?_
          · have hc := Maintains.renamed (d := d) hb hid new.entryName
            obtain ⟨snap, y, hrun, -⟩ := hsome id _ hc.wellFormed (by
              rw [(sameLinks_renamed _ id _).contains, contains_cleared hb hid]) hren
            exact atomic_of_answer (congrArg Prod.fst hrun)
          · rw [hnothing hstrands] at hren
            cases hren
    · refine iff_of_true (atomic_of_untouched ?_) ?_
      · obtain ⟨fault, hrun⟩ := perform_renamePath_lost (d := d) ho hlook
        rw [hrun]
        exact .refl x
      · rintro ⟨i', t', s, e, ho', hs, he, -⟩
        obtain ⟨-, rfl⟩ : i = i' ∧ t = t' := by simpa using ho.symm.trans ho'
        exact hlook ⟨s, e, hs, he⟩

/-! ## Runs -/

/-- **Behind every run whose operations come back, a failed operation leaves the index untouched**, unless it is an
addition that strands or a rename that comes to one; and these two never do. -/
theorem atomic_behind_iff (s : Settings) (run : List (Disk × Operation))
    (hr : Throughout Returns (ofSettings s) run) (d : Disk) :
    (∀ root p, ((ofSettings s).behind run).Atomic (addPath d root p) ↔
      ¬((ofSettings s).behind run).AddStrands d root p) ∧
    (∀ root p, ((ofSettings s).behind run).Atomic (removePath root p)) ∧
    (∀ root old new, ((ofSettings s).behind run).Atomic (renamePath d root old new) ↔
      ¬((ofSettings s).behind run).RenameStrands d root old new) ∧
    (∀ root p, ((ofSettings s).behind run).Atomic (refreshPath d root p)) ∧
    ∀ p on, ((ofSettings s).behind run).Atomic (setPinned p on) :=
  have h := wellFormed_behind (sound_ofSettings s).wellFormed hr
  ⟨atomic_addPath_iff h d, atomic_removePath h, atomic_renamePath_iff h d, atomic_refreshPath h d, atomic_setPinned h⟩

/-- The directory that was collected, with another directory in it since. -/
def extended : Entry :=
  .directory [("s", .directory []), ("x", .file (.zeros 0) 0 false), ("y", .file (.zeros 0) 0 false)]

theorem metadata?_extended : (rootDisk extended).metadata? ⟨"a/s/../x"⟩ = some {} := by
  have hwalked : Disk.walked "a/s/../x" = ["a", "s", "..", "x"] := by decide +kernel
  have hname : ∀ n ∈ ["a", "s", "x"], Disk.isName n = true := by decide +kernel
  have hplace : (rootDisk extended).place? false ⟨"a/s/../x"⟩ = some ["a", "x"] := by
    rw [Disk.place?, if_neg (by decide +kernel), hwalked]
    simp [Disk.resolve, hname, Disk.at?, rootDisk, extended, Entry.at?, Entry.child?, List.lookup]
  rw [Disk.metadata?, Disk.find?, hplace]
  rfl

/-- The path goes through the new directory and back again: the addition makes a node for that, and has no answer. -/
theorem addStrands_extended :
    filledIndex.AddStrands (rootDisk extended) none ⟨"a/s/../x"⟩ := by
  refine ⟨0, _, rfl, [.name "s", .up, .name "x"], {}, by decide +kernel, metadata?_extended,
    by decide +kernel, by decide +kernel, rfl, fun r hr => ?_⟩
  obtain rfl : ⟨0⟩ = r := Option.some.inj hr
  exact ⟨rfl, by decide +kernel⟩

theorem atomic_behind_iff_filled :
    Throughout Returns (ofSettings {}) [(rootDisk filled, .collect [⟨⟨"a"⟩, true⟩] {})] ∧
      ¬filledIndex.Atomic (addPath (rootDisk extended) none ⟨"a/s/../x"⟩) ∧
      filledIndex.Atomic (addPath (rootDisk extended) none ⟨"a/s"⟩) := by
  have h := (atomic_behind_iff {} _ returns_collect_filled (rootDisk extended)).1
  simp only [behind, List.foldl_cons, List.foldl_nil, step, after_collect_filled] at h
  refine ⟨returns_collect_filled, fun hatomic => (h _ _).1 hatomic addStrands_extended, (h _ _).2 ?_⟩
  rintro ⟨i, t, ho, rest, metadata, hrest, -, -, -, hplain, -⟩
  cases ho
  cases hrest
  cases hplain

/-- **Not every operation that fails leaves the index untouched.** -/
theorem not_forall_atomic : ¬∀ s run, Throughout Returns (ofSettings s) run → ∀ d,
    (∀ root p, ((ofSettings s).behind run).Atomic (addPath d root p)) ∧
    (∀ root p, ((ofSettings s).behind run).Atomic (removePath root p)) ∧
    (∀ root old new, ((ofSettings s).behind run).Atomic (renamePath d root old new)) ∧
    (∀ root p, ((ofSettings s).behind run).Atomic (refreshPath d root p)) ∧
    ∀ p on, ((ofSettings s).behind run).Atomic (setPinned p on) := by
  intro h
  have hadd := (h {} _ returns_collect_filled (rootDisk extended)).1 none ⟨"a/s/../x"⟩
  have hwf := wellFormed_behind (sound_ofSettings {}).wellFormed returns_collect_filled
  simp only [behind, List.foldl_cons, List.foldl_nil, step, after_collect_filled] at hadd hwf
  exact (atomic_addPath_iff hwf _ _ _).1 hadd addStrands_extended

end Index

end FileIndex
