/-
An index that asks for forms does what the index does that makes them. Work that is given the forms it asks for
comes to the same (`Asking.outcome_add`, `Asking.work_collect`), and a shared projector gives the forms, whatever it
remembers and whatever others ask of it (`Asking.run_eq`).
-/
import FileIndex.Index.Asking
import FileIndex.Proofs.Index.Perform
import FileIndex.Proofs.Outcome
import FileIndex.Proofs.Projection.Memo

namespace FileIndex

theorem Projector.Faithful.behind {p : Projector} (h : p.Faithful) (asked : List (Nat × Projection × String)) :
    (p.behind asked).Faithful := by
  induction asked generalizing p with
  | nil => exact h
  | cons a asked ih => exact ih (h.apply a.1 a.2.1 a.2.2).2

namespace Asking

variable {α β : Type}

/-! ## Answers -/

/-- Work that asks a shared projector comes to what it comes to with the forms themselves. -/
theorem run_eq {s : SharedProjector} (h : s.Faithful) (w : Asking α) :
    (w.run s).1 = w.answer ∧ (w.run s).2.Faithful := by
  induction w generalizing s with
  | done r => exact ⟨rfl, h⟩
  | ask f t next ih =>
    obtain ⟨hform, hnext⟩ := (h.behind (s.traffic.others s.next)).apply (s.traffic.time s.next) f t
    rw [answer, ← hform]
    exact ih _ hnext

theorem answer_bind (w : Asking α) (g : α → Asking β) : (w >>= g).answer = (g w.answer).answer := by
  induction w with
  | done r => rfl
  | ask f t next ih => exact ih (f.apply t)

/-- What work comes to that is given the forms it asks for, or the fault that it runs into. -/
def outcome (w : AskingE α) : Except Fault α := w.run.answer

@[simp] theorem outcome_pure (r : α) : outcome (pure r) = .ok r := rfl

@[simp] theorem outcome_answer (w : Asking α) : outcome (liftM w) = .ok w.answer := answer_bind w _

@[simp] theorem answer_form (f : Projection) (t : String) : (form f t).answer = f.apply t := rfl

@[simp] theorem outcome_lift (r : Except Fault α) : outcome (liftM r) = r := rfl

@[simp] theorem outcome_bind (w : AskingE α) (g : α → AskingE β) :
    outcome (w >>= g) = outcome w >>= fun r => outcome (g r) := by
  have hbind := answer_bind w.run (ExceptT.bindCont g)
  change (w.run >>= ExceptT.bindCont g).answer = _
  rw [hbind]
  unfold outcome
  cases w.run.answer <;> rfl

theorem outcome_bind_eq {w : AskingE α} {r : Except Fault α} {g : α → AskingE β} {k : α → Except Fault β}
    (hw : outcome w = r) (hg : ∀ v, outcome (g v) = k v) : outcome (w >>= g) = r >>= k := by
  rw [outcome_bind, hw]
  exact congrArg (r >>= ·) (funext hg)

/-- The work on an index that makes the forms which other work asks for. -/
def work (w : AskingM α) : IndexM α := ExceptT.mk fun x => (w.run.run x).answer

@[simp] theorem work_pure (r : α) : work (pure r) = pure r := rfl

@[simp] theorem work_get : work get = get := rfl

@[simp] theorem work_set (x : Index) : work (set x) = set x := rfl

@[simp] theorem work_modify (g : Index → Index) : work (modify g) = modify g := rfl

@[simp] theorem work_modifyGet (g : Index → α × Index) : work (modifyGet g) = modifyGet g := rfl

@[simp] theorem work_lift (r : Except Fault α) : work (liftM r) = liftM r := rfl

@[simp] theorem work_keep (w : IndexM α) : work (keep w) = w := rfl

@[simp] theorem work_aside (w : AskingE α) : work (aside w) = liftM (outcome w) := by
  funext x
  exact answer_bind w.run _

@[simp] theorem work_bind (w : AskingM α) (g : α → AskingM β) : work (w >>= g) = work w >>= fun r => work (g r) := by
  funext x
  refine (answer_bind (w.run.run x) _).trans ?_
  change _ = (ExceptT.bindCont (m := StateM Index) (fun r => work (g r)) (w.run.run x).answer.1).run (w.run.run x).answer.2
  generalize (w.run.run x).answer = r
  obtain ⟨r | fault, y⟩ := r <;> rfl

theorem work_bind_eq {w : AskingM α} {v : IndexM α} {g : α → AskingM β} {k : α → IndexM β} (hw : work w = v)
    (hg : ∀ r, work (g r) = k r) : work (w >>= g) = v >>= k := by
  rw [work_bind, hw]
  exact congrArg (v >>= ·) (funext hg)

/-! ## Trees -/

@[simp] theorem outcome_insertNamed (a : Arena) (name : String) (metadata : Metadata) :
    outcome (insertNamed a name metadata) = .ok (a.insert (.ofName name metadata)) := rfl

mutual

@[simp] theorem outcome_insertCollected (a : Arena) : ∀ found : Collected,
    outcome (insertCollected a found) = a.insertCollected found
  | .entry name metadata founds => by
    rw [insertCollected, Arena.insertCollected, outcome_bind, outcome_insertNamed, ok_bind, outcome_bind,
      outcome_insertChildren]
    rfl

@[simp] theorem outcome_insertChildren (a : Arena) (parent : NodeId) : ∀ founds : List Collected,
    outcome (insertChildren a parent founds) = a.insertChildren parent founds
  | [] => rfl
  | found :: founds => by
    rw [insertChildren, Arena.insertChildren, outcome_bind, outcome_insertCollected]
    simp only [outcome_bind, outcome_lift, outcome_insertChildren]

end

@[simp] theorem outcome_ofCollected (area : Area) (includeHidden : Bool) (found : Option Collected) (a : Arena) :
    outcome (ofCollected area includeHidden found a) = Tree.ofCollected area includeHidden found a := by
  cases found with
  | none => rfl
  | some found =>
    simp only [ofCollected, Tree.ofCollected, outcome_bind, outcome_insertCollected, outcome_pure]
    rfl

@[simp] theorem outcome_createNode (t : Tree) (a : Arena) (d : Disk) (p : Path) (metadata : Metadata) :
    outcome (createNode t a d p metadata) = t.createNode a d p metadata := by
  unfold createNode Tree.createNode
  dsimp only
  split
  · cases FileIndex.walk d p (Tree.scope t.area t.includeHidden) {} with
    | collected found => exact outcome_insertCollected a found
    | missing | canceled => rfl
  · rfl

@[simp] theorem outcome_addBelow (t : Tree) (d : Disk) (p : Path) (metadata : Metadata) (a : Arena)
    (top : Option NodeId) (current : NodeId) (way : Path) (rest : List Path.Component) :
    outcome (addBelow t d p metadata a top current way rest) = t.addBelow d p metadata a top current way rest := by
  induction rest generalizing a top current way with
  | nil => rfl
  | cons c rest ih =>
    cases c with
    | name n =>
      refine outcome_bind_eq (outcome_lift _) fun child => ?_
      cases child with
      | some child => exact ih a top child _
      | none =>
        dsimp only
        split <;> simp [ih]
    | root | here | up => rfl

@[simp] theorem outcome_ensureRoot (t : Tree) (a : Arena) (d : Disk) (p : Path) (metadata : Metadata)
    (rest : List Path.Component) :
    outcome (ensureRoot t a d p metadata rest) = t.ensureRoot a d p metadata rest := by
  unfold ensureRoot Tree.ensureRoot
  cases t.root with
  | some root => rfl
  | none =>
    dsimp only
    split <;> simp

/-- With the forms given, an addition that asks for them comes to what the addition comes to. -/
@[simp] theorem outcome_add (t : Tree) (a : Arena) (d : Disk) (p : Path) : outcome (add t a d p) = t.add a d p := by
  unfold add Tree.add
  cases p.below? t.area.path with
  | none => rfl
  | some rest =>
    cases d.metadata? p with
    | none => rfl
    | some metadata =>
      dsimp only
      split <;> simp

@[simp] theorem outcome_rename (t : Tree) (a : Arena) (old new : Path) :
    outcome (rename t a old new) = t.rename a old new := by
  unfold rename Tree.rename
  dsimp only
  split
  · rfl
  · split
    · rfl
    · refine outcome_bind_eq (outcome_lift _) fun found => ?_
      cases found <;> simp [Node.rename]

/-! ## Collecting -/

@[simp] theorem work_build (d : Disk) (found : List (Area × Option Collected)) :
    work (build d found) = Index.build d found := by
  induction found with
  | nil => rfl
  | cons entry found ih => simp [build, Index.build, ih]

@[simp] theorem work_gather (d : Disk) (areas : List Area) (c : Cancellation) :
    work (gather d areas c) = Index.gather d areas c := by
  refine work_bind_eq (work_modify _) fun _ => work_bind_eq work_get fun x => ?_
  refine work_bind_eq (work_set _) fun _ => ?_
  dsimp only
  generalize Index.walkAll d x.includeHidden c _ = found
  cases found <;> simp

/-- Given the forms, a collect that asks for them is the collect. -/
@[simp] theorem work_collect (d : Disk) (areas : List Area) (c : Cancellation) :
    work (collect d areas c) = Index.collect d areas c := by
  refine work_bind_eq (work_gather d areas c) fun g => ?_
  split <;> simp

/-! ## Edits -/

@[simp] theorem work_addPath (d : Disk) (root : Option Path) (p : Path) :
    work (addPath d root p) = Index.addPath d root p := by
  refine work_bind_eq work_get fun x => ?_
  cases x.owner? root p with
  | none => rfl
  | some it =>
    obtain ⟨i, t⟩ := it
    refine work_bind_eq (by simp) fun v => work_bind_eq (work_set _) fun _ => ?_
    obtain ⟨made, t, arena⟩ := v
    cases made <;> simp

@[simp] theorem work_renamePath (d : Disk) (root : Option Path) (old new : Path) :
    work (renamePath d root old new) = Index.renamePath d root old new := by
  refine work_bind_eq work_get fun x => ?_
  cases x.owner? root old with
  | none => rfl
  | some it =>
    obtain ⟨i, t⟩ := it
    refine work_bind_eq (work_lift _) fun source => work_bind_eq (work_lift _) fun target => ?_
    refine work_bind_eq (work_keep _) fun replaced => work_bind_eq work_get fun y => ?_
    refine work_bind_eq (by simp) fun v => work_bind_eq (work_modify _) fun _ => ?_
    obtain ⟨renamed, arena⟩ := v
    cases renamed with
    | none => exact work_addPath d root new
    | some id =>
      dsimp only
      split <;> simp

/-- Given the forms, a reported change is applied as it is without questions. -/
@[simp] theorem work_applyChange (d : Disk) (root : Path) (c : PathChange) :
    work (applyChange d root c) = Index.applyChange d root c := by
  refine work_bind_eq work_get fun x => ?_
  split
  · rfl
  · cases c with
    | created p =>
      refine work_bind_eq (work_addPath d _ p) fun found => ?_
      split <;> simp
    | deleted p => simp
    | renamed source target => simp
    | changed p =>
      refine work_bind_eq (work_keep _) fun found => ?_
      split <;> simp

/-! ## Searches -/

/-- Whether, given the forms that are asked for, a way to come to the forms of an item's texts comes to those that a search
reads. -/
def Forming.Fits (forming : Forming) (item : Item) : Prop :=
  ∀ f p, (forming f p item).answer = Matcher.form f p item

theorem fits_atHand (item : Item) : Forming.Fits atHand item := by
  intro f p
  cases f <;> cases p <;> rfl

variable {forming : Forming} {item : Item} {c : Cancellation}

theorem Forming.Fits.outcome_holds (h : forming.Fits item) (m : Matcher) (p : Property) :
    outcome (holds forming m p item) = m.holds p item := by
  cases m with
  | word needle | fuzzy needle => simp [holds, Matcher.holds, h _ p]
  | exact | pattern | compare => rfl

theorem Forming.Fits.outcome_test (h : forming.Fits item) (k : CompiledKey) : outcome (test forming k item) = k.test item :=
  h.outcome_holds k.matcher k.property

theorem Forming.Fits.outcome_foldKey (h : forming.Fits item) (current : Bool) (k : CompiledKey) :
    outcome (foldKey forming item current k) = CompiledQuery.foldKey item current k := by
  unfold foldKey CompiledQuery.foldKey
  cases k.conjunction <;> cases current
  case not.true => exact (outcome_bind _ _).trans (by rw [h.outcome_test k]; rfl)
  all_goals first | rfl | exact h.outcome_test k

theorem Forming.Fits.outcome_foldKeys (h : forming.Fits item) (current : Bool) (keys : List CompiledKey) :
    outcome (foldKeys forming item current keys) = keys.foldlM (CompiledQuery.foldKey item) current := by
  induction keys generalizing current with
  | nil => rfl
  | cons k keys ih =>
    rw [List.foldlM_cons]
    exact outcome_bind_eq (h.outcome_foldKey current k) ih

theorem Forming.Fits.outcome_anyTest (h : forming.Fits item) (keys : List CompiledKey) :
    outcome (anyTest forming item keys) = CompiledQuery.anyTest item keys := by
  induction keys with
  | nil => rfl
  | cons k keys ih =>
    rw [anyTest, CompiledQuery.anyTest, outcome_bind, h.outcome_test]
    rcases k.test item with fault | _ | _
    · rfl
    · exact ih
    · rfl

theorem Forming.Fits.outcome_accepts (h : forming.Fits item) (q : CompiledQuery) :
    outcome (accepts forming q item) = q.accepts item := by
  rw [accepts, CompiledQuery.accepts, outcome_bind, h.outcome_foldKeys]
  rcases q.keys.foldlM (CompiledQuery.foldKey item) true with fault | _ | _
  · rfl
  · exact h.outcome_anyTest _
  · rfl

section

variable {view : α → Item} {items : List α}

theorem outcome_filterFrom (h : ∀ i ∈ items, forming.Fits (view i)) (q : CompiledQuery) (n : Nat) :
    outcome (filterFrom forming q view c n items) = q.filterFrom view c n items := by
  induction items generalizing n with
  | nil => rfl
  | cons i items ih =>
    rw [filterFrom, CompiledQuery.filterFrom]
    split
    · rfl
    · rw [outcome_bind, (h i List.mem_cons_self).outcome_accepts]
      cases q.accepts (view i) with
      | error fault => rfl
      | ok passes =>
        rw [ok_bind, outcome_bind, ih fun j hj => h j (List.mem_cons_of_mem i hj)]
        rfl

theorem outcome_evaluate (h : ∀ i ∈ items, forming.Fits (view i)) (q : CompiledQuery) :
    outcome (evaluate forming q view items c) = q.evaluate view items c := by
  rw [evaluate, CompiledQuery.evaluate]
  split
  · rfl
  · rw [outcome_bind, outcome_filterFrom fun i hi => h i (List.mem_of_mem_filter hi)]
    rfl

end

theorem outcome_evaluateAll {items : List (NodeId × Item)} (h : ∀ i ∈ items, forming.Fits i.2) (a : Arena)
    (queries : List CompiledQuery) :
    outcome (evaluateAll forming items c a queries) = Index.evaluateAll items c a queries := by
  induction queries generalizing a with
  | nil => rfl
  | cons q queries ih =>
    refine outcome_bind_eq (outcome_evaluate h q) fun found => ?_
    cases found with
    | none => rfl
    | some found =>
      refine outcome_bind_eq (ih _) fun others => ?_
      cases others <;> rfl

/-- Given the forms, searches come to the same whether the forms of names are at hand or asked for, if those that are at
hand are right. -/
theorem perform_multiSearch_forming {x : Index} (h : ∀ items, x.searched = .ok items → ∀ i ∈ items, forming.Fits i.2)
    (queries : List CompiledQuery) (c : Cancellation) :
    x.perform (work (multiSearch forming queries c)) = x.perform (Index.multiSearch queries c) := by
  simp only [multiSearch, Index.multiSearch, work_bind, work_get, work_lift, work_aside, Index.perform_bind,
    Index.perform_get, Index.perform_lift]
  cases hitems : x.searched with
  | error fault => rfl
  | ok items =>
    dsimp only
    rw [outcome_evaluateAll (h items hitems)]
    rcases Index.evaluateAll items c x.arena queries with fault | _ | ⟨results, arena⟩ <;> rfl

@[simp] theorem work_multiSearch (queries : List CompiledQuery) (c : Cancellation) :
    work (multiSearch atHand queries c) = Index.multiSearch queries c :=
  funext fun x => perform_multiSearch_forming (x := x) (fun _ _ i _ => fits_atHand i.2) queries c

@[simp] theorem work_search (q : CompiledQuery) (c : Cancellation) : work (search atHand q c) = Index.search q c :=
  work_bind_eq (work_multiSearch [q] c) fun _ => rfl

@[simp] theorem work_subscribedSearch (q : CompiledQuery) (c : Cancellation) :
    work (subscribedSearch atHand q c) = Index.subscribedSearch q c := by
  refine work_bind_eq (work_search q c) fun found => ?_
  cases found with
  | none => rfl
  | some found => exact work_bind_eq (work_modifyGet _) fun _ => rfl

end Asking

end FileIndex
