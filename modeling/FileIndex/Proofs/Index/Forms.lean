/-
The forms of names in an index that asks a shared projector for them (`Shared`). The projector may remember forms or not,
forgets them after any time, and answers others in between; in every run the index is the one that makes all forms
itself (`Shared.behind_eq`), so its nodes, what it tells and what it hands out have the forms of their names
(`Shared.formed_behind`), and a key that reads a form of a name at hand comes to the same as one that asks for it.
-/
import FileIndex.Proofs.Engine.Excluding
import FileIndex.Proofs.Index.Asking
import FileIndex.Proofs.Index.Marking

namespace FileIndex

open Arena

variable {x : Index} {d : Disk} {s : Snapshot} {id : NodeId} {item : Item} {α β : Type}

/-! ## Forms of names -/

/-- Whether two texts are the forms of a name. -/
structure FormsOf (name fuzzy word : String) : Prop where
  fuzzy_eq : fuzzy = Projection.fuzzy.apply name
  word_eq : word = Projection.word.apply name

/-- Whether a node has the forms of its name. -/
def Node.Formed (n : Node) : Prop := FormsOf n.name n.fuzzy n.word

/-- Whether a snapshot has the forms of its name. -/
def Snapshot.Formed (s : Snapshot) : Prop := FormsOf s.name s.fuzzy s.word

/-- Whether what a search sees has the forms of its name. -/
def Item.Formed (item : Item) : Prop := FormsOf item.name item.fuzzy item.word

theorem Node.lasting_formed : Node.Lasting Node.Formed where
  ofName _ _ := ⟨rfl, rfl⟩
  rename _ _ _ := ⟨rfl, rfl⟩
  akin n m h hn := ⟨by rw [h.fuzzy, h.name, hn.fuzzy_eq], by rw [h.word, h.name, hn.word_eq]⟩

theorem Snapshot.Of.formed (h : s.Of Node.Formed) : s.Formed := by
  obtain ⟨id, n, p, hn, rfl⟩ := h
  exact hn

/-- What is taken out of its tree keeps its forms. -/
theorem Snapshot.Of.formed_taken (h : s.Of (Node.Taken Node.Formed)) : s.Formed := by
  obtain ⟨id, n, p, ⟨m, hm, rfl⟩, rfl⟩ := h
  exact hm

theorem IndexChange.Told.formed {c : IndexChange} {R : Prop} (h : c.Told Node.Formed R) : ∀ s ∈ c.nodes, s.Formed := by
  intro s hs
  cases c with
  | remove nodes =>
    rcases h with h | ⟨-, h⟩
    · exact (h s hs).formed_taken
    · exact (h s hs).formed
  | add nodes | update nodes | rename nodes old => exact (h s hs).formed
  | reset => cases hs

/-- To ask for every form comes to those that a search reads, if these are right. -/
theorem Item.Formed.fits_asMatched (h : item.Formed) : Asking.Forming.Fits Asking.asMatched item := by
  intro f p
  cases p with
  | text =>
    cases f with
    | fuzzy => exact h.fuzzy_eq.symm
    | word => exact h.word_eq.symm
  | date | isDirectory | isPinned | size | path => cases f <;> rfl

namespace Index

/-! ## What is handed out -/

theorem Holding.behind {P : Node → Prop} (hP : Node.Lasting P) (h : x.Holding P True) (run : List (Disk × Operation)) :
    (x.behind run).Holding P True := by
  induction run generalizing x with
  | nil => exact h
  | cons i run ih => exact ih (h.after hP fun _ => trivial)

/-- Whether a snapshot that may be handed out has the forms of its name. -/
def FormedIfAny (found : Option Snapshot) : Prop := ∀ s ∈ found, s.Formed

theorem formedIfAny_none : FormedIfAny none := fun _ hs => absurd hs (Option.not_mem_none _)

theorem formedIfAny_head? {nodes : List Snapshot} (h : ∀ s ∈ nodes, s.Formed) : FormedIfAny nodes.head? :=
  fun s hs => h s (List.mem_of_mem_head? hs)

theorem Gives.snapshotsBelow {Q : β → Prop} {f : List Snapshot → IndexM β} (h : x.arena.Every Node.Formed)
    (hf : ∀ nodes y, (∀ s ∈ nodes, s.Formed) → Gives Q y (f nodes)) : Gives Q x (Index.snapshotsBelow id >>= f) :=
  bind fun nodes y hnodes => by
    rw [perform_snapshotsBelow, Prod.mk.injEq, Except.ok.injEq] at hnodes
    exact hf nodes y fun s hs => (h.of_mem_snapshots Node.lasting_formed (hnodes.1 ▸ hs)).formed

theorem gives_addPath (h : x.arena.Every Node.Formed) (root : Option Path) (p : Path) :
    Gives FormedIfAny x (addPath d root p) := by
  unfold addPath
  refine .get ?_
  split
  · exact .pure formedIfAny_none
  · refine .lift fun v hadd => .set ?_
    obtain ⟨made, t', b⟩ := v
    have hb := Tree.every_add Node.lasting_formed h hadd
    cases made with
    | none => exact .pure formedIfAny_none
    | some id =>
      refine .snapshotsBelow hb fun nodes y hnodes => .lift fun bare _ => .modify ?_
      exact .pure (formedIfAny_head? hnodes)

theorem gives_removePath (h : x.arena.Every Node.Formed) (root : Option Path) (p : Path) :
    Gives FormedIfAny x (removePath root p) := by
  unfold removePath
  refine .get ?_
  split
  · exact .pure formedIfAny_none
  · refine .lift fun found _ => ?_
    cases found with
    | none => exact .pure formedIfAny_none
    | some id =>
      refine .lift fun bare _ => .modify (.lift fun b htake => .modify (.bind fun nodes y hnodes => ?_))
      obtain ⟨htold, -⟩ := Tree.takeOut_told Node.lasting_formed h htake
      rw [perform_snapshotsBelow, Prod.mk.injEq, Except.ok.injEq] at hnodes
      exact .modify (.modify (.pure (formedIfAny_head? fun s hs => (htold s (hnodes.1 ▸ hs)).formed_taken)))

theorem gives_renamePath (h : x.Holding Node.Formed True) (root : Option Path) (old new : Path) :
    Gives FormedIfAny x (renamePath d root old new) := by
  unfold renamePath
  refine .get ?_
  split
  · exact .pure formedIfAny_none
  · refine .lift fun source _ => .lift fun target _ => .bind fun replaced y hrun => .get (.lift fun v hren => ?_)
    obtain ⟨hy, -⟩ := holding_replacedBy Node.lasting_formed h hrun
    obtain ⟨renamed, b⟩ := v
    have hb := Tree.every_rename Node.lasting_formed hy.nodes hren
    refine .modify ?_
    cases renamed with
    | none => exact gives_addPath hb root new
    | some id =>
      dsimp only
      split
      · exact .modify (.snapshotsBelow hb fun nodes y hnodes => .modify (.pure (formedIfAny_head? hnodes)))
      · exact .snapshotsBelow hb fun nodes y hnodes => .modify (.pure (formedIfAny_head? hnodes))

theorem gives_publishUpdate (h : x.arena.Every Node.Formed) (id : NodeId) : Gives FormedIfAny x (publishUpdate id) := by
  refine .bind fun found y hfound => ?_
  have hs : (x.arena.snapshot id).1 = found := Except.ok.inj (congrArg Prod.fst hfound)
  cases found with
  | none => exact .pure formedIfAny_none
  | some s =>
    obtain ⟨n, p, hn, rfl⟩ := snapshot_eq_some hs
    refine .modify (.pure fun s hs => ?_)
    cases hs
    exact h id n hn

theorem gives_refreshPath (h : x.arena.Every Node.Formed) (root : Option Path) (p : Path) :
    Gives FormedIfAny x (refreshPath d root p) := by
  unfold refreshPath
  refine .get ?_
  split
  · exact .pure formedIfAny_none
  · refine .lift fun v href => .set ?_
    obtain ⟨found, b⟩ := v
    have hb := Tree.every_refresh Node.lasting_formed h href
    cases found with
    | none => exact .pure formedIfAny_none
    | some id => exact gives_publishUpdate hb id

theorem gives_setPinned (h : x.arena.Every Node.Formed) (p : Path) (on : Bool) :
    Gives FormedIfAny x (setPinned p on) := by
  unfold setPinned
  refine .get ?_
  split
  · exact .pure formedIfAny_none
  · refine .lift fun v hpin => .set ?_
    obtain ⟨found, b⟩ := v
    have hb := Tree.every_setPinned Node.lasting_formed h hpin
    cases found with
    | none => exact .pure formedIfAny_none
    | some id => exact gives_publishUpdate hb id

end Index

/-! ## Operations that ask -/

/-- What an edit hands out on a disk. -/
def Edit.handing (d : Disk) : Edit → AskingM (List Snapshot)
  | .add root p => do return (← Asking.addPath d root p).toList
  | .remove root p => do return (← Asking.keep (Index.removePath root p)).toList
  | .rename root old new => do return (← Asking.renamePath d root old new).toList
  | .refresh root p => do return (← Asking.keep (Index.refreshPath d root p)).toList
  | .pin p on => do return (← Asking.keep (Index.setPinned p on)).toList
  | .event root c => do
    Asking.applyChange d root c
    return []

/-- What an operation hands out on a disk. -/
def Operation.handing (d : Disk) : Operation → AskingM (List Snapshot)
  | .collect areas c => do
    let _ ← Asking.collect d areas c
    return []
  | .edit e => e.handing d
  | .search queries c => do return ((← Asking.multiSearch Asking.atHand queries c).getD []).flatten
  | .live q c => do return ((← Asking.subscribedSearch Asking.atHand q c).map (·.1)).getD []
  | .watch on => do
    Asking.keep (Index.setWatching d on)
    return []

namespace Index

/-- An operation that is given the forms it asks for leaves the index that it leaves without questions. -/
theorem perform_handing (x : Index) (d : Disk) (o : Operation) :
    (x.perform (Asking.work (o.handing d))).2 = x.after d o := by
  cases o with
  | edit e => cases e <;> simp [Operation.handing, Edit.handing, after, Operation.work, Edit.work, perform_map]
  | collect | search | live | watch => simp [Operation.handing, after, Operation.work, perform_map]

theorem gives_toList {w : IndexM (Option Snapshot)} (h : Gives FormedIfAny x w) :
    Gives (∀ s ∈ ·, s.Formed) x (Option.toList <$> w) :=
  Gives.map fun r hr s hs => h r hr s (Option.mem_toList.1 hs)

theorem gives_nil {w : IndexM α} : Gives (∀ s ∈ ·, Snapshot.Formed s) x ((fun _ => []) <$> w) :=
  Gives.map fun _ _ _ hs => absurd hs List.not_mem_nil

theorem gives_edit (h : x.Holding Node.Formed True) (d : Disk) (e : Edit) :
    Gives (∀ s ∈ ·, s.Formed) x (Asking.work (e.handing d)) := by
  cases e with
  | add root p => simpa [Edit.handing] using gives_toList (gives_addPath h.nodes root p)
  | remove root p => simpa [Edit.handing] using gives_toList (gives_removePath h.nodes root p)
  | rename root old new => simpa [Edit.handing] using gives_toList (gives_renamePath h root old new)
  | refresh root p => simpa [Edit.handing] using gives_toList (gives_refreshPath h.nodes root p)
  | pin p on => simpa [Edit.handing] using gives_toList (gives_setPinned h.nodes p on)
  | event root c => simpa [Edit.handing] using gives_nil

theorem gives_multiSearch (h : x.arena.Every Node.Formed) (queries : List CompiledQuery) (c : Cancellation) :
    Gives (∀ results ∈ ·, ∀ found ∈ results, ∀ s ∈ found, Snapshot.Formed s) x (multiSearch queries c) := by
  intro r hr results hresults found hfound s hs
  cases hresults
  exact (of_mem_multiSearch Node.lasting_formed h hr hfound hs).formed

theorem gives_subscribedSearch (h : x.arena.Every Node.Formed) (q : CompiledQuery) (c : Cancellation) :
    Gives (∀ found ∈ ·, ∀ s ∈ found.1, Snapshot.Formed s) x (subscribedSearch q c) := by
  have hsearch : Gives (∀ found ∈ ·, ∀ s ∈ found, Snapshot.Formed s) x (search q c) :=
    .bind fun results y hrun => .pure fun found hfound => by
      obtain ⟨results, rfl, hlast⟩ := Option.bind_eq_some_iff.1 hfound
      exact gives_multiSearch h [q] c _ (congrArg Prod.fst hrun) results rfl found (List.mem_of_getLast? hlast)
  refine .bind fun found y hrun => ?_
  cases found with
  | none => exact .pure fun _ hs => absurd hs (Option.not_mem_none _)
  | some found =>
    refine .bind fun subscriber z _ => .pure fun answer hanswer => ?_
    cases hanswer
    exact hsearch _ (congrArg Prod.fst hrun) found rfl

/-- All that an operation hands out has the forms of its name. -/
theorem gives_handing (h : x.Holding Node.Formed True) (d : Disk) (o : Operation) :
    Gives (∀ s ∈ ·, s.Formed) x (Asking.work (o.handing d)) := by
  cases o with
  | collect areas c => simpa [Operation.handing] using gives_nil
  | edit e => exact gives_edit h d e
  | search queries c =>
    simp only [Operation.handing, Asking.work_bind, Asking.work_multiSearch, Asking.work_pure]
    refine .bind fun results y hrun => .pure fun s hs => ?_
    obtain ⟨found, hfound, hin⟩ := List.mem_flatten.1 hs
    cases results with
    | none => cases hfound
    | some results => exact gives_multiSearch h.nodes queries c _ (congrArg Prod.fst hrun) results rfl found hfound s hin
  | live q c =>
    simp only [Operation.handing, Asking.work_bind, Asking.work_subscribedSearch, Asking.work_pure]
    refine .bind fun answer y hrun => .pure fun s hs => ?_
    cases answer with
    | none => cases hs
    | some answer => exact gives_subscribedSearch h.nodes q c _ (congrArg Prod.fst hrun) answer rfl s hs
  | watch on => simpa [Operation.handing] using gives_nil

end Index

/-! ## Indexes that share a projector -/

/-- An index and the projector that it asks. -/
structure Shared where
  index : Index
  projector : SharedProjector

namespace Shared

variable {z : Shared}

/-- An index without areas, and the projector that settings ask for. -/
def ofSettings (s : Settings) (traffic : Traffic) : Shared :=
  { index := .ofSettings s, projector := { toProjector := .ofSettings s, traffic } }

/-- Does some work: its result, and what is there behind it. -/
def perform (z : Shared) (w : AskingM α) : Except Fault α × Shared :=
  let ((r, index), projector) := (w.run.run z.index).run z.projector
  (r, { index, projector })

/-- What is there behind an operation. -/
def after (z : Shared) (d : Disk) (o : Operation) : Shared := (z.perform (o.handing d)).2

/-- What is there behind a run. -/
def behind (z : Shared) (run : List (Disk × Operation)) : Shared := run.foldl (fun z i => z.after i.1 i.2) z

/-- What is told during an operation, as the only subscriber reads it. -/
def heard (z : Shared) (d : Disk) (o : Operation) : List IndexChange :=
  ((({ z with index := z.index.withFeed Index.loneFeed }).after d o).index.feed.read 0).1.getD []

/-- With a projector that remembers nothing but forms, work comes to what it comes to if it is given the forms. -/
theorem perform_eq (h : z.projector.Faithful) (w : AskingM α) :
    (z.perform w).1 = (z.index.perform (Asking.work w)).1 ∧ (z.perform w).2.index = (z.index.perform (Asking.work w)).2 ∧
      (z.perform w).2.projector.Faithful := by
  obtain ⟨hanswer, hnext⟩ := Asking.run_eq h (w.run.run z.index)
  exact ⟨congrArg Prod.fst hanswer, congrArg Prod.snd hanswer, hnext⟩

theorem index_after (h : z.projector.Faithful) (d : Disk) (o : Operation) : (z.after d o).index = z.index.after d o :=
  (perform_eq h _).2.1.trans (Index.perform_handing z.index d o)

theorem heard_eq (h : z.projector.Faithful) (d : Disk) (o : Operation) : z.heard d o = z.index.heard d o := by
  have hlone := index_after (z := { z with index := z.index.withFeed Index.loneFeed }) h d o
  rw [heard, hlone]
  rfl

/-- **Whatever is remembered of forms and when, the index of a run is that of the run that makes all forms itself.** -/
theorem behind_eq (h : z.projector.Faithful) (run : List (Disk × Operation)) :
    (z.behind run).index = z.index.behind run ∧ (z.behind run).projector.Faithful := by
  induction run generalizing z with
  | nil => exact ⟨rfl, h⟩
  | cons i run ih =>
    have hnext := (perform_eq h (i.2.handing i.1)).2.2
    obtain ⟨hindex, hfaithful⟩ := ih (z := z.after i.1 i.2) hnext
    rw [index_after h] at hindex
    exact ⟨hindex, hfaithful⟩

/-! ## Forms that do not drift -/

/-- Whether all keys come to the same for what a search sees if the forms of its name are at hand and if they are asked for
as the texts of the other properties are. -/
def Agrees (z : Shared) (item : Item) : Prop := ∀ k : CompiledKey,
  (z.perform (Asking.aside (Asking.test Asking.atHand k item))).1 =
    (z.perform (Asking.aside (Asking.test Asking.asMatched k item))).1

theorem agrees_of_formed (h : z.projector.Faithful) (hi : item.Formed) : z.Agrees item := by
  intro k
  simp only [(perform_eq h _).1, Asking.work_aside, Index.perform_lift]
  exact ((Asking.fits_atHand item).outcome_test k).trans (hi.fits_asMatched.outcome_test k).symm

/-- Whether all names have their forms before an operation on a disk, and in all that it tells and hands out, and searches
need not ask for them. -/
structure Formed (z : Shared) (d : Disk) (o : Operation) : Prop where
  nodes : ∀ id n, z.index.arena.get? id = some n → n.Formed ∧ z.Agrees (z.index.arena.item id n)
  /-- In all that was told and not read yet. -/
  waiting : ∀ u ∈ z.index.feed.subscribers, ∀ change ∈ u.queue, ∀ s ∈ change.nodes, s.Formed ∧ z.Agrees s.item
  told : ∀ change ∈ z.heard d o, ∀ s ∈ change.nodes, s.Formed ∧ z.Agrees s.item
  handed : ∀ nodes, (z.perform (o.handing d)).1 = .ok nodes → ∀ s ∈ nodes, s.Formed ∧ z.Agrees s.item
  searches : ∀ queries c, (z.perform (Asking.multiSearch Asking.atHand queries c)).1 =
    (z.perform (Asking.multiSearch Asking.asMatched queries c)).1

theorem formed_of_holding (h : z.projector.Faithful) (hz : z.index.Holding Node.Formed True) (d : Disk) (o : Operation) :
    z.Formed d o := by
  have hsnapshot : ∀ s : Snapshot, s.Formed → s.Formed ∧ z.Agrees s.item := fun s hs => ⟨hs, agrees_of_formed h hs⟩
  refine ⟨fun id n hn => ?_, fun u hu change hc s hs => ?_, fun change hc s hs => ?_, fun nodes hnodes s hs => ?_, ?_⟩
  · exact ⟨hz.nodes id n hn, agrees_of_formed h (hz.nodes id n hn)⟩
  · exact hsnapshot s ((hz.told u hu change hc).formed s hs)
  · rw [heard_eq h] at hc
    exact hsnapshot s ((Index.told_of_mem_heard Node.lasting_formed hz.nodes hc).formed s hs)
  · rw [(perform_eq h _).1] at hnodes
    exact hsnapshot s (Index.gives_handing hz d o nodes hnodes s hs)
  · intro queries c
    rw [(perform_eq h _).1, (perform_eq h _).1, Asking.work_multiSearch, Asking.perform_multiSearch_forming]
    intro items hitems i hi
    obtain ⟨n, hn, hitem⟩ := Index.mem_searched hitems hi
    rw [hitem]
    exact Item.Formed.fits_asMatched (hz.nodes i.1 n hn)

/-- **No form drifts from its name**: an index that shares its projector, whatever this remembers and whatever others ask of
it, is in every run the index that makes all forms itself, and its names have their forms. -/
theorem formed_behind (s : Settings) (traffic : Traffic) (run : List (Disk × Operation)) (d : Disk) (o : Operation) :
    ((ofSettings s traffic).behind run).index = (Index.ofSettings s).behind run ∧
      ((ofSettings s traffic).behind run).Formed d o := by
  have hstart : (ofSettings s traffic).projector.Faithful := Projector.faithful_ofSettings s
  obtain ⟨hindex, hfaithful⟩ := behind_eq hstart run
  refine ⟨hindex, formed_of_holding hfaithful ?_ d o⟩
  rw [hindex]
  exact (Index.holding_ofSettings s Node.Formed True).behind Node.lasting_formed run

/-- Behind a collect of a directory with two files the projector remembers both forms of three names. -/
example : ((ofSettings {} ⟨fun _ => [], fun _ => 0⟩).behind
    [(Index.rootDisk Index.filled, .collect [⟨⟨"a"⟩, true⟩] {})]).projector.size = 6 := by cbv

end Shared

end FileIndex
