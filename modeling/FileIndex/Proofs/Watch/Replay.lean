/-
The order of changes on one path. The changes that a pairing makes known are played on a set of paths, and
so are the reports themselves, in the order in which they came. Both end in the same set exactly if no path
is overtaken: no new path of a rename is reported last on a path whose old end still waits, and is then
given up or put together behind it.
-/
import FileIndex.Watch.Pairing
import Mathlib.Data.Set.Insert
import Mathlib.Data.List.Basic
import Mathlib.Data.List.Induction
import Mathlib.Data.List.TakeWhile

namespace FileIndex

/-- Paths by what they mean. -/
abbrev PathSet := Set (List Path.Component)

/-! ## Playing changes and reports -/

namespace PathChange

/-- The paths that there are after a change. -/
def play (s : PathSet) : PathChange → PathSet
  | .created p => insert p.components s
  | .deleted p => s \ {p.components}
  | .renamed source target => insert target.components (s \ {source.components})
  | .changed _ => s

/-- The paths that there are after changes. -/
def playAll (s : PathSet) (changes : List PathChange) : PathSet := changes.foldl play s

@[simp] theorem playAll_nil (s : PathSet) : playAll s [] = s := rfl

@[simp] theorem playAll_cons (s : PathSet) (c : PathChange) (cs : List PathChange) :
    playAll s (c :: cs) = playAll (play s c) cs := rfl

@[simp] theorem playAll_append (s : PathSet) (cs ds : List PathChange) :
    playAll s (cs ++ ds) = playAll (playAll s cs) ds := List.foldl_append

/-- Within a directory or not, a rename takes its old path away and adds the new one. -/
@[simp] theorem playAll_ofRename (s : PathSet) (source target : Path) :
    playAll s (ofRename source target) = insert target.components (s \ {source.components}) := by
  unfold ofRename
  split <;> rfl

theorem mem_playAll_created {ps : List Path} {s : PathSet} {q : List Path.Component} :
    q ∈ playAll s (ps.map .created) ↔ q ∈ s ∨ ∃ p ∈ ps, p.components = q := by
  induction ps generalizing s with
  | nil => simp
  | cons p ps ih => rw [List.map_cons, playAll_cons, ih]; simp [play]; tauto

theorem mem_playAll_deleted {ps : List Path} {s : PathSet} {q : List Path.Component} :
    q ∈ playAll s (ps.map .deleted) ↔ q ∈ s ∧ ¬ ∃ p ∈ ps, p.components = q := by
  induction ps generalizing s with
  | nil => simp
  | cons p ps ih => rw [List.map_cons, playAll_cons, ih]; simp [play]; tauto

end PathChange

namespace RawEvent

/-- Whether a report names a path. -/
def Names (e : RawEvent) (q : List Path.Component) : Prop := ∃ p ∈ e.paths, p.components = q

/-- The paths that there are after a report: what is created or is the new end of a rename comes, what is
removed or is the old end of a rename goes. -/
def play (s : PathSet) (e : RawEvent) : PathSet :=
  match e.kind with
  | .create | .renameTo => s ∪ {q | e.Names q}
  | .remove | .renameFrom => s \ {q | e.Names q}
  | _ => s

/-- The paths that there are after reports. -/
def playAll (s : PathSet) (events : List RawEvent) : PathSet := events.foldl play s

@[simp] theorem playAll_append (s : PathSet) (es fs : List RawEvent) :
    playAll s (es ++ fs) = playAll (playAll s es) fs := List.foldl_append

/-- A creation, a removal, or one end of a rename with its one path. -/
def IsPlain (e : RawEvent) : Prop :=
  match e.kind with
  | .create | .remove => True
  | .renameFrom | .renameTo => ∃ p, e.paths = [p]
  | _ => False

/-- A report leaves the paths that it does not name as they are. -/
theorem mem_play_of_not_names {e : RawEvent} {q : List Path.Component} (h : ¬ e.Names q) (s : PathSet) :
    q ∈ e.play s ↔ q ∈ s := by
  unfold play
  split <;> simp [h]

end RawEvent

/-! ## What waits -/

namespace Pairing

/-- Takes in a report and then gives up what has waited too long. -/
def handle (p : Pairing) (d : Disk) (now : Nat) (e : RawEvent) : List PathChange × Pairing :=
  let (changes, p) := p.push d now e
  let (late, p) := p.expire now
  (changes ++ late, p)

/-- Takes in reports, each at its time. -/
def handleAll (p : Pairing) (d : Disk) : List (Nat × RawEvent) → List PathChange × Pairing
  | [] => ([], p)
  | (now, e) :: rest =>
    let (changes, p) := p.handle d now e
    let (later, p) := p.handleAll d rest
    (changes ++ later, p)

/-- The changes that a history of reports makes known until the end. -/
def changesOf (d : Disk) (history : List (Nat × RawEvent)) (late : Nat) : List PathChange :=
  let (changes, p) := handleAll {} d history
  changes ++ (p.expire late).1

theorem handleAll_append (p : Pairing) (d : Disk) (before : List (Nat × RawEvent)) (now : Nat)
    (e : RawEvent) : p.handleAll d (before ++ [(now, e)]) =
      ((p.handleAll d before).1 ++ ((p.handleAll d before).2.handle d now e).1,
        ((p.handleAll d before).2.handle d now e).2) := by
  induction before generalizing p with
  | nil => simp [handleAll]
  | cons r before ih => simp [handleAll, ih]

/-- Whether an old end of a rename waits at a path. -/
def Awaits (p : Pairing) (q : List Path.Component) : Prop :=
  ∃ w ∈ p.waiting, w.source.components = q

/-- What is taken is the first with its tracker, and the others stay as they wait. -/
theorem take_eq_some {tracker : Option Nat} {ws rest : List WaitingRename} {source : Path}
    (h : take tracker ws = some (source, rest)) : ∃ w, ws.find? (·.tracker = tracker) = some w ∧
      w.source = source ∧ ws.Perm (w :: rest) ∧ rest.Sublist ws := by
  induction ws generalizing rest with
  | nil => simp [take] at h
  | cons v ws ih =>
    rw [take] at h
    split at h
    · rename_i htracker
      obtain ⟨rfl, rfl⟩ : v.source = source ∧ ws = rest := by simpa using h
      exact ⟨v, by simp [htracker], rfl, .refl _, List.sublist_cons_self v ws⟩
    · rename_i hne
      obtain ⟨⟨found, others⟩, taken, eq⟩ := Option.map_eq_some_iff.1 h
      obtain ⟨rfl, rfl⟩ : found = source ∧ v :: others = rest := by simpa using eq
      obtain ⟨w, hfirst, hw, hperm, hsub⟩ := ih taken
      exact ⟨w, by simpa [hne] using hfirst, hw, (hperm.cons v).trans (.swap w v others), hsub.cons_cons v⟩

/-- What is taken is what no longer waits. -/
theorem take_perm {tracker : Option Nat} {ws rest : List WaitingRename} {source : Path}
    (h : take tracker ws = some (source, rest)) :
    ∃ w, w.source = source ∧ ws.Perm (w :: rest) := by
  obtain ⟨w, -, hw, hperm, -⟩ := take_eq_some h
  exact ⟨w, hw, hperm⟩

/-- One new end is one arrival. -/
theorem push_new {p : Pairing} {d : Disk} {now : Nat} {target : Path} {tracker : Option Nat} :
    p.push d now ⟨.renameTo, [target], tracker⟩ = p.arrive now tracker target := by
  simp [push, arriveAll]

/-- What a set of paths will be once nothing waits any more: the old end of a rename is taken away, when it
is given up or when its new end comes. -/
def settle (p : Pairing) (s : PathSet) : PathSet := {q | q ∈ s ∧ ¬ p.Awaits q}

variable {p : Pairing} {d : Disk} {now : Nat} {s : PathSet} {q : List Path.Component}

/-- Giving up settles what is given up and nothing else. -/
theorem settle_expire (p : Pairing) (now : Nat) (s : PathSet) :
    (p.expire now).2.settle (PathChange.playAll s (p.expire now).1) = p.settle s := by
  ext q
  let tooLate := fun w : WaitingRename => !isFresh now w.since
  have split : p.Awaits q ↔ (∃ r ∈ (p.waiting.takeWhile tooLate).map (·.source), r.components = q) ∨
      (p.expire now).2.Awaits q := by
    show (∃ w ∈ p.waiting, w.source.components = q) ↔
      _ ∨ ∃ w ∈ p.waiting.dropWhile tooLate, w.source.components = q
    conv_lhs => rw [← List.takeWhile_append_dropWhile (p := tooLate) (l := p.waiting)]
    simp only [List.mem_append, List.mem_map]
    grind
  have gone : (p.expire now).1 = ((p.waiting.takeWhile tooLate).map (·.source)).map .deleted := by
    simp [expire, tooLate]
  show q ∈ PathChange.playAll s _ ∧ _ ↔ _ ∧ ¬ p.Awaits q
  rw [gone, PathChange.mem_playAll_deleted, split, not_or, and_assoc]

/-- A new path is there, and no other path has changed once all is settled. -/
theorem mem_settle_arrive (tracker : Option Nat) (target : Path) :
    (q ∈ (p.arrive now tracker target).2.settle
        (PathChange.playAll s (p.arrive now tracker target).1) ↔
      if target.components = q then ¬ (p.arrive now tracker target).2.Awaits q else q ∈ p.settle s) := by
  unfold arrive
  split
  · rename_i source rest taken
    obtain ⟨w, rfl, perm⟩ := take_perm taken
    have waits : p.Awaits q ↔ w.source.components = q ∨
        Awaits { waiting := rest, paired := p.paired ++ tracker.toList.map (·, now) } q := by
      simp [Awaits, perm.mem_iff]
    simp only [settle, Set.mem_ofPred_eq, PathChange.playAll_ofRename, waits, Set.mem_insert_iff,
      Set.mem_sdiff, Set.mem_singleton_iff]
    split <;> grind
  · simp only [settle, Set.mem_ofPred_eq, PathChange.playAll_cons, PathChange.playAll_nil, PathChange.play,
      Set.mem_insert_iff]
    split <;> grind

/-! ## One report -/

/-- What a report does to a path once all is settled: a path that it names is there after it unless the
report is an old end or a removal, or is a new end whose path still awaits one. -/
theorem mem_settle_push (p : Pairing) (d : Disk) (now : Nat) (s : PathSet) {e : RawEvent}
    (plain : e.IsPlain) (q : List Path.Component) :
    q ∈ (p.push d now e).2.settle (PathChange.playAll s (p.push d now e).1) ↔
      q ∈ e.play (p.settle s) ∧
        ¬ (e.kind = .renameTo ∧ e.Names q ∧ (p.push d now e).2.Awaits q) := by
  obtain ⟨kind, paths, tracker⟩ := e
  cases kind with
  | access | renameBoth | renameUnclear | modify => exact plain.elim
  | renameFrom =>
    obtain ⟨source, rfl⟩ : ∃ source, paths = [source] := plain
    simp only [push, settle, RawEvent.play, RawEvent.Names, Awaits, PathChange.playAll_nil,
      Set.mem_ofPred_eq, Set.mem_sdiff, List.map_cons, List.map_nil, List.mem_append, List.mem_singleton,
      reduceCtorEq, false_and, not_false_eq_true, and_true]
    grind
  | renameTo =>
    obtain ⟨target, rfl⟩ : ∃ target, paths = [target] := plain
    rw [push_new, mem_settle_arrive]
    simp only [RawEvent.play, RawEvent.Names, Set.mem_union, Set.mem_ofPred_eq, List.mem_singleton,
      exists_eq_left, true_and]
    split <;> grind
  | create | remove =>
    have flushed (s : PathSet) : q ∈ PathChange.playAll s (p.waiting.map (.deleted ·.source)) ↔
        q ∈ p.settle s := by
      have : p.waiting.map (PathChange.deleted ·.source) = (p.waiting.map (·.source)).map .deleted := by
        simp
      rw [this, PathChange.mem_playAll_deleted]
      simp [settle, Awaits]
    simp only [push, settle, RawEvent.changes, RawEvent.play, RawEvent.Names, Awaits,
      PathChange.playAll_append, PathChange.mem_playAll_created, PathChange.mem_playAll_deleted, flushed,
      Set.mem_ofPred_eq, Set.mem_union, Set.mem_sdiff, List.not_mem_nil, false_and, exists_false,
      not_false_eq_true, and_true, reduceCtorEq]

/-- Giving up after a report settles nothing that the report has not. -/
theorem settle_handle (p : Pairing) (d : Disk) (now : Nat) (s : PathSet) (e : RawEvent) :
    (p.handle d now e).2.settle (PathChange.playAll s (p.handle d now e).1) =
      (p.push d now e).2.settle (PathChange.playAll s (p.push d now e).1) := by
  show ((p.push d now e).2.expire now).2.settle
    (PathChange.playAll s ((p.push d now e).1 ++ ((p.push d now e).2.expire now).1)) = _
  rw [PathChange.playAll_append, settle_expire]

/-- What waits came with a report at the time noted. -/
theorem since_of_mem_push {e : RawEvent} (plain : e.IsPlain) {w : WaitingRename}
    (h : w ∈ (p.push d now e).2.waiting) : w ∈ p.waiting ∨ w.since = now := by
  obtain ⟨kind, paths, tracker⟩ := e
  cases kind with
  | access | renameBoth | renameUnclear | modify => exact plain.elim
  | renameFrom =>
    simp only [push, List.mem_append, List.mem_map] at h
    grind
  | renameTo =>
    obtain ⟨target, rfl⟩ : ∃ target, paths = [target] := plain
    rw [push_new, arrive] at h
    split at h
    · rename_i source rest taken
      obtain ⟨v, -, perm⟩ := take_perm taken
      exact .inl (perm.mem_iff.2 (List.mem_cons_of_mem v h))
    · exact .inl h
  | create | remove => simp [push] at h

theorem mem_of_mem_expire {w : WaitingRename} (h : w ∈ (p.expire now).2.waiting) : w ∈ p.waiting :=
  (List.dropWhile_sublist _).mem h

/-! ## A history of reports -/

/-- Whether a path is overtaken: the last report that names it is a new end of a rename, behind which an old
end still waits at the path. -/
def Overtaken (d : Disk) (history : List (Nat × RawEvent)) (q : List Path.Component) : Prop :=
  ∃ before now e after, history = before ++ (now, e) :: after ∧ e.kind = .renameTo ∧ e.Names q ∧
    (∀ r ∈ after, ¬ r.2.Names q) ∧ ((handleAll {} d before).2.push d now e).2.Awaits q

/-- One more report overtakes the path of a new end that waits on, and leaves what it does not name as
overtaken as it was. -/
theorem overtaken_append (d : Disk) (before : List (Nat × RawEvent)) (now : Nat) (e : RawEvent)
    (q : List Path.Component) : Overtaken d (before ++ [(now, e)]) q ↔
      (e.kind = .renameTo ∧ e.Names q ∧ ((handleAll {} d before).2.push d now e).2.Awaits q) ∨
        (¬ e.Names q ∧ Overtaken d before q) := by
  constructor
  · rintro ⟨front, t, f, after, eq, kind, names, last, waits⟩
    rcases List.eq_nil_or_concat' after with rfl | ⟨after, r, rfl⟩
    · obtain ⟨rfl, ht⟩ := List.append_inj' eq rfl
      obtain ⟨rfl, rfl⟩ : now = t ∧ e = f := by simpa using ht
      exact .inl ⟨kind, names, waits⟩
    · rw [← List.cons_append, ← List.append_assoc] at eq
      obtain ⟨rfl, hr⟩ := List.append_inj' eq rfl
      obtain rfl : (now, e) = r := by simpa using hr
      exact .inr ⟨last (now, e) (by simp), front, t, f, after, rfl, kind, names,
        fun r hr => last r (by simp [hr]), waits⟩
  · rintro (⟨kind, names, waits⟩ | ⟨unnamed, front, t, f, after, rfl, kind, names, last, waits⟩)
    · exact ⟨before, now, e, [], rfl, kind, names, by simp, waits⟩
    · refine ⟨front, t, f, after ++ [(now, e)], by simp, kind, names, fun r hr => ?_, waits⟩
      rcases List.mem_append.1 hr with hr | hr
      · exact last r hr
      · obtain rfl := List.mem_singleton.1 hr
        exact unnamed

/-- After every history the reports name as present what is overtaken, and the changes settle to what the
reports say of all other paths. -/
theorem mem_settle_handleAll (d : Disk) {history : List (Nat × RawEvent)}
    (plain : ∀ r ∈ history, r.2.IsPlain) (start : PathSet) (q : List Path.Component) :
    (Overtaken d history q → q ∈ RawEvent.playAll start (history.map (·.2))) ∧
      (q ∈ (handleAll {} d history).2.settle (PathChange.playAll start (handleAll {} d history).1) ↔
        q ∈ RawEvent.playAll start (history.map (·.2)) ∧ ¬ Overtaken d history q) := by
  induction history using List.reverseRecOn with
  | nil => simp [Overtaken, handleAll, settle, Awaits, RawEvent.playAll]
  | append_singleton before r ih =>
    obtain ⟨now, e⟩ := r
    obtain ⟨present, settled⟩ := ih fun r hr => plain r (by simp [hr])
    have hplain : e.IsPlain := plain (now, e) (by simp)
    have played : RawEvent.playAll start ((before ++ [(now, e)]).map (·.2)) =
        e.play (RawEvent.playAll start (before.map (·.2))) := by
      rw [List.map_append, RawEvent.playAll_append]
      rfl
    rw [handleAll_append, overtaken_append, played]
    rw [PathChange.playAll_append, settle_handle, mem_settle_push _ _ _ _ hplain]
    -- A report that names the path decides alone what becomes of it.
    by_cases names : e.Names q
    · have decided (s t : PathSet) : q ∈ e.play s ↔ q ∈ e.play t := by
        obtain ⟨kind, paths, tracker⟩ := e
        cases kind with
        | access | renameBoth | renameUnclear | modify => exact hplain.elim
        | _ => simp [RawEvent.play, names]
      have added (kind : e.kind = .renameTo) (s : PathSet) : q ∈ e.play s := by
        simp [RawEvent.play, kind, names]
      rw [decided _ (RawEvent.playAll start (before.map (·.2)))]
      grind
    · rw [RawEvent.mem_play_of_not_names names, RawEvent.mem_play_of_not_names names, settled]
      grind

/-- All that waits has come in the history. -/
theorem since_of_mem_handleAll {history : List (Nat × RawEvent)} (plain : ∀ r ∈ history, r.2.IsPlain)
    {w : WaitingRename} (h : w ∈ (handleAll {} d history).2.waiting) : ∃ r ∈ history, w.since = r.1 := by
  induction history using List.reverseRecOn with
  | nil => simp [handleAll] at h
  | append_singleton before r ih =>
    obtain ⟨now, e⟩ := r
    rw [handleAll_append] at h
    rcases since_of_mem_push (plain (now, e) (by simp)) (mem_of_mem_expire h) with hw | hw
    · obtain ⟨r, hr, eq⟩ := ih (fun r hr => plain r (by simp [hr])) hw
      exact ⟨r, by simp [hr], eq⟩
    · exact ⟨(now, e), by simp, hw⟩

/-- Nothing waits on when the last report is old enough. -/
theorem not_awaits_expire {late : Nat} (h : ∀ w ∈ p.waiting, w.since + patience ≤ late) :
    ¬ (p.expire late).2.Awaits q := by
  rintro ⟨w, hw, -⟩
  have none : p.waiting.dropWhile (fun w => !isFresh late w.since) = [] := by
    apply List.dropWhile_eq_nil_iff.2
    intro v hv
    have := h v hv
    simp only [isFresh, Bool.not_eq_eq_eq_not, Bool.not_true, decide_eq_false_iff_not, not_lt]
    omega
  simp [expire, none] at hw

/-- The changes that creations, removals and ends of renames make known until nothing waits any more lead
from every set of paths to what the reports themselves lead to if and only if no path is overtaken. -/
theorem playAll_changesOf_iff (d : Disk) {history : List (Nat × RawEvent)}
    (plain : ∀ r ∈ history, r.2.IsPlain) {late : Nat} (passed : ∀ r ∈ history, r.1 + patience ≤ late)
    (start : PathSet) :
    PathChange.playAll start (changesOf d history late) =
        RawEvent.playAll start (history.map (·.2)) ↔
      ∀ q, ¬ Overtaken d history q := by
  have settled (q : List Path.Component) : q ∈ PathChange.playAll start (changesOf d history late) ↔
      q ∈ RawEvent.playAll start (history.map (·.2)) ∧ ¬ Overtaken d history q := by
    rw [← (mem_settle_handleAll d plain start q).2, ← settle_expire _ late]
    have idle : ¬ ((handleAll {} d history).2.expire late).2.Awaits q :=
      not_awaits_expire fun w hw => by
        obtain ⟨r, hr, eq⟩ := since_of_mem_handleAll plain hw
        exact eq ▸ passed r hr
    simp [changesOf, settle, idle]
  constructor
  · intro same q overtaken
    exact ((settled q).1 (same ▸ (mem_settle_handleAll d plain start q).1 overtaken)).2 overtaken
  · intro none
    ext q
    rw [settled q]
    exact and_iff_left (none q)

/-- An old end, a whole other rename and a removal, then a new end that comes too late for the old one. -/
def relay : List (Nat × RawEvent) :=
  [(0, ⟨.renameFrom, [⟨"a/x"⟩], some 1⟩), (5, ⟨.renameFrom, [⟨"a/y"⟩], some 2⟩),
    (5, ⟨.renameTo, [⟨"b/y"⟩], some 2⟩), (9, ⟨.remove, [⟨"a/z"⟩], none⟩),
    (260, ⟨.renameTo, [⟨"a/x"⟩], some 1⟩)]

theorem playAll_changesOf_iff_relay :
    (∀ r ∈ relay, r.2.IsPlain) ∧ (∀ r ∈ relay, r.1 + patience ≤ 510) ∧
      ∀ start, (PathChange.playAll start (changesOf {} relay 510) =
          RawEvent.playAll start (relay.map (·.2)) ↔
        ∀ q, ¬ Overtaken {} relay q) := by
  have plain : ∀ r ∈ relay, r.2.IsPlain := by simp [relay, RawEvent.IsPlain]
  have passed : ∀ r ∈ relay, r.1 + patience ≤ 510 := by simp [relay, patience]
  exact ⟨plain, passed, fun start => playAll_changesOf_iff {} plain passed start⟩

/-- The old end of a rename and, of another rename, a new end at the same path. -/
def crossing : List (Nat × RawEvent) :=
  [(0, ⟨.renameFrom, [⟨"a/x"⟩], some 1⟩), (0, ⟨.renameTo, [⟨"a/x"⟩], some 2⟩)]

/-- Not every history of creations, removals and ends of renames at times that do not decrease makes known
changes that lead to what the reports lead to: a deletion can come behind the creation that followed it. -/
theorem not_forall_playAll_changesOf :
    ¬ ∀ (d : Disk) (history : List (Nat × RawEvent)) (late : Nat), (∀ r ∈ history, r.2.IsPlain) →
      (history.map (·.1)).Pairwise (· ≤ ·) → (∀ r ∈ history, r.1 + patience ≤ late) →
      ∀ start, PathChange.playAll start (changesOf d history late) =
        RawEvent.playAll start (history.map (·.2)) := by
  intro claim
  have same := claim {} crossing 250 (by simp [crossing, RawEvent.IsPlain])
    (by simp [crossing]) (by simp [crossing, patience]) ∅
  have changes : changesOf {} crossing 250 =
      [.created ⟨"a/x"⟩, .deleted ⟨"a/x"⟩] := by decide +kernel
  have there : Path.components ⟨"a/x"⟩ ∈ RawEvent.playAll ∅ (crossing.map (·.2)) := by
    simp [RawEvent.playAll, crossing, RawEvent.play, RawEvent.Names]
  rw [← same, changes] at there
  simp [PathChange.play] at there

end Pairing

end FileIndex
