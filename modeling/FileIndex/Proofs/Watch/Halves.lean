/-
What becomes of the ends of renames that are reported one by one. An old end waits until it is joined with a new end,
until something else is reported or until it has waited too long, and each is told of once (`accounts_turn`). What
waits does so in the order of its arrival, so that giving up may stop at the first that has not waited too long
(`expire_waiting`).
-/
import FileIndex.Proofs.Watch.Replay
import Mathlib.Data.List.Forall2

namespace FileIndex

/-! ## Ends -/

namespace PathChange

/-- The path at which something is there through a change, by a rename or a creation. -/
def target? : PathChange → Option Path
  | .created p | .renamed _ p => some p
  | .deleted _ | .changed _ => none

theorem target?_ofRename (source target : Path) : (ofRename source target).filterMap target? = [target] := by
  rw [ofRename]
  split <;> rfl

theorem renamed_mem_ofRename {source target p q : Path} (h : renamed p q ∈ ofRename source target) :
    p.sameParent q = true := by
  rw [ofRename] at h
  split at h
  · rename_i hnear
    obtain ⟨rfl, rfl⟩ : p = source ∧ q = target := by simpa using h
    exact hnear
  · simp at h

end PathChange

/-- Whether what is reported is no rename with one or two known ends. -/
def EventKind.IsOther (k : EventKind) : Prop := k ≠ .renameFrom ∧ k ≠ .renameTo ∧ k ≠ .renameBoth

namespace RawEvent

/-- One end of a rename with its one path, or something else. -/
inductive IsSingle : RawEvent → Prop
  | old (source : Path) (tracker : Option Nat) : IsSingle ⟨.renameFrom, [source], tracker⟩
  | new (target : Path) (tracker : Option Nat) : IsSingle ⟨.renameTo, [target], tracker⟩
  | other {e : RawEvent} (h : e.kind.IsOther) : IsSingle e

/-- Only the report of a whole rename means a rename by itself. -/
theorem renamed_not_mem_changes {d : Disk} {e : RawEvent} {p q : Path} (h : e.kind.IsOther) :
    PathChange.renamed p q ∉ e.changes d := by
  obtain ⟨kind, paths, tracker⟩ := e
  cases kind with
  | renameFrom => exact absurd rfl h.1
  | renameTo => exact absurd rfl h.2.1
  | renameBoth => exact absurd rfl h.2.2
  | access | create | remove | modify => simp [changes]
  | renameUnclear =>
    simp only [changes, List.mem_map, not_exists, not_and, PathChange.ofPresence]
    intro r _
    split <;> simp

end RawEvent

namespace Pairing

/-! ## Turns -/

/-- A report that comes, or a look at the clock. -/
inductive Turn where
  | push (now : Nat) (e : RawEvent)
  | expire (now : Nat)
deriving DecidableEq, Repr

namespace Turn

/-- Whether a turn reports nothing but one end of a rename with its path, or something else. -/
def IsSingle : Turn → Prop
  | .push _ e => e.IsSingle
  | .expire _ => True

/-- The time of a report. -/
def pushedAt? : Turn → Option Nat
  | .push now _ => some now
  | .expire _ => none

/-- The old ends of renames that come with a turn. -/
def halves : Turn → List WaitingRename
  | .push now e => if e.kind = .renameFrom then e.paths.map fun source => ⟨e.tracker, source, now⟩ else []
  | .expire _ => []

end Turn

/-- What a turn makes known and leaves. -/
def turn (p : Pairing) (d : Disk) : Turn → List PathChange × Pairing
  | .push now e => p.push d now e
  | .expire now => p.expire now

/-- What is left after some turns. -/
def after (d : Disk) (p : Pairing) : List Turn → Pairing
  | [] => p
  | t :: rest => after d (p.turn d t).2 rest

/-- A turn with what waited in front of it and the changes that it made known. -/
structure Told where
  waiting : List WaitingRename
  turn : Turn
  changes : List PathChange

/-- What some turns made known, turn by turn. -/
def ledger (d : Disk) (p : Pairing) : List Turn → List Told
  | [] => []
  | t :: rest => ⟨p.waiting, t, (p.turn d t).1⟩ :: ledger d (p.turn d t).2 rest

/-- Whether the changes of a turn account for these of the old ends that waited in front of it. -/
inductive Told.Accounts (d : Disk) : Told → List WaitingRename → Prop
  /-- An old end comes and waits. -/
  | arrived {ws now source tracker} : Accounts d ⟨ws, .push now ⟨.renameFrom, [source], tracker⟩, []⟩ []
  /-- A new end comes in the directory of the first old one that has its tracker. -/
  | joined {ws now target w} (first : ws.find? (·.tracker = w.tracker) = some w)
      (near : w.source.sameParent target = true) :
      Accounts d ⟨ws, .push now ⟨.renameTo, [target], w.tracker⟩, [.renamed w.source target]⟩ [w]
  /-- A new end comes in another directory than the first old one that has its tracker. -/
  | parted {ws now target w} (first : ws.find? (·.tracker = w.tracker) = some w)
      (apart : w.source.sameParent target = false) :
      Accounts d ⟨ws, .push now ⟨.renameTo, [target], w.tracker⟩, [.deleted w.source, .created target]⟩ [w]
  /-- A new end comes and no old one has its tracker. -/
  | alone {ws now target tracker} (none : ∀ w ∈ ws, w.tracker ≠ tracker) :
      Accounts d ⟨ws, .push now ⟨.renameTo, [target], tracker⟩, [.created target]⟩ []
  /-- Something else is reported, and all that waits is given up in front of it. -/
  | flushed {ws now e} (other : e.kind.IsOther) :
      Accounts d ⟨ws, .push now e, ws.map (.deleted ·.source) ++ e.changes d⟩ ws
  /-- What has waited too long is given up. -/
  | late {ws now gone} (old : ∀ w ∈ gone, patience ≤ now - w.since) :
      Accounts d ⟨ws, .expire now, gone.map (.deleted ·.source)⟩ gone

variable {d : Disk} {p : Pairing} {t : Turn} {turns : List Turn} {told : Told} {gone : List WaitingRename}
  {ws rest : List WaitingRename} {w : WaitingRename} {source target : Path} {tracker : Option Nat} {now : Nat}

/-! ## One turn -/

theorem take_eq_none (h : take tracker ws = none) : ∀ w ∈ ws, w.tracker ≠ tracker := by
  induction ws with
  | nil => simp
  | cons w ws ih =>
    rw [take] at h
    split at h
    · cases h
    · rename_i hne
      rw [Option.map_eq_none_iff] at h
      exact List.forall_mem_cons.2 ⟨hne, ih h⟩

theorem push_other {e : RawEvent} (h : e.kind.IsOther) : p.push d now e =
    (p.waiting.map (.deleted ·.source) ++ e.changes d, { p with waiting := [] }) := by
  obtain ⟨kind, paths, tracker⟩ := e
  cases kind with
  | renameFrom => exact absurd rfl h.1
  | renameTo => exact absurd rfl h.2.1
  | renameBoth => exact absurd rfl h.2.2
  | access | create | remove | modify | renameUnclear => rfl

/-- A turn tells of what stops to wait, and nothing that waits changes its place. -/
theorem accounts_turn (h : t.IsSingle) : ∃ gone, Told.Accounts d ⟨p.waiting, t, (p.turn d t).1⟩ gone ∧
    (p.waiting ++ t.halves).Perm (gone ++ (p.turn d t).2.waiting) ∧
    (p.turn d t).2.waiting.Sublist (p.waiting ++ t.halves) := by
  cases t with
  | expire now =>
    have hsplit : p.waiting.takeWhile (fun w => !isFresh now w.since) ++ (p.expire now).2.waiting = p.waiting :=
      List.takeWhile_append_dropWhile
    refine ⟨p.waiting.takeWhile fun w => !isFresh now w.since, .late fun w hw => ?_, ?_, ?_⟩
    · have := List.mem_takeWhile_imp hw
      simpa [isFresh] using this
    · rw [Turn.halves, List.append_nil, turn, hsplit]
    · rw [Turn.halves, List.append_nil]
      exact List.dropWhile_sublist _
  | push now e =>
    cases h with
    | old source tracker => exact ⟨[], .arrived, .refl _, .refl _⟩
    | new target tracker =>
      rw [turn, push_new, arrive, Turn.halves, if_neg (by simp), List.append_nil]
      cases htake : take tracker p.waiting with
      | none => exact ⟨[], .alone (take_eq_none htake), .refl _, .refl _⟩
      | some found =>
        obtain ⟨w, hfirst, hw, hperm, hsub⟩ := take_eq_some htake
        obtain rfl : w.tracker = tracker := by simpa using List.find?_some hfirst
        refine ⟨[w], ?_, hperm, hsub⟩
        cases hnear : w.source.sameParent target with
        | true => simpa [← hw, PathChange.ofRename, hnear] using Told.Accounts.joined hfirst hnear
        | false => simpa [← hw, PathChange.ofRename, hnear] using Told.Accounts.parted hfirst hnear
    | other hother =>
      rw [turn, push_other hother, Turn.halves, if_neg hother.1, List.append_nil]
      exact ⟨p.waiting, .flushed hother, by simp, List.nil_sublist _⟩

/-! ## Some turns -/

/-- Every turn accounts for its own, so that what came is what all of them have told of and what waits on. -/
theorem accounts_ledger (h : ∀ t ∈ turns, t.IsSingle) :
    ∃ gone, List.Forall₂ (Told.Accounts d) (ledger d p turns) gone ∧
    (p.waiting ++ turns.flatMap Turn.halves).Perm (gone.flatten ++ (after d p turns).waiting) ∧
    (after d p turns).waiting.Sublist (p.waiting ++ turns.flatMap Turn.halves) := by
  induction turns generalizing p with
  | nil => exact ⟨[], .nil, by simp [after], by simp [after]⟩
  | cons t rest ih =>
    obtain ⟨gone, haccounts, hperm, hsub⟩ := accounts_turn (p := p) (d := d) (h t (by simp))
    obtain ⟨later, hlater, hperms, hsubs⟩ := ih (p := (p.turn d t).2) fun u hu => h u (by simp [hu])
    refine ⟨gone :: later, .cons haccounts hlater, ?_, ?_⟩
    · rw [List.flatMap_cons, List.flatten_cons, ← List.append_assoc, List.append_assoc gone]
      refine (hperm.append_right _).trans ?_
      rw [List.append_assoc]
      exact hperms.append_left gone
    · rw [List.flatMap_cons, ← List.append_assoc]
      exact hsubs.trans (hsub.append_right _)

/-! ## Times -/

/-- What comes at times that do not decrease waits at times that do not. -/
theorem since_sublist (h : ∀ t ∈ turns, t.IsSingle) :
    ((turns.flatMap Turn.halves).map (·.since)).Sublist (turns.filterMap Turn.pushedAt?) := by
  induction turns with
  | nil => exact .slnil
  | cons t rest ih =>
    have hone : (t.halves.map (·.since)).Sublist t.pushedAt?.toList := by
      cases t with
      | expire now => exact .slnil
      | push now e =>
        cases h (.push now e) (by simp) with
        | old source tracker => exact .refl _
        | new target tracker => exact List.nil_sublist _
        | other hother =>
          rw [Turn.halves, if_neg hother.1]
          exact List.nil_sublist _
    have hlater := ih fun u hu => h u (by simp [hu])
    rw [List.flatMap_cons, List.map_append]
    cases htime : t.pushedAt? with
    | none =>
      rw [htime, Option.toList_none, List.sublist_nil] at hone
      rwa [hone, List.nil_append, List.filterMap_cons_none htime]
    | some now =>
      rw [List.filterMap_cons_some htime]
      exact (htime ▸ hone).append hlater

/-- Behind the first that has not waited too long none has. -/
theorem expire_waiting (h : (p.waiting.map (·.since)).Pairwise (· ≤ ·)) (now : Nat) :
    (p.expire now).2.waiting = p.waiting.filter fun w => now - w.since < patience := by
  obtain ⟨ws, paired⟩ := p
  show ws.dropWhile _ = ws.filter _
  induction ws with
  | nil => rfl
  | cons w ws ih =>
    rw [List.map_cons, List.pairwise_cons] at h
    by_cases hfresh : now - w.since < patience
    · have hall : ∀ v ∈ ws, now - v.since < patience := fun v hv => by
        have := h.1 _ (List.mem_map_of_mem hv)
        omega
      rw [List.dropWhile_cons_of_neg (by simpa [isFresh] using hfresh), List.filter_cons_of_pos (by simpa using hfresh),
        List.filter_eq_self.2 (by simpa using hall)]
    · rw [List.dropWhile_cons_of_pos (by simpa [isFresh] using hfresh), List.filter_cons_of_neg (by simpa using hfresh)]
      exact ih h.2

/-! ## What a turn tells -/

namespace Told

/-- A new end is told of once, by a rename or a creation. -/
theorem Accounts.target? (h : told.Accounts d gone)
    (ht : told.turn = .push now ⟨.renameTo, [target], tracker⟩) :
    told.changes.filterMap PathChange.target? = [target] := by
  cases h with
  | arrived | late => cases ht
  | joined | parted | alone =>
    cases ht
    rfl
  | flushed hother =>
    cases ht
    exact absurd rfl hother.2.1

theorem Accounts.sameParent (h : told.Accounts d gone) (hr : .renamed source target ∈ told.changes) :
    source.sameParent target = true := by
  cases h with
  | arrived | alone | late => simp at hr
  | joined first near =>
    obtain ⟨rfl, rfl⟩ := PathChange.renamed.inj (List.mem_singleton.1 hr)
    exact near
  | parted => simp at hr
  | flushed hother =>
    rcases List.mem_append.1 hr with hr | hr
    · simp at hr
    · exact absurd hr (RawEvent.renamed_not_mem_changes hother)

end Told

/-- **No half of a rename is lost or told of twice.** Ends of renames that come one by one, and other reports between
them, at times that do not decrease, with looks at the clock at any times: the old ends that came are those that the
changes of the single turns account for and those that still wait, each as often as it came. A new end is told of once,
no rename leaves its directory, another report is told of behind all that waits, and after a look at the clock those
wait on that have not waited too long, in the order in which they came. -/
theorem halves_accounted (d : Disk) {turns : List Turn} (single : ∀ t ∈ turns, t.IsSingle)
    (ordered : (turns.filterMap Turn.pushedAt?).Pairwise (· ≤ ·)) :
    (∃ gone, List.Forall₂ (Told.Accounts d) (ledger d {} turns) gone ∧
      (turns.flatMap Turn.halves).Perm (gone.flatten ++ (after d {} turns).waiting)) ∧
    (∀ told ∈ ledger d {} turns, ∀ now target tracker,
      told.turn = .push now ⟨.renameTo, [target], tracker⟩ →
        told.changes.filterMap PathChange.target? = [target]) ∧
    (∀ told ∈ ledger d {} turns, ∀ source target, .renamed source target ∈ told.changes →
      source.parent?.map Path.components = target.parent?.map Path.components) ∧
    (∀ now e, e.kind.IsOther → (after d {} turns).push d now e =
      ((after d {} turns).waiting.map (.deleted ·.source) ++ e.changes d,
        { after d {} turns with waiting := [] })) ∧
    (after d {} turns).waiting.Sublist (turns.flatMap Turn.halves) ∧
    ∀ now, ((after d {} turns).expire now).2.waiting =
      (after d {} turns).waiting.filter fun w => now - w.since < patience := by
  obtain ⟨gone, haccounts, hperm, hsub⟩ := accounts_ledger (d := d) (p := {}) single
  have hexplained : ∀ told ∈ ledger d {} turns, ∃ gone, told.Accounts d gone := fun told he => by
    obtain ⟨i, hi, rfl⟩ := List.getElem_of_mem he
    exact ⟨_, haccounts.get hi (haccounts.length_eq ▸ hi)⟩
  refine ⟨⟨gone, haccounts, hperm⟩, fun told he now target tracker ht => ?_, fun told he source target hr => ?_,
    fun now e => push_other, hsub, expire_waiting ?_⟩
  · obtain ⟨gone, h⟩ := hexplained told he
    exact h.target? ht
  · obtain ⟨gone, h⟩ := hexplained told he
    simpa [Path.sameParent] using h.sameParent hr
  · exact ordered.sublist ((hsub.map _).trans (since_sublist single))

/-- Old ends that are joined, parted from their new end, given up late, given up in front of a creation and left. -/
def crowd : List Turn :=
  [.push 0 ⟨.renameFrom, [⟨"a/x"⟩], some 1⟩, .push 5 ⟨.renameFrom, [⟨"a/y"⟩], some 2⟩, .expire 100,
    .push 105 ⟨.renameTo, [⟨"b/y"⟩], some 2⟩, .push 200 ⟨.renameFrom, [⟨"a/z"⟩], none⟩,
    .push 220 ⟨.renameTo, [⟨"a/w"⟩], none⟩, .push 240 ⟨.renameFrom, [⟨"a/v"⟩], some 3⟩, .expire 250,
    .push 260 ⟨.create, [⟨"a/v"⟩], none⟩, .push 300 ⟨.renameFrom, [⟨"a/u"⟩], some 4⟩]

theorem halves_accounted_crowd :
    (ledger {} {} crowd).map (·.changes) =
      [[], [], [], [.deleted ⟨"a/y"⟩, .created ⟨"b/y"⟩], [], [.renamed ⟨"a/z"⟩ ⟨"a/w"⟩], [], [.deleted ⟨"a/x"⟩],
        [.deleted ⟨"a/v"⟩, .created ⟨"a/v"⟩], []] ∧
    (∀ t ∈ crowd, t.IsSingle) ∧ (crowd.filterMap Turn.pushedAt?).Pairwise (· ≤ ·) ∧
    ∃ gone, List.Forall₂ (Told.Accounts {}) (ledger {} {} crowd) gone ∧
      (crowd.flatMap Turn.halves).Perm (gone.flatten ++ [⟨some 4, ⟨"a/u"⟩, 300⟩]) := by
  have single : ∀ t ∈ crowd, t.IsSingle := by
    simp only [crowd, List.forall_mem_cons, List.not_mem_nil, false_implies, implies_true, and_true]
    exact ⟨.old _ _, .old _ _, trivial, .new _ _, .old _ _, .new _ _, .old _ _, trivial,
      .other (by simp [EventKind.IsOther]), .old _ _⟩
  have ordered : (crowd.filterMap Turn.pushedAt?).Pairwise (· ≤ ·) := by decide
  have waits : (after {} {} crowd).waiting = [⟨some 4, ⟨"a/u"⟩, 300⟩] := by decide +kernel
  exact ⟨by decide +kernel, single, ordered, waits ▸ (halves_accounted {} single ordered).1⟩

end Pairing

end FileIndex
