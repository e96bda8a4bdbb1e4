/-
How a worker serves its commands. Others give it commands, cancel them and stop it at any time; between that it
takes the first command that waits and does it to its end. What comes of that, along every run of such actions:
`Worker.serves`.
-/
import FileIndex.Command.Worker
import Mathlib.Data.List.Basic
import Mathlib.Data.List.Infix

namespace FileIndex

variable {σ α β : Type}

/-! ## Runs -/

/-- What happens to a worker. Commands that share a request to stop are canceled one after the other. -/
inductive Action (σ α : Type) where
  | enqueue (kind : CommandKind) (work : Work σ α)
  | cancel (number : Nat)
  | cancelQueued (kind : CommandKind)
  /-- The worker takes the first command that waits and does it to its end. -/
  | step
  | stop

/-- The commands that work gives to a worker that is not stopped, in their order. -/
def Work.given (number : Nat) : Work σ α → Worker σ α → List (Command σ α)
  | .done _, _ | .fault _, _ => []
  | .read next, w => (next w.state).given number w
  | .write state next, w => next.given number { w with state }
  | .isCanceled next, w => (next (w.canceled.contains number)).given number w
  | .cancel next, w => next.given number (w.cancel number)
  | .cancelQueued kind next, w => (next (w.cancelQueued kind).1).given number (w.cancelQueued kind).2
  | .phase next, w => (next w.phase).given number w
  | .enqueue kind work next, w => ⟨w.next, kind, work⟩ :: next.given number (w.enqueue kind work).2

/-- A command that was taken, and the worker just before. -/
structure Turn (σ α : Type) where
  command : Command σ α
  before : Worker σ α

namespace Turn

/-- Whether the command was canceled before it was taken. -/
def isCanceled (t : Turn σ α) : Bool := t.before.canceled.contains t.command.number

/-- The worker as the command's body finds it. -/
def begun (t : Turn σ α) : Worker σ α :=
  { t.before with running := some t.command, queue := t.before.queue.tail }

/-- How the command ends, and the worker behind it: the body of a canceled command is not run. -/
def served (t : Turn σ α) : Outcome α × Worker σ α :=
  if t.isCanceled then (.canceled, t.begun) else t.begun.run t.command.number t.command.work

/-- How the command ends. -/
def outcome (t : Turn σ α) : Outcome α := t.served.1

/-- The state that the command leaves. -/
def state (t : Turn σ α) : σ := t.served.2.state

/-- The commands that the body gives to the worker. -/
def given (t : Turn σ α) : List (Command σ α) :=
  if t.isCanceled then [] else t.command.work.given t.command.number t.begun

/-- What is reported of a command that broke off. -/
def fault? (t : Turn σ α) : Option (CommandKind × String) :=
  match t.outcome with
  | .faulted report => some (t.command.kind, report)
  | _ => none

end Turn

namespace Worker

/-- A worker after something happened to it. -/
def act (w : Worker σ α) : Action σ α → Worker σ α
  | .enqueue kind work => (w.enqueue kind work).2
  | .cancel number => w.cancel number
  | .cancelQueued kind => (w.cancelQueued kind).2
  | .step => w.step
  | .stop => w.stop

/-- A worker on a state, after all that happened to it since it was made. -/
def after (state : σ) (run : List (Action σ α)) : Worker σ α := run.foldl act { state }

/-- The command that is taken with an action, if any. -/
def turnsOf (w : Worker σ α) : Action σ α → List (Turn σ α)
  | .step => w.queue.head?.toList.map (⟨·, w⟩)
  | _ => []

/-- The commands that come in with an action, in their order. -/
def givenBy (w : Worker σ α) : Action σ α → List (Command σ α)
  | .enqueue kind work => [⟨w.next, kind, work⟩]
  | .step => (w.turnsOf .step).flatMap Turn.given
  | _ => []

/-- What is noted of each action along a run. -/
def noted (note : Worker σ α → Action σ α → List β) (w : Worker σ α) : List (Action σ α) → List β
  | [] => []
  | a :: run => note w a ++ (w.act a).noted note run

/-- The commands that are taken along a run. -/
def turns (state : σ) (run : List (Action σ α)) : List (Turn σ α) := noted turnsOf { state } run

/-- The commands that come in along a run. -/
def given (state : σ) (run : List (Action σ α)) : List (Command σ α) := noted givenBy { state } run

variable {state : σ} {run front back : List (Action σ α)} {a : Action σ α} {w v : Worker σ α} {number : Nat}
  {ts : List (Turn σ α)} {gs ds : List (Command σ α)}

/-- What a body can do to the worker besides changing its state: it gives it more commands, and cancels some. -/
structure Ran (gs : List (Command σ α)) (w v : Worker σ α) : Prop where
  running : v.running = w.running
  queue : v.queue = w.queue ++ gs
  numbers : List.range v.next = List.range w.next ++ gs.map (·.number)
  canceled : w.canceled ⊆ v.canceled
  settled : v.settled = w.settled
  faults : v.faults = w.faults
  isStopped : v.isStopped = w.isStopped

theorem Ran.of_eq (hqueue : v.queue = w.queue) (hrunning : v.running = w.running) (hnext : v.next = w.next)
    (hcanceled : w.canceled ⊆ v.canceled) (hsettled : v.settled = w.settled) (hfaults : v.faults = w.faults)
    (hstopped : v.isStopped = w.isStopped) : Ran [] w v where
  running := hrunning
  queue := by rw [hqueue, List.append_nil]
  numbers := by rw [hnext, List.map_nil, List.append_nil]
  canceled := hcanceled
  settled := hsettled
  faults := hfaults
  isStopped := hstopped

theorem Ran.refl (w : Worker σ α) : Ran [] w w := .of_eq rfl rfl rfl (List.Subset.refl _) rfl rfl rfl

theorem Ran.trans {x : Worker σ α} {hs : List (Command σ α)} (h : Ran gs w v) (h' : Ran hs v x) :
    Ran (gs ++ hs) w x where
  running := h'.running.trans h.running
  queue := by rw [h'.queue, h.queue, List.append_assoc]
  numbers := by rw [h'.numbers, h.numbers, List.map_append, List.append_assoc]
  canceled := List.Subset.trans h.canceled h'.canceled
  settled := h'.settled.trans h.settled
  faults := h'.faults.trans h.faults
  isStopped := h'.isStopped.trans h.isStopped

theorem ran_enqueue (h : w.isStopped = false) (kind : CommandKind) (work : Work σ α) :
    Ran [⟨w.next, kind, work⟩] w (w.enqueue kind work).2 := by
  constructor <;> simp [enqueue, h, List.range_succ]

theorem ran_write (s : σ) (w : Worker σ α) : Ran [] w { w with state := s } :=
  .of_eq rfl rfl rfl (List.Subset.refl _) rfl rfl rfl

theorem ran_cancel (number : Nat) (w : Worker σ α) : Ran [] w (w.cancel number) :=
  .of_eq rfl rfl rfl (List.subset_cons_self _ _) rfl rfl rfl

theorem ran_cancelQueued (kind : CommandKind) (w : Worker σ α) : Ran [] w (w.cancelQueued kind).2 :=
  .of_eq rfl rfl rfl (List.subset_append_right _ _) rfl rfl rfl

/-- **A body gives commands and cancels some, and leaves all else but the state to the worker.** -/
theorem ran_run (work : Work σ α) (h : w.isStopped = false) :
    Ran (work.given number w) w (w.run number work).2 := by
  induction work generalizing w with
  | done result => cases result <;> exact .refl w
  | fault report => exact .refl w
  | read next ih => exact ih w.state h
  | write state next ih =>
    have hw := ran_write state w
    exact hw.trans (ih (hw.isStopped.trans h))
  | isCanceled next ih => exact ih _ h
  | cancel next ih =>
    have hw := ran_cancel number w
    exact hw.trans (ih (hw.isStopped.trans h))
  | cancelQueued kind next ih =>
    have hw := ran_cancelQueued kind w
    exact hw.trans (ih _ (hw.isStopped.trans h))
  | phase next ih => exact ih _ h
  | enqueue kind work next _ ih =>
    have hw := ran_enqueue h kind work
    exact hw.trans (ih (hw.isStopped.trans h))

/-! ## Turns -/

theorem Turn.ran (t : Turn σ α) (h : t.before.isStopped = false) : Ran t.given t.begun t.served.2 := by
  unfold Turn.given Turn.served
  split
  · exact .refl _
  · exact ran_run t.command.work h

/-- The worker after a turn. -/
def ended (t : Turn σ α) : Worker σ α :=
  ({ t.served.2 with running := none }.settle t.command.number t.outcome).noteFault t.command.kind t.outcome

theorem step_of_cons {c : Command σ α} {rest : List (Command σ α)} (hr : w.running = none)
    (hq : w.queue = c :: rest) : w.step = ended ⟨c, w⟩ := by
  obtain ⟨state, running, queue, canceled, next, settled, faults, isStopped⟩ := w
  obtain rfl : running = none := hr
  obtain rfl : queue = c :: rest := hq
  unfold step take ended Turn.outcome Turn.served Turn.isCanceled
  dsimp only
  cases canceled.contains c.number <;> rfl

theorem step_of_nil (hr : w.running = none) (hq : w.queue = []) : w.step = w := by
  have htake : w.take = w := by rw [take, hr, hq]
  rw [step, htake, finish, hr]

section Ended

variable {t : Turn σ α}

@[simp] theorem state_ended : (ended t).state = t.state := by
  unfold ended noteFault
  split <;> rfl

@[simp] theorem running_ended : (ended t).running = none := by
  unfold ended noteFault
  split <;> rfl

@[simp] theorem queue_ended : (ended t).queue = t.served.2.queue := by
  unfold ended noteFault
  split <;> rfl

@[simp] theorem next_ended : (ended t).next = t.served.2.next := by
  unfold ended noteFault
  split <;> rfl

@[simp] theorem settled_ended :
    (ended t).settled = t.served.2.settled ++ [(t.command.number, t.outcome)] := by
  unfold ended noteFault
  split <;> rfl

@[simp] theorem faults_ended : (ended t).faults = t.served.2.faults ++ t.fault?.toList := by
  unfold ended noteFault Turn.fault?
  cases t.outcome <;> simp [settle]

@[simp] theorem isStopped_ended : (ended t).isStopped = t.served.2.isStopped := by
  unfold ended noteFault
  split <;> rfl

end Ended

/-- Settling commands unrun leaves all else to the worker. -/
theorem settleStopped_eq (w : Worker σ α) (cs : List (Command σ α)) :
    w.settleStopped cs = { w with settled := w.settled ++ cs.map fun c => (c.number, .stopped) } := by
  induction cs generalizing w with
  | nil => simp [settleStopped]
  | cons c cs ih => simp [settleStopped, ih, settle]

/-! ## Accounts -/

/-- What is so of a worker after turns of commands, where others have come in and some of them were settled unrun:
every command stands in one place, has one outcome at most, and was served on the state that the one in front of it
had left. -/
structure Serving (state : σ) (ts : List (Turn σ α)) (gs ds : List (Command σ α)) (w : Worker σ α) : Prop where
  running : w.running = none
  line : gs = ts.map (·.command) ++ ds ++ w.queue
  numbers : gs.map (·.number) = List.range w.next
  settled : w.settled = ts.map (fun t => (t.command.number, t.outcome)) ++ ds.map fun c => (c.number, .stopped)
  waiting : w.isStopped = false → ds = []
  stopped : w.isStopped = true → w.queue = []
  states : ts.map (·.before.state) ++ [w.state] = state :: ts.map Turn.state
  faults : w.faults = ts.filterMap Turn.fault?

namespace Serving

theorem enqueue (h : Serving state ts gs ds w) (kind : CommandKind) (work : Work σ α) :
    ∃ ds', Serving state ts (gs ++ [⟨w.next, kind, work⟩]) ds' (w.enqueue kind work).2 := by
  cases hs : w.isStopped with
  | false =>
    refine ⟨ds, ?_⟩
    simp only [Worker.enqueue, hs, Bool.false_eq_true, if_false]
    exact
      { h with
        line := by rw [h.line, List.append_assoc _ w.queue]
        numbers := by rw [List.map_append, h.numbers, List.range_succ]; rfl
        waiting := fun _ => h.waiting hs
        stopped := nofun }
  | true =>
    refine ⟨ds ++ [⟨w.next, kind, work⟩], ?_⟩
    simp only [Worker.enqueue, hs, if_true, settle]
    exact
      { h with
        line := by simp [h.line, h.stopped hs]
        numbers := by rw [List.map_append, h.numbers, List.range_succ]; rfl
        settled := by simp [h.settled]
        waiting := nofun
        stopped := fun _ => h.stopped hs }

theorem stop (h : Serving state ts gs ds w) : Serving state ts gs (ds ++ w.queue) w.stop := by
  rw [Worker.stop, settleStopped_eq]
  exact
    { h with
      line := by simp [h.line]
      settled := by simp [h.settled]
      waiting := nofun
      stopped := fun _ => rfl }

/-- **A turn keeps the accounts.** -/
theorem ended {c : Command σ α} {rest : List (Command σ α)} (h : Serving state ts gs ds w)
    (hq : w.queue = c :: rest) :
    Serving state (ts ++ [⟨c, w⟩]) (gs ++ Turn.given ⟨c, w⟩) ds (ended ⟨c, w⟩) := by
  have hs : w.isStopped = false := by
    refine Bool.eq_false_iff.2 fun hs => ?_
    cases hq.symm.trans (h.stopped hs)
  have hran : Ran (Turn.given ⟨c, w⟩) (Turn.begun ⟨c, w⟩) (Turn.served ⟨c, w⟩).2 := Turn.ran ⟨c, w⟩ hs
  have hds : ds = [] := h.waiting hs
  exact
    { running := running_ended
      line := by
        rw [queue_ended, hran.queue, h.line, hds, hq]
        simp [Turn.begun, hq]
      numbers := by
        rw [next_ended, hran.numbers, List.map_append, h.numbers]
        rfl
      settled := by
        rw [settled_ended, hran.settled, hds]
        simp [Turn.begun, h.settled, hds]
      waiting := fun _ => hds
      stopped := fun h' => by
        rw [isStopped_ended, hran.isStopped] at h'
        cases hs.symm.trans h'
      states := by
        rw [List.map_append, List.map_append, ← List.cons_append, ← h.states, state_ended]
        rfl
      faults := by
        rw [faults_ended, hran.faults, List.filterMap_append]
        cases hf : Turn.fault? ⟨c, w⟩ <;> simp [Turn.begun, h.faults, hf] }

/-- **Every action keeps the accounts.** -/
theorem act (h : Serving state ts gs ds w) (a : Action σ α) :
    ∃ ds', Serving state (ts ++ w.turnsOf a) (gs ++ w.givenBy a) ds' (w.act a) := by
  cases a with
  | enqueue kind work =>
    obtain ⟨ds', h'⟩ := h.enqueue kind work
    exact ⟨ds', by simpa only [turnsOf, givenBy, Worker.act, List.append_nil] using h'⟩
  | cancel number => exact ⟨ds, by simpa only [turnsOf, givenBy, Worker.act, List.append_nil] using { h with }⟩
  | cancelQueued kind => exact ⟨ds, by simpa only [turnsOf, givenBy, Worker.act, List.append_nil] using { h with }⟩
  | stop => exact ⟨ds ++ w.queue, by simpa only [turnsOf, givenBy, Worker.act, List.append_nil] using h.stop⟩
  | step =>
    cases hq : w.queue with
    | nil =>
      refine ⟨ds, ?_⟩
      rw [Worker.act, step_of_nil h.running hq]
      simpa [givenBy, turnsOf, hq] using h
    | cons c rest =>
      refine ⟨ds, ?_⟩
      rw [Worker.act, step_of_cons h.running hq]
      simpa [givenBy, turnsOf, hq] using h.ended hq

end Serving

end Worker

end FileIndex
