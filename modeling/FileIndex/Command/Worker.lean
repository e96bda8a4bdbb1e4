/-
The worker: it owns a state and runs commands on it, one at a time and in the order in which they came.
Every command has a number, under which it can be canceled and under which its outcome is found. A
canceled command that was not started is never run. A worker that is stopped ends the command that it
runs, and settles the others unrun.
-/
import FileIndex.Command.Kind

namespace FileIndex

/-- The work of a command, step by step. It may look at the worker's state and change it, look at its own
request to stop and make it, cancel what waits and give the worker more to do. -/
inductive Work (σ α : Type) where
  /-- Ends with a result; with none if a request to stop was seen. -/
  | done (result : Option α)
  /-- Breaks off, with a report or without one. -/
  | fault (report : Option String)
  | read (next : σ → Work σ α)
  | write (state : σ) (next : Work σ α)
  | isCanceled (next : Bool → Work σ α)
  | cancel (next : Work σ α)
  | cancelQueued (kind : CommandKind) (next : Nat → Work σ α)
  | phase (next : Phase → Work σ α)
  | enqueue (kind : CommandKind) (work : Work σ α) (next : Work σ α)

/-- Work that breaks off where a contract is broken and else goes on with the value. -/
def Work.ofExcept {σ α β : Type} (r : Except Fault β) (next : β → Work σ α) : Work σ α :=
  match r with
  | .ok b => next b
  | .error broken => .fault (some broken.message)

/-- A command. -/
structure Command (σ α : Type) where
  number : Nat
  kind : CommandKind
  work : Work σ α

/-- A worker with its state, what it is running, what waits and what is settled. -/
structure Worker (σ α : Type) where
  state : σ
  running : Option (Command σ α) := none
  /-- The commands that wait, the next one first. -/
  queue : List (Command σ α) := []
  /-- The numbers of the commands that were canceled. -/
  canceled : List Nat := []
  /-- The number of the next command. -/
  next : Nat := 0
  settled : List (Nat × Outcome α) := []
  /-- The kinds of the commands that broke off, with their reports. -/
  faults : List (CommandKind × String) := []
  isStopped : Bool := false

namespace Worker

variable {σ α : Type}

/-! ## What others do -/

/-- What the worker is doing. -/
def phase (w : Worker σ α) : Phase :=
  match w.running with
  | some c => c.kind.phase
  | none => .idle

/-- Notes the outcome of a command. -/
def settle (w : Worker σ α) (number : Nat) (o : Outcome α) : Worker σ α :=
  { w with settled := w.settled ++ [(number, o)] }

/-- The outcome of a command that has one. -/
def outcome? (w : Worker σ α) (number : Nat) : Option (Outcome α) := w.settled.lookup number

/-- Puts a command behind all that wait. A stopped worker takes none. -/
def enqueue (w : Worker σ α) (kind : CommandKind) (work : Work σ α) : Nat × Worker σ α :=
  (w.next,
    if w.isStopped then { w with next := w.next + 1 }.settle w.next .stopped
    else { w with queue := w.queue ++ [⟨w.next, kind, work⟩], next := w.next + 1 })

/-- Cancels a command. -/
def cancel (w : Worker σ α) (number : Nat) : Worker σ α :=
  { w with canceled := number :: w.canceled }

/-- Cancels all commands of a kind that wait. The result counts them. -/
def cancelQueued (w : Worker σ α) (kind : CommandKind) : Nat × Worker σ α :=
  let found := (w.queue.filter (·.kind == kind)).map (·.number)
  (found.length, { w with canceled := found ++ w.canceled })

/-- Settles commands that will not be run. -/
def settleStopped (w : Worker σ α) : List (Command σ α) → Worker σ α
  | [] => w
  | c :: rest => (w.settle c.number .stopped).settleStopped rest

/-- Stops the worker after the command that it runs. -/
def stop (w : Worker σ α) : Worker σ α :=
  { w with isStopped := true, queue := [] }.settleStopped w.queue

/-! ## What the worker does -/

/-- The report of work that broke off without one. -/
def silentReport : String := "command panicked"

/-- Does the work of the command of a number. -/
def run (number : Nat) : Work σ α → Worker σ α → Outcome α × Worker σ α
  | .done (some a), w => (.completed a, w)
  | .done none, w => (.canceled, w)
  | .fault report, w => (.faulted (report.getD silentReport), w)
  | .read next, w => run number (next w.state) w
  | .write state next, w => run number next { w with state }
  | .isCanceled next, w => run number (next (w.canceled.contains number)) w
  | .cancel next, w => run number next (w.cancel number)
  | .cancelQueued kind next, w => run number (next (w.cancelQueued kind).1) (w.cancelQueued kind).2
  | .phase next, w => run number (next w.phase) w
  | .enqueue kind work next, w => run number next (w.enqueue kind work).2

/-- Takes the first command that waits. One that was canceled has no more work to do. -/
def take (w : Worker σ α) : Worker σ α :=
  match w.running, w.queue with
  | none, c :: queue =>
    let work := if w.canceled.contains c.number then .done none else c.work
    { w with running := some { c with work }, queue }
  | _, _ => w

/-- Notes that a command broke off. -/
def noteFault (w : Worker σ α) (kind : CommandKind) : Outcome α → Worker σ α
  | .faulted report => { w with faults := w.faults ++ [(kind, report)] }
  | _ => w

/-- Does the work of the running command and settles it. -/
def finish (w : Worker σ α) : Worker σ α :=
  match w.running with
  | none => w
  | some c =>
    let (o, w) := run c.number c.work w
    ({ w with running := none }.settle c.number o).noteFault c.kind o

/-- Runs the first command that waits from its start to its end. -/
def step (w : Worker σ α) : Worker σ α := w.take.finish

/-- Runs commands until none waits, and at most the given number of them. -/
def drain (w : Worker σ α) : Nat → Worker σ α
  | 0 => w
  | n + 1 => if w.queue.isEmpty && w.running.isNone then w else w.step.drain n

end Worker

end FileIndex
