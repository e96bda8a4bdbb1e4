/-
The kinds of commands, what a worker is doing, and how a command ends.
-/
import FileIndex.Failure
import FileIndex.Fault

namespace FileIndex

/-- The ways to change a single entry. -/
inductive MutationKind where
  | add | remove | rename | refresh | pin | watch
deriving DecidableEq, Repr

/-- The kinds of commands. -/
inductive CommandKind where
  | collect
  | search
  | multiSearch
  | mutate (m : MutationKind)
  | wait
  | other
deriving DecidableEq, Repr

/-- What a worker is doing. -/
inductive Phase where
  | idle
  | collecting
  | searching
  | other
deriving DecidableEq, Repr

/-- What a worker is doing while it runs a command of a kind. -/
def CommandKind.phase : CommandKind → Phase
  | .collect => .collecting
  | .search | .multiSearch => .searching
  | _ => .other

/-- How a command ended. -/
inductive Outcome (α : Type) where
  | completed (a : α)
  | canceled
  | faulted (report : String)
deriving DecidableEq, Repr

namespace Outcome

variable {α : Type}

/-- Whether the command came to its end. -/
def isCompleted : Outcome α → Bool
  | .completed _ => true
  | _ => false

/-- Whether the command was canceled. -/
def isCanceled : Outcome α → Bool
  | .canceled => true
  | _ => false

/-- How a command ends that is never run. -/
def stopped : Outcome α := .faulted Failure.stoppedMessage

/-- The result of a command or why there is none. -/
def result : Outcome α → Except Failure α
  | .completed a => .ok a
  | .canceled => .error .canceled
  | .faulted report => .error (.faulted report)

end Outcome

end FileIndex
