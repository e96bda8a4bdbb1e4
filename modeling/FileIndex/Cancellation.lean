/-
Cancellation: a request to stop, which work looks at before it starts and then at every 4096th step.
-/

namespace FileIndex

/-- A request that was made or not. -/
structure Cancellation where
  requested : Bool := false
deriving DecidableEq, Repr

namespace Cancellation

/-- Makes the request. -/
def cancel (_ : Cancellation) : Cancellation := ⟨true⟩

/-- Whether work may go on. -/
def isActive (c : Cancellation) : Bool := !c.requested

/-- How many steps lie between two looks at a request. -/
def interval : Nat := 4096

/-- Whether work may go on with its step `n`; between two looks it may. -/
def allowsStep (c : Cancellation) (n : Nat) : Bool := n % interval != 0 || c.isActive

end Cancellation

end FileIndex
