/-
A memo of computed texts that forgets what nobody asks for. Time is counted in milliseconds and given by
the caller.
-/

namespace FileIndex

/-- What a memo remembers under a key. -/
structure Remembered where
  value : String
  /-- When it was last asked for. -/
  lastAsked : Nat
deriving DecidableEq, Repr

/-- Computed texts by key. -/
structure Memo where
  /-- How long a text is kept that nobody asks for. -/
  expiry : Nat
  /-- How long a look-up waits after a sweep before it sweeps again. -/
  interval : Nat
  entries : List (String × Remembered) := []
  lastSweep : Nat := 0
deriving DecidableEq, Repr

namespace Memo

/-- The number of texts in the memo. -/
def size (m : Memo) : Nat := m.entries.length

/-- Forgets what was not asked for during the time of expiry. -/
def sweep (m : Memo) (now : Nat) : Memo :=
  { m with entries := m.entries.filter fun e => now - e.2.lastAsked ≤ m.expiry, lastSweep := now }

/-- Whether a look-up sweeps first. -/
def isDue (m : Memo) (now : Nat) : Bool := m.interval ≤ now - m.lastSweep

/-- The memo that a look-up looks into. -/
def swept (m : Memo) (now : Nat) : Memo := if m.isDue now then m.sweep now else m

/-- The text under a key. -/
def find? (m : Memo) (key : String) : Option String := (m.entries.lookup key).map (·.value)

/-- Notes that a key was asked for. -/
def touch (now : Nat) (key : String) :
    List (String × Remembered) → List (String × Remembered)
  | [] => []
  | (k, r) :: rest =>
    if k = key then (k, { r with lastAsked := now }) :: rest else (k, r) :: touch now key rest

/-- The text under a key, the memo behind the look-up, and whether the text had to be computed. -/
def get (m : Memo) (now : Nat) (key : String) (compute : Unit → String) : String × Memo × Bool :=
  let m := m.swept now
  match m.find? key with
  | some value => (value, { m with entries := touch now key m.entries }, false)
  | none =>
    let value := compute ()
    (value, { m with entries := m.entries ++ [(key, ⟨value, now⟩)] }, true)

end Memo

end FileIndex
