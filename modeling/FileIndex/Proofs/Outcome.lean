/-
Outcomes of work that may run into a fault, read step by step.
-/
import FileIndex.Fault

namespace FileIndex

/-- Whether a fault comes of a handle: one to no node, or one to a root that stands elsewhere already. -/
def Fault.stale : Fault → Bool
  | .releasedSlot | .alreadyMerged _ => true
  | _ => false

variable {ε α β : Type}

@[simp] theorem ok_bind (x : α) (f : α → Except ε β) : (Except.ok x >>= f) = f x := rfl

@[simp] theorem error_bind (e : ε) (f : α → Except ε β) : (Except.error e >>= f) = .error e := rfl

@[simp] theorem ok_bind' (x : α) (f : α → Except ε β) : (Except.ok x).bind f = f x := rfl

@[simp] theorem ok_map (x : α) (f : α → β) : (Except.ok x : Except ε α).map f = .ok (f x) := rfl

@[simp] theorem map_eq_error {r : Except ε α} {f : α → β} {e : ε} : r.map f = .error e ↔ r = .error e := by
  cases r <;> simp [Except.map]

theorem map_eq_ok {r : Except ε α} {f : α → β} {y : β} : r.map f = .ok y ↔ ∃ x, r = .ok x ∧ f x = y := by
  cases r <;> simp [Except.map]

theorem bind_eq_ok {r : Except ε α} {f : α → Except ε β} {y : β} :
    (r >>= f) = .ok y ↔ ∃ x, r = .ok x ∧ f x = .ok y := by
  cases r <;> simp

@[simp] theorem pure_eq_ok (x : α) : (pure x : Except ε α) = .ok x := rfl

end FileIndex
