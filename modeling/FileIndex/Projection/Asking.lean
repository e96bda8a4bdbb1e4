/-
Work that asks for forms of texts. Who answers is left open: the work stops at every question and goes on with the
answer. A projector that others use as well can answer, each time with what it remembers by then.
-/
import FileIndex.Projection.Remembering

namespace FileIndex

/-- Work that asks for forms of texts, and goes on with the answers. -/
inductive Asking (α : Type) where
  | done (r : α)
  | ask (f : Projection) (t : String) (next : String → Asking α)

namespace Asking

variable {α β : Type}

/-- Work behind other work. -/
def bind : Asking α → (α → Asking β) → Asking β
  | done r, g => g r
  | ask f t next, g => ask f t fun form => (next form).bind g

instance : Monad Asking where
  pure := done
  bind := bind

/-- A form of a text. -/
def form (f : Projection) (t : String) : Asking String := ask f t done

/-- What work comes to if it is given the forms that it asks for. -/
def answer : Asking α → α
  | done r => r
  | ask f t next => (next (f.apply t)).answer

end Asking

/-! ## A projector that is shared -/

/-- What happens around the questions of some work, by the number of the question. -/
structure Traffic where
  /-- What others ask for between a question and the one in front of it, each at some time. -/
  others : Nat → List (Nat × Projection × String)
  /-- When the question is asked. -/
  time : Nat → Nat

/-- A projector that is not asked by one alone. -/
structure SharedProjector extends Projector where
  traffic : Traffic
  /-- The number of the next question. -/
  next : Nat := 0

/-- A projector behind questions at given times. -/
def Projector.behind (p : Projector) (asked : List (Nat × Projection × String)) : Projector :=
  asked.foldl (fun p a => (p.apply a.1 a.2.1 a.2.2).2) p

/-- Answers a question behind those of others. -/
def SharedProjector.ask (s : SharedProjector) (f : Projection) (t : String) : String × SharedProjector :=
  let (form, toProjector) := (s.behind (s.traffic.others s.next)).apply (s.traffic.time s.next) f t
  (form, { s with toProjector, next := s.next + 1 })

/-- Does work that asks a shared projector. -/
def Asking.run {α : Type} : Asking α → SharedProjector → α × SharedProjector
  | done r, s => (r, s)
  | ask f t next, s =>
    let (form, s) := s.ask f t
    (next form).run s

end FileIndex
