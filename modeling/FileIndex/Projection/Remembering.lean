/-
Projecting with a memory: the two forms of a text, each kept in a memo of its own if the settings ask
for that. The memory never changes what a form is.
-/
import FileIndex.Projection.Basic
import FileIndex.Projection.Memo
import FileIndex.Settings

namespace FileIndex

/-- The memos of the two forms. -/
structure Memory where
  fuzzy : Memo
  word : Memo
deriving DecidableEq, Repr

/-- A projector with or without a memory. -/
structure Projector where
  memory : Option Memory := none
deriving DecidableEq, Repr

namespace Projector

/-- The projector that settings ask for. Settings count time in seconds, memos in milliseconds. -/
def ofSettings (s : Settings) : Projector :=
  let memo : Memo := { expiry := s.memoExpiry * 1000, interval := s.memoInterval * 1000 }
  { memory := if s.memoEnabled then some ⟨memo, memo⟩ else none }

/-- A form of a text, and the projector that remembers it. -/
def apply (p : Projector) (now : Nat) (f : Projection) (t : String) : String × Projector :=
  match p.memory with
  | none => (f.apply t, p)
  | some memory =>
    match f with
    | .fuzzy =>
      let (form, memo, _) := memory.fuzzy.get now t fun _ => f.apply t
      (form, ⟨some { memory with fuzzy := memo }⟩)
    | .word =>
      let (form, memo, _) := memory.word.get now t fun _ => f.apply t
      (form, ⟨some { memory with word := memo }⟩)

/-- The number of remembered forms. -/
def size (p : Projector) : Nat :=
  match p.memory with
  | some memory => memory.fuzzy.size + memory.word.size
  | none => 0

end Projector

end FileIndex
