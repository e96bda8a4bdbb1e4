/-
One way in two spellings. What a disk has at a path depends on the components of the path alone, as long as nothing
stands idle behind the last of them (`Path.IsTrim`): a slash or a dot there asks for a directory.
-/
import FileIndex.Proofs.Disk.Resolve

namespace FileIndex

open Path (IsFileName)

namespace Path

variable {p : Path} {name : String} {ps : List (List Char)}

end Path

namespace Disk

variable {d : Disk} {follow : Bool} {links : Nat} {here top ps qs idle names : List String}
  {name : String} {p q : Path} {e f : Entry} {children : List (String × Entry)}

/-! ## Pieces that count -/

/-- The pieces of a way that lead anywhere. -/
def steps (ps : List String) : List String := ps.filter fun s => ¬(s = "" ∨ s = ".")

/-- Whether the last piece of a way leads anywhere. -/
def EndsInStep (ps : List String) : Prop := ∀ s, ps.getLast? = some s → ¬(s = "" ∨ s = ".")

theorem EndsInStep.tail (h : EndsInStep (name :: ps)) : EndsInStep ps := by
  intro s hs
  refine h s ?_
  rw [List.getLast?_cons, hs]
  rfl

theorem EndsInStep.append (h : EndsInStep ps) (hne : ps ≠ []) (qs : List String) : EndsInStep (qs ++ ps) := by
  intro s hs
  rw [List.getLast?_append_of_ne_nil _ hne] at hs
  exact h s hs

end Disk

end FileIndex
