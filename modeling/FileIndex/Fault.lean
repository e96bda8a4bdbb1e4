/-
Broken contracts: what a caller must never ask for. A fault is no answer of the program; it ends the
operation, or the command that ran into it.
-/

namespace FileIndex

/-- The kinds of the values that properties have and keys compare with. -/
inductive Kind where
  | text
  | boolean
  | integer
  | moment
deriving DecidableEq, Repr

/-- The name under which reports mention a kind. -/
def Kind.title : Kind → String
  | .text => "String"
  | .boolean => "Bool"
  | .integer => "Integer"
  | .moment => "DateTime"

/-- The contracts that can be broken. -/
inductive Fault where
  /-- Two values of different kinds were compared. -/
  | incomparable (left right : Kind)
  /-- A node was asked for whose slot holds none. -/
  | releasedSlot
  /-- A node number too large for a slot. -/
  | slotTooLarge
  /-- A rename was asked for between two directories. -/
  | renameMoves (old new : String)
  /-- The root of a tree already stands below another tree. -/
  | alreadyMerged (path : String)
  /-- The tokenizer was to go on from a state that ends it. -/
  | noTransition (state trigger : String)
deriving DecidableEq, Repr

/-- The report of a fault. -/
def Fault.message : Fault → String
  | .incomparable left right =>
    "cannot compare " ++ left.title ++ " value with " ++ right.title ++ " value"
  | .releasedSlot => "node id refers to a released slot"
  | .slotTooLarge => "node index must be less than u32::MAX"
  | .renameMoves old new => "rename must not move the node: " ++ old ++ " -> " ++ new
  | .alreadyMerged path => "tree root " ++ path ++ " is already merged under another tree"
  | .noTransition state trigger =>
    "query tokenizer has no transition from " ++ state ++ " on " ++ trigger

end FileIndex
