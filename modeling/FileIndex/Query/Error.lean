/-
What can be wrong with a query, and the words in which it is reported.
-/
import FileIndex.Text.Quoted

namespace FileIndex

/-- The causes for which a query is refused. -/
inductive QueryError where
  /-- No option or alias of this name, as it was typed. -/
  | unknownOption (name : String)
  /-- The text is no regular expression, or one too large. -/
  | badPattern (pattern : String)
  | badDate (text : String)
  | badInteger (text : String)
  | badBoolean (text : String)
deriving DecidableEq, Repr

/-- The report of an error. -/
def QueryError.message : QueryError → String
  | .unknownOption name => "unknown search option: " ++ name
  | .badPattern pattern => "invalid regular expression " ++ Text.quoted pattern
  | .badDate text => "invalid date value: " ++ Text.quoted text
  | .badInteger text => "invalid integer value: " ++ Text.quoted text
  | .badBoolean text => "invalid boolean value: " ++ Text.quoted text

end FileIndex
