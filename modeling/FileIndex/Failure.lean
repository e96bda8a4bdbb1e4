/-
Why a request could not be served, and the words in which that is reported.
-/
import FileIndex.Path
import FileIndex.Query.Error

namespace FileIndex

/-- The causes for which a request fails. -/
inductive Failure where
  /-- The disk could not be read. -/
  | unreadable
  /-- Nothing lies at the path of a settings file. -/
  | notFound (path : Path)
  /-- The text holds no settings. -/
  | malformedSettings
  /-- The marker of options would be cut off a word or end it. -/
  | unusableMarker (marker : Char)
  | query (error : QueryError)
  /-- A place could not be watched. -/
  | unwatchable
  | canceled
  /-- The command broke a contract or was broken off. -/
  | faulted (report : String)
  /-- No command is taken any more. -/
  | stopped
deriving DecidableEq, Repr

/-- The report that a stopped engine gives. -/
def Failure.stoppedMessage : String := "command engine has stopped"

/-- The report of a failure, if the program has words of its own for it. -/
def Failure.message? : Failure → Option String
  | .unreadable | .malformedSettings | .unwatchable => none
  | .notFound path => some ("Path not found: " ++ path.spelling)
  | .unusableMarker marker =>
    some ("Invalid configuration: option marker " ++ Text.quotedOne marker
      ++ " collides with the query tokenizer")
  | .query error => some ("Query parse error: " ++ error.message)
  | .canceled => some "command was canceled"
  | .faulted report => some ("command faulted: " ++ report)
  | .stopped => some stoppedMessage

end FileIndex
