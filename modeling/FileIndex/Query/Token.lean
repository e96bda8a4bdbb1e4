/-
The words and quoted phrases of a query. White space separates words; a double quote opens a phrase,
which runs verbatim to the next double quote or to the end of the query.
-/
import FileIndex.Text.Blank

namespace FileIndex

open Text

/-- A piece of a query. -/
inductive Token where
  | word (text : String)
  | phrase (text : String)
deriving DecidableEq, Repr

namespace Token

/-- Where a scan stands: between two tokens, inside a word or inside a phrase, with the text of the
open token so far, its last character first. -/
inductive Scan where
  | between
  | inWord (text : List Char)
  | inPhrase (text : List Char)
deriving DecidableEq, Repr

/-- The text of an open token in reading order. -/
def closed (text : List Char) : String := String.ofList text.reverse

/-- What one character does to a scan: the scan behind it, and the token that it ends. -/
def Scan.step (s : Scan) (c : Char) : Scan × Option Token :=
  match s with
  | .between =>
    if c = '"' then (.inPhrase [], none)
    else if isBlank c then (.between, none)
    else (.inWord [c], none)
  | .inWord text =>
    if c = '"' then (.inPhrase [], some (.word (closed text)))
    else if isBlank c then (.between, some (.word (closed text)))
    else (.inWord (c :: text), none)
  | .inPhrase text =>
    if c = '"' then (.between, some (.phrase (closed text)))
    else (.inPhrase (c :: text), none)

/-- The token that the end of the query closes. -/
def Scan.finish : Scan → Option Token
  | .between => none
  | .inWord text => some (.word (closed text))
  | .inPhrase text => some (.phrase (closed text))

/-- The tokens of a text from a scan on. -/
def scan (s : Scan) : List Char → List Token
  | [] => s.finish.toList
  | c :: rest => (s.step c).2.toList ++ scan (s.step c).1 rest

/-- The tokens of a query, in order. -/
def ofQuery (query : String) : List Token := scan .between query.toList

end Token

end FileIndex
