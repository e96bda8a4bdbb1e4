/-
Writing keys as a query that reads back as the same keys. A word is quoted if it is empty, holds white
space or would be taken for an option, and an option is written only where the defaults do not say the
same. A word with a double quote has no written form and is written as it stands.
-/
import FileIndex.Query.Reader

namespace FileIndex

namespace Key

/-- Whether a word has to be written as a phrase. -/
def isQuoted (k : Key) (marker : Char) : Bool :=
  k.word.isEmpty || k.word.toList.any Text.isBlank || k.word.toList.head? == some marker

/-- The options and the word of a key, as they stand in a query. -/
def queryParts (k : Key) (marker : Char) : List String :=
  let option (name : String) : String := marker.toString ++ name
  (if k.conjunction = .and then [] else [option k.conjunction.name])
    ++ (if k.property = defaultProperty then [] else [option ("p." ++ k.property)])
    ++ (if k.operator = (if k.isQuoted marker then .exact else .fuzzy) then []
        else [option k.operator.name])
    ++ [if k.isQuoted marker then "\"" ++ k.word ++ "\"" else k.word]

end Key

/-- The query of a list of keys, without those that the program put in. -/
def queryText (keys : List Key) (marker : Char) : String :=
  " ".intercalate ((keys.filter (!·.exclude)).flatMap (·.queryParts marker))

end FileIndex
