/-
Quoted text, as messages show a value: in double quotes (a character in single ones), with a backslash
form for the quote, the backslash, the common controls and whatever would not be visible.
-/
import FileIndex.Text.Extending
import FileIndex.Text.Unprintable

namespace FileIndex.Text

/-- A number in lower case hexadecimal digits. -/
def hexadecimal (n : Nat) : List Char := Nat.toDigits 16 n

/-- The form of one character between the given quotes. -/
def quotedChar (quote c : Char) : List Char :=
  if c = quote ∨ c = '\\' then ['\\', c]
  else if c = '\t' then ['\\', 't']
  else if c = '\n' then ['\\', 'n']
  else if c = '\r' then ['\\', 'r']
  else if c.toNat = 0 then ['\\', '0']
  else if isExtending c || !isPrintable c then "\\u\x7b".toList ++ hexadecimal c.toNat ++ ['\x7d']
  else [c]

/-- A text in double quotes. -/
def quoted (t : String) : String :=
  String.ofList ('"' :: t.toList.flatMap (quotedChar '"') ++ ['"'])

/-- A character in single quotes. -/
def quotedOne (c : Char) : String :=
  String.ofList ('\'' :: quotedChar '\'' c ++ ['\''])

end FileIndex.Text
