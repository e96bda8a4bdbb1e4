/-
Character properties by name, as `\p` asks for them: general categories, scripts, ages and binary
properties, under any of their names, in any case and with any spaces, hyphens and underscores.
-/
import FileIndex.Pattern.Age
import FileIndex.Pattern.Binary
import FileIndex.Pattern.Category
import FileIndex.Pattern.Script

namespace FileIndex.Pattern

open Text

/-- A name with everything left out that names may differ in: case, an `is` in front, blanks, hyphens,
underscores and whatever is not ASCII. The name `isc` is kept as it is. -/
def looseName (t : List Char) : String :=
  let kept (t : List Char) : List Char :=
    (t.filter fun c => c.toNat < 0x80 && c != ' ' && c != '_' && c != '-').map Char.toLower
  match t with
  | i :: s :: rest =>
    if i.toLower = 'i' ∧ s.toLower = 's' then
      if kept rest = ['c'] then "isc" else String.ofList (kept rest)
    else String.ofList (kept t)
  | _ => String.ofList (kept t)

/-! ## General categories -/

/-- The general categories and their groups by name, as lists of two-letter categories. -/
def categoryNames : List (List String × List String) := [
  (["c", "other"], ["Cc", "Cf", "Cn", "Co", "Cs"]),
  (["cc", "control", "cntrl"], ["Cc"]),
  (["cf", "format"], ["Cf"]),
  (["cn", "unassigned"], ["Cn"]),
  (["co", "privateuse"], ["Co"]),
  (["l", "letter"], ["Lu", "Ll", "Lt", "Lm", "Lo"]),
  (["lc", "casedletter"], ["Lu", "Ll", "Lt"]),
  (["ll", "lowercaseletter"], ["Ll"]),
  (["lm", "modifierletter"], ["Lm"]),
  (["lo", "otherletter"], ["Lo"]),
  (["lt", "titlecaseletter"], ["Lt"]),
  (["lu", "uppercaseletter"], ["Lu"]),
  (["m", "mark", "combiningmark"], ["Mn", "Mc", "Me"]),
  (["mc", "spacingmark"], ["Mc"]),
  (["me", "enclosingmark"], ["Me"]),
  (["mn", "nonspacingmark"], ["Mn"]),
  (["n", "number"], ["Nd", "Nl", "No"]),
  (["nd", "decimalnumber", "digit"], ["Nd"]),
  (["nl", "letternumber"], ["Nl"]),
  (["no", "othernumber"], ["No"]),
  (["p", "punctuation", "punct"], ["Pc", "Pd", "Ps", "Pe", "Pi", "Pf", "Po"]),
  (["pc", "connectorpunctuation"], ["Pc"]),
  (["pd", "dashpunctuation"], ["Pd"]),
  (["pe", "closepunctuation"], ["Pe"]),
  (["pf", "finalpunctuation"], ["Pf"]),
  (["pi", "initialpunctuation"], ["Pi"]),
  (["po", "otherpunctuation"], ["Po"]),
  (["ps", "openpunctuation"], ["Ps"]),
  (["s", "symbol"], ["Sm", "Sc", "Sk", "So"]),
  (["sc", "currencysymbol"], ["Sc"]),
  (["sk", "modifiersymbol"], ["Sk"]),
  (["sm", "mathsymbol"], ["Sm"]),
  (["so", "othersymbol"], ["So"]),
  (["z", "separator"], ["Zs", "Zl", "Zp"]),
  (["zl", "lineseparator"], ["Zl"]),
  (["zp", "paragraphseparator"], ["Zp"]),
  (["zs", "spaceseparator"], ["Zs"])]

/-- The characters of some general categories. -/
def ofCategories (categories : List String) : CodeSet := categoryTable.select categories.contains

/-- The set that a category name stands for. -/
def category? (name : String) : Option CodeSet :=
  match name with
  | "any" => some .all
  | "ascii" => some (.range 0 0x7F)
  | "assigned" => some (ofCategories ["Cn"]).compl
  | _ => (categoryNames.find? (·.1.contains name)).map fun (_, categories) => ofCategories categories

/-! ## Scripts, ages and binary properties -/

/-- The four letters of a script. -/
def scriptCode? (name : String) : Option String :=
  (scriptNames.find? (·.2.contains name)).map (·.1)

/-- The characters of a script. -/
def script? (name : String) : Option CodeSet :=
  (scriptCode? name).map fun code => scriptTable.select (· == code)

/-- The characters that a script uses, alone or with others. -/
def sharedScript? (name : String) : Option CodeSet :=
  (scriptCode? name).map fun code =>
    sharedScriptTable.select fun codes => (codes.splitOn ",").contains code

/-- The characters that a version of the standard assigns or an earlier one did. -/
def age? (name : String) : Option CodeSet :=
  (ages.find? fun v => v == name || "v" ++ v.replace "." "" == name).map fun v =>
    let upTo := ages.takeWhile (· != v) ++ [v]
    ageTable.select upTo.contains

/-- The characters with a binary property. -/
def binary? (name : String) : Option CodeSet :=
  (binaryProperties.find? (·.1.contains name)).map (·.2)

/-! ## Queries -/

/-- The set that a single name stands for: a binary property, a general category or a script. Three
short names that could be taken for other properties mean categories. -/
def named? (name : List Char) : Option CodeSet :=
  let name := looseName name
  let category := category? name
  if name == "cf" || name == "sc" || name == "lc" then category
  else (binary? name).or (category.or (script? name))

/-- The set of the characters whose property has a value. -/
def valued? (property value : List Char) : Option CodeSet :=
  let value := looseName value
  match looseName property with
  | "gc" | "generalcategory" => category? value
  | "sc" | "script" => script? value
  | "scx" | "scriptextensions" => sharedScript? value
  | "age" => age? value
  | _ => none

end FileIndex.Pattern
