/-
The options that a query may use. An option sets the conjunction, the property or the operator of the
next key; an alias stands for one or more options. Names are found in any ASCII case.
-/
import FileIndex.Query.Error
import FileIndex.Query.Key

namespace FileIndex

/-- The lower case of a text's ASCII letters; everything else stays. -/
def lowerAscii (t : String) : String := t.map Char.toLower

/-- What an option sets on the next key. -/
inductive Setting where
  | conjunction (c : Conjunction)
  | property (name : String)
  | operator (o : Operator)
deriving DecidableEq, Repr

/-- Options and aliases by their lower case names, the latest first. -/
structure Registry where
  options : List (String × Setting) := []
  aliases : List (String × List String) := []
deriving Repr

namespace Registry

/-- Adds an option; of two with one name the later counts. -/
def addOption (r : Registry) (name : String) (s : Setting) : Registry :=
  { r with options := (lowerAscii name, s) :: r.options }

/-- Adds the option that sets a property: its name behind `p.`. The key keeps the property's own
spelling. -/
def addProperty (r : Registry) (name : String) : Registry :=
  r.addOption ("p." ++ name) (.property name)

/-- Adds an alias for the named options. -/
def addAlias (r : Registry) (name : String) (targets : List String) : Registry :=
  { r with aliases := (lowerAscii name, targets.map lowerAscii) :: r.aliases }

/-- The settings that an option name stands for. An option wins over an alias of the same name; what
does not resolve is reported under the name as typed, also where an alias leads nowhere. -/
def resolve (r : Registry) (name : String) : Except QueryError (List Setting) :=
  match r.options.lookup (lowerAscii name) with
  | some s => .ok [s]
  | none =>
    match (r.aliases.lookup (lowerAscii name)).bind (·.mapM fun target => r.options.lookup target) with
    | some settings => .ok settings
    | none => .error (.unknownOption name)

/-- All conjunctions and operators, the given properties and the usual aliases. -/
def standard (properties : List String) : Registry :=
  let conjunctions := Conjunction.all.foldl (fun r c => r.addOption c.name (.conjunction c)) {}
  let operators := Operator.all.foldl (fun r o => r.addOption o.name (.operator o)) conjunctions
  (properties.foldl addProperty operators)
    |>.addAlias "m0" ["exact"]
    |>.addAlias "m1" ["word"]
    |>.addAlias "m2" ["fuzzy"]
    |>.addAlias "since" ["p.date", "m.gt"]
    |>.addAlias "until" ["p.date", "m.lt"]

end Registry

end FileIndex
