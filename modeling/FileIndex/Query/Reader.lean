/-
Reading a query. Options are words that start with the marker; each one sets a part of the next key. A
word or a phrase makes a key, which takes what was set and the defaults for the rest.
-/
import FileIndex.Query.Registry
import FileIndex.Query.Token

namespace FileIndex

/-- The parts of the next key that options have set. -/
structure Pending where
  conjunction : Option Conjunction := none
  property : Option String := none
  operator : Option Operator := none
deriving DecidableEq, Repr

/-- The last setting of a part counts. -/
def Pending.apply (p : Pending) : Setting → Pending
  | .conjunction c => { p with conjunction := some c }
  | .property name => { p with property := some name }
  | .operator o => { p with operator := some o }

/-- The key of a word, with the operator it has if none was set. -/
def Pending.key (p : Pending) (word : String) (operator : Operator) : Key where
  word
  conjunction := p.conjunction.getD .and
  property := p.property.getD Key.defaultProperty
  operator := p.operator.getD operator

/-- A language of queries: its options and the character that marks them. -/
structure QueryLanguage where
  registry : Registry
  marker : Char := '/'
deriving Repr

namespace QueryLanguage

/-- The name of the option that a word is, if it starts with the marker. -/
def optionName? (l : QueryLanguage) (word : String) : Option String :=
  match word.toList with
  | c :: name => if c = l.marker then some (String.ofList name) else none
  | [] => none

/-- What one token adds: an option to what is pending, a word or phrase to the keys. The key is shown
to `validate` before it is accepted. -/
def step {m : Type → Type} [Monad m] (l : QueryLanguage) (validate : Key → ExceptT QueryError m Unit)
    (state : Pending × List Key) (token : Token) : ExceptT QueryError m (Pending × List Key) := do
  let accept (key : Key) : ExceptT QueryError m (Pending × List Key) := do
    validate key
    return ({}, state.2 ++ [key])
  match token with
  | .phrase text => accept (state.1.key text .exact)
  | .word text =>
    match l.optionName? text with
    | none => accept (state.1.key text .fuzzy)
    | some name =>
      match l.registry.resolve name with
      | .error e => throw e
      | .ok settings => return (settings.foldl Pending.apply state.1, state.2)

/-- The keys of a query, in order, each one validated; or the first error. Options behind the last key
have no effect. -/
def parseWith {m : Type → Type} [Monad m] (l : QueryLanguage)
    (validate : Key → ExceptT QueryError m Unit) (query : String) :
    ExceptT QueryError m (List Key) := do
  let (_, keys) ← (Token.ofQuery query).foldlM (l.step validate) ({}, [])
  return keys

/-- The keys of a query without validation. -/
def parse (l : QueryLanguage) (query : String) : Except QueryError (List Key) :=
  (l.parseWith (m := Id) (fun _ => pure ()) query).run

end QueryLanguage

end FileIndex
