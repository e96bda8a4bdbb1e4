/-
The tokenizer as a table: what each character does in each state, and the run that follows the table through a query
and hands out every token as soon as it is read. A token may be refused, which ends the run. Behind the end there is no
way on.
-/
import FileIndex.Fault
import FileIndex.Query.Token

namespace FileIndex.Tokenizer

open Text

/-- The states of a run. -/
inductive State where
  | plainWord
  | wordBoundary
  | quoted
  | quoteBoundary
  | finished
  | failed
deriving DecidableEq, Repr

/-- The name under which reports mention a state. -/
def State.title : State → String
  | .plainWord => "PlainWord"
  | .wordBoundary => "WordBoundary"
  | .quoted => "Quoted"
  | .quoteBoundary => "QuoteBoundary"
  | .finished => "End"
  | .failed => "Error"

/-- What a run meets. -/
inductive Trigger where
  | ending
  | space
  | doubleQuote
  | other
deriving DecidableEq, Repr

/-- The name under which reports mention a trigger. -/
def Trigger.title : Trigger → String
  | .ending => "End"
  | .space => "Space"
  | .doubleQuote => "DoubleQuote"
  | .other => "Other"

/-- What the next character is, if there is one. -/
def Trigger.of : Option Char → Trigger
  | none => .ending
  | some c => if c = '"' then .doubleQuote else if isBlank c then .space else .other

/-- What is done on the way from one state to the next. -/
inductive Action where
  | skip
  | push
  | emitWord
  | emitPhrase
deriving DecidableEq, Repr

/-- The table. -/
def transition : State → Trigger → Except Fault (State × Action)
  | .wordBoundary, .space | .quoteBoundary, .space => .ok (.wordBoundary, .skip)
  | .wordBoundary, .other | .quoteBoundary, .other => .ok (.plainWord, .push)
  | .wordBoundary, .doubleQuote | .quoteBoundary, .doubleQuote => .ok (.quoted, .skip)
  | .wordBoundary, .ending | .quoteBoundary, .ending => .ok (.finished, .skip)
  | .plainWord, .other => .ok (.plainWord, .push)
  | .plainWord, .space => .ok (.wordBoundary, .emitWord)
  | .plainWord, .doubleQuote => .ok (.quoted, .emitWord)
  | .plainWord, .ending => .ok (.finished, .emitWord)
  | .quoted, .other | .quoted, .space => .ok (.quoted, .push)
  | .quoted, .doubleQuote => .ok (.quoteBoundary, .emitPhrase)
  -- A phrase that is not closed runs to the end.
  | .quoted, .ending => .ok (.finished, .emitPhrase)
  | .finished, trigger => .error (.noTransition State.finished.title trigger.title)
  | .failed, trigger => .error (.noTransition State.failed.title trigger.title)

/-- What an action makes of the text of the open token, its last character first, and the token that it ends. -/
def Action.on (text : List Char) (c : Option Char) : Action → List Char × Option Token
  | .skip => (text, none)
  | .push => (c.toList ++ text, none)
  | .emitWord => ([], some (.word (Token.closed text)))
  | .emitPhrase => ([], some (.phrase (Token.closed text)))

variable {ε σ : Type}

/-- Hands out a token, if there is one, to a taker that keeps a state. -/
def hand (take : σ → Token → Except ε Unit × σ) (s : σ) : Option Token → Except ε Unit × σ
  | none => (.ok (), s)
  | some t => take s t

/-- Runs through a text: the answer of the taker, and the state in which it is then. -/
def runFrom (take : σ → Token → Except ε Unit × σ) (s : σ) (state : State) (text : List Char) :
    List Char → Except Fault (Except ε Unit × σ)
  | [] => do
    let (_, action) ← transition state (.of none)
    return hand take s (action.on text none).2
  | c :: rest => do
    let (next, action) ← transition state (.of (some c))
    let (text, token) := action.on text (some c)
    match hand take s token with
    | (.error e, s) => return (.error e, s)
    | (.ok (), s) => if next = .finished then return (.ok (), s) else runFrom take s next text rest

/-- Runs through a query. -/
def run (take : σ → Token → Except ε Unit × σ) (s : σ) (query : String) : Except Fault (Except ε Unit × σ) :=
  runFrom take s .wordBoundary [] query.toList

end FileIndex.Tokenizer
