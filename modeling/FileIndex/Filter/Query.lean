/-
Compiled queries. The keys are folded from the left over each item: a conjunction narrows, an
alternative admits from all items, an exclusion takes away, and what is united beforehand counts
whatever its place. Pinned items lead every result.
-/
import FileIndex.Cancellation
import FileIndex.Filter.Matcher
import FileIndex.Query.Reader

namespace FileIndex

/-- A key with its property found and its word read. -/
structure CompiledKey where
  conjunction : Conjunction
  property : Property
  matcher : Matcher
  exclude : Bool
deriving DecidableEq, Repr

/-- Whether an item passes the key's test. -/
def CompiledKey.test (k : CompiledKey) (item : Item) : Except Fault Bool :=
  k.matcher.holds k.property item

/-- The keys of a query, ready to be held against items. -/
structure CompiledQuery where
  keys : List CompiledKey
deriving DecidableEq, Repr

namespace CompiledQuery

/-- Whether the program put in every key. Such a query finds only what is pinned. -/
def isEmpty (q : CompiledQuery) : Bool := q.keys.all (·.exclude)

/-- Puts a key in front. -/
def withLeading (q : CompiledQuery) (k : CompiledKey) : CompiledQuery := ⟨k :: q.keys⟩

/-- Puts a key behind all others. -/
def withTrailing (q : CompiledQuery) (k : CompiledKey) : CompiledQuery := ⟨q.keys ++ [k]⟩

/-- What a key makes of the verdict in front of it. A test that cannot change the verdict is left out. -/
def foldKey (item : Item) (current : Bool) (k : CompiledKey) : Except Fault Bool :=
  match k.conjunction with
  | .and => if current then k.test item else .ok false
  | .or => if current then .ok true else k.test item
  | .not => if current then (k.test item).map (!·) else .ok false
  | .preor => .ok current

/-- Whether one of the keys accepts an item; the later ones are not asked. -/
def anyTest (item : Item) : List CompiledKey → Except Fault Bool
  | [] => .ok false
  | k :: keys =>
    match k.test item with
    | .ok false => anyTest item keys
    | verdict => verdict

/-- Whether an unpinned item passes the query. -/
def accepts (q : CompiledQuery) (item : Item) : Except Fault Bool :=
  match q.keys.foldlM (foldKey item) true with
  | .ok false => anyTest item (q.keys.filter (·.conjunction == .preor))
  | verdict => verdict

/-- Whether an item belongs in a result: a pinned one always, another if it passes a query with a key
of the user's own. -/
def admits (q : CompiledQuery) (item : Item) : Except Fault Bool :=
  if item.isPinned then .ok true
  else if q.isEmpty then .ok false
  else q.accepts item

/-- The items from step `n` on that pass; `none` if a request to stop was seen. -/
def filterFrom {α : Type} (q : CompiledQuery) (view : α → Item) (c : Cancellation) :
    Nat → List α → Except Fault (Option (List α))
  | _, [] => .ok (some [])
  | n, a :: rest =>
    if !c.allowsStep n then .ok none
    else
      match q.accepts (view a) with
      | .error fault => .error fault
      | .ok passes => (filterFrom q view c (n + 1) rest).map fun found =>
          found.map fun found => if passes then a :: found else found

/-- The result of a query: the pinned items, then the others that pass, both in their order; `none` if
it was canceled. -/
def evaluate {α : Type} (q : CompiledQuery) (view : α → Item) (items : List α) (c : Cancellation) :
    Except Fault (Option (List α)) :=
  let pinned := items.filter fun a => (view a).isPinned
  if q.isEmpty then .ok (some pinned)
  else (filterFrom q view c 0 (items.filter fun a => !(view a).isPinned)).map fun found =>
    found.map (pinned ++ ·)

end CompiledQuery

/-! ## Filters -/

/-- The properties that keys may name, and the marker of options. -/
structure Filter where
  properties : List Property
  marker : Char
deriving DecidableEq, Repr

namespace Filter

/-- A filter over the properties that every filter has and the given ones. -/
def ofProperties (given : List Property) (marker : Char) : Filter :=
  { properties := Property.select given, marker }

/-- A filter over nothing but the properties that every filter has. -/
def basic : Filter := ofProperties [] '/'

/-- The language of the filter's queries. -/
def language (f : Filter) : QueryLanguage :=
  { registry := Registry.standard (f.properties.map Property.name), marker := f.marker }

/-- Finds the property of a key and reads its word. -/
def compileKey (f : Filter) (now : Moment) (k : Key) : Except QueryError CompiledKey :=
  match Property.find? f.properties k.property with
  | none => .error (.unknownOption ("p." ++ k.property))
  | some property =>
    (Matcher.compile now k.operator property k.word).map fun matcher =>
      { conjunction := k.conjunction, property, matcher, exclude := k.exclude }

/-- The keys of a query, each of them tried as it is read, so that whatever is wrong with a query is
found here. -/
def parse (f : Filter) (now : Moment) (query : String) : Except QueryError (List Key) :=
  (f.language.parseWith (m := Id)
    (fun k => ExceptT.mk ((f.compileKey now k).map fun _ => ())) query).run

/-- Compiles keys; the first error is the answer. -/
def compile (f : Filter) (now : Moment) (keys : List Key) : Except QueryError CompiledQuery :=
  (keys.mapM (f.compileKey now)).map CompiledQuery.mk

/-- Reads and compiles a query. -/
def compileQuery (f : Filter) (now : Moment) (query : String) : Except QueryError CompiledQuery :=
  (f.parse now query).bind (f.compile now)

end Filter

end FileIndex
