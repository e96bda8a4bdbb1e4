/-
Paths. A path keeps the spelling it was built with and means its list of components: repeated and
trailing slashes do not count, and a dot counts only at the start of a relative path.
-/

namespace FileIndex

/-- A path in its spelling. -/
structure Path where
  spelling : String
deriving DecidableEq, Repr

namespace Path

/-- A step of a path. -/
inductive Component where
  /-- The slash in front of an absolute path. -/
  | root
  /-- The dot in front of a relative path. -/
  | here
  | up
  | name (text : String)
deriving DecidableEq, Repr

/-! ## Pieces of text -/

/-- The pieces of a text between its slashes; there is one more of them than slashes. -/
def pieces : List Char → List (List Char)
  | [] => [[]]
  | c :: rest =>
    if c = '/' then [] :: pieces rest
    else
      match pieces rest with
      | [] => [[c]]
      | piece :: others => (c :: piece) :: others

/-- The pieces with a slash between each two. -/
def glued (ps : List (List Char)) : List Char := ['/'].intercalate ps

/-- A piece without meaning: nothing, or a dot behind a slash. -/
def isIdle (piece : List Char) : Bool := piece = [] ∨ piece = ['.']

/-- The component of a piece behind a slash. -/
def ofPiece? (piece : List Char) : Option Component :=
  if isIdle piece then none
  else if piece = ['.', '.'] then some .up
  else some (.name (String.ofList piece))

/-! ## Components -/

/-- The components of a text. -/
def componentsOf (t : List Char) : List Component :=
  match pieces t with
  | [] :: body => if body = [] then [] else .root :: body.filterMap ofPiece?
  | ['.'] :: body => .here :: body.filterMap ofPiece?
  | body => body.filterMap ofPiece?

/-- The components of a path. -/
def components (p : Path) : List Component := componentsOf p.spelling.toList

/-- Whether two paths have the same components. -/
def same (p q : Path) : Bool := p.components == q.components

/-- The components of a path behind those of another, if it starts with them. -/
def below? (p top : Path) : Option (List Component) :=
  if top.components.isPrefixOf p.components then some (p.components.drop top.components.length)
  else none

/-- Whether a path is another or lies below it. -/
def startsWith (p top : Path) : Bool := top.components.isPrefixOf p.components

/-- Whether a path starts at the top. -/
def isAbsolute (p : Path) : Bool := p.components.head? == some .root

/-- The last component of a path, if it is a name. -/
def name? (p : Path) : Option String :=
  match p.components.getLast? with
  | some (.name n) => some n
  | _ => none

/-- The name that an entry at a path carries: the last name, or the whole path where there is none. -/
def entryName (p : Path) : String := p.name?.getD p.spelling

/-- The names of components that are nothing but names. -/
def plainNames? : List Component → Option (List String)
  | [] => some []
  | .name n :: rest => (plainNames? rest).map (n :: ·)
  | _ :: _ => none

/-- The text of a component. -/
def Component.text : Component → String
  | .root => "/"
  | .here => "."
  | .up => ".."
  | .name n => n

/-! ## Building paths -/

/-- A path behind another: an absolute one stands alone. -/
def join (p q : Path) : Path :=
  let base := p.spelling.toList
  let next := q.spelling.toList
  if next.head? = some '/' then q
  else if base = [] ∨ base.getLast? = some '/' then ⟨String.ofList (base ++ next)⟩
  else ⟨String.ofList (base ++ '/' :: next)⟩

/-- The path of an entry below a path. -/
def child (p : Path) (name : String) : Path := p.join ⟨name⟩

/-- The path of a component behind a path. -/
def step (p : Path) (c : Component) : Path := p.child c.text

/-- The pieces in front of the last one that counts, from the last to the first. -/
def beforeLast (reversed : List (List Char)) : Option (List (List Char)) :=
  match reversed.dropWhile isIdle with
  | [] => none
  | _ :: front => some (front.dropWhile isIdle)

/-- A path without its last component and without what stands idle in front of it. -/
def parent? (p : Path) : Option Path :=
  match pieces p.spelling.toList with
  | [] :: body =>
    (beforeLast body.reverse).map fun front => ⟨String.ofList ('/' :: glued front.reverse)⟩
  | ['.'] :: body =>
    match beforeLast body.reverse with
    | none => some ⟨""⟩
    | some front => some ⟨String.ofList (glued (['.'] :: front.reverse))⟩
  | body =>
    (beforeLast body.reverse).map fun front => ⟨String.ofList (glued front.reverse)⟩

/-- Whether two paths lie in one directory. -/
def sameParent (p q : Path) : Bool := p.parent?.map components == q.parent?.map components

end Path

end FileIndex
