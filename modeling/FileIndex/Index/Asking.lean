/-
An index that asks for the forms of names where it makes nodes and renames them, and for the forms of other texts where
a search reads them.
-/
import FileIndex.Index.Collect
import FileIndex.Index.Mutation
import FileIndex.Index.Search
import FileIndex.Projection.Asking

namespace FileIndex

/-- Work that asks for forms and may run into a broken contract. -/
abbrev AskingE (α : Type) := ExceptT Fault Asking α

/-- Such work on an index. A fault keeps what was done before it. -/
abbrev AskingM (α : Type) := ExceptT Fault (StateT Index Asking) α

namespace Asking

variable {α : Type}

/-- Work on an index that asks for nothing. -/
def keep (work : IndexM α) : AskingM α := ExceptT.mk fun x => .done (x.perform work)

/-- Work that leaves the index as it is. -/
def aside (work : AskingE α) : AskingM α := ExceptT.mk fun x => work.run.bind fun r => .done (r, x)

/-! ## Trees -/

/-- A node on its own. -/
def ofName (name : String) (metadata : Metadata) : AskingE Node := do
  let fuzzy ← form .fuzzy name
  let word ← form .word name
  return { name, metadata, fuzzy, word }

/-- Puts a node on its own into an arena. -/
def insertNamed (a : Arena) (name : String) (metadata : Metadata) : AskingE (NodeId × Arena) := do
  return a.insert (← ofName name metadata)

mutual

/-- Puts found entries into an arena, each one in front of what lies in it. -/
def insertCollected (a : Arena) : Collected → AskingE (NodeId × Arena)
  | .entry name metadata children => do
    let (id, a) ← insertNamed a name metadata
    return (id, ← insertChildren a id children)

/-- Puts found entries below a node. -/
def insertChildren (a : Arena) (parent : NodeId) : List Collected → AskingE Arena
  | [] => return a
  | c :: rest => do
    let (id, a) ← insertCollected a c
    let a ← a.attachNew parent id
    insertChildren a parent rest

end

/-- The tree of what a walk found; of an area without an entry, an empty one. -/
def ofCollected (area : Area) (includeHidden : Bool) (found : Option Collected) (a : Arena) :
    AskingE (Tree × Arena) :=
  match found with
  | none => return ({ area, root := none, includeHidden }, a)
  | some c => do
    let (root, a) ← insertCollected a c
    return ({ area, root := some root, includeHidden }, a.modify root (·.setAnchor area.path.parent?))

/-- Puts a node for the entry at a path into the arena, with all that the area takes below it. -/
def createNode (t : Tree) (a : Arena) (d : Disk) (p : Path) (metadata : Metadata) : AskingE (NodeId × Arena) :=
  if metadata.isDirectory && (t.area.recursive || p.same t.area.path) then
    match FileIndex.walk d p (Tree.scope t.area t.includeHidden) {} with
    | .collected found => insertCollected a found
    | _ => insertNamed a p.entryName metadata
  else insertNamed a p.entryName metadata

/-- Makes the nodes that components lead to from a node, as far as they are names. -/
def addBelow (t : Tree) (d : Disk) (p : Path) (metadata : Metadata) (a : Arena) (top : Option NodeId)
    (current : NodeId) (way : Path) : List Path.Component → AskingE Tree.Added
  | [] => return { arena := a, top, complete := true }
  | .name n :: rest => do
    let way := way.child n
    match ← Tree.findChild a current n with
    | some child => addBelow t d p metadata a top child way rest
    | none =>
      let (child, a) ←
        if rest = [] then createNode t a d p metadata
        else insertNamed a n (Tree.wayMetadata d way)
      let a ← a.attach current child
      addBelow t d p metadata a (some (top.getD child)) child way rest
  | _ :: _ => return { arena := a, top, complete := false }

/-- The root of a tree, made if there is none, and whether it was made. -/
def ensureRoot (t : Tree) (a : Arena) (d : Disk) (p : Path) (metadata : Metadata) (rest : List Path.Component) :
    AskingE (NodeId × Option NodeId × Arena) := do
  match t.root with
  | some root => return (root, none, a)
  | none =>
    let (root, a) ←
      if rest = [] then createNode t a d p metadata
      else insertNamed a t.area.path.entryName (Tree.wayMetadata d t.area.path)
    return (root, some root, a.modify root (·.setAnchor t.area.path.parent?))

/-- Adds the entry at a path with all directories on the way to it that have no node yet. -/
def add (t : Tree) (a : Arena) (d : Disk) (p : Path) : AskingE (Option NodeId × Tree × Arena) := do
  match p.below? t.area.path, d.metadata? p with
  | some rest, some metadata =>
    if !t.area.covers p || t.hides rest then return (none, t, a)
    let (root, made, a) ← ensureRoot t a d p metadata rest
    let t := { t with root := some root }
    let added ← addBelow t d p metadata a made root t.area.path rest
    let (made, a) := added.outcome
    return (made, t, a)
  | _, _ => return (none, t, a)

/-- Gives the node at a path another name in the same directory, and asks for the forms of that. -/
def rename (t : Tree) (a : Arena) (old new : Path) : AskingE (Option NodeId × Arena) := do
  if !old.sameParent new then throw (.renameMoves old.spelling new.spelling)
  if old.same t.area.path then return (none, a)
  match ← t.locate a old with
  | none => return (none, a)
  | some id =>
    let name := new.entryName
    let a ← Tree.clearName a id name
    let fuzzy ← form .fuzzy name
    let word ← form .word name
    return (some id, (a.modify id fun n => { n with name, fuzzy, word, knownPath := none }).forgetPaths id)

/-! ## Collecting -/

/-- Builds the trees of what was found, and watches them. -/
def build (d : Disk) : List (Area × Option Collected) → AskingM (List Tree)
  | [] => return []
  | (area, found) :: rest => do
    let x ← get
    let (t, arena) ← aside (ofCollected area x.includeHidden found x.arena)
    set (x.withArena arena)
    let t ← keep (Index.watchTree d t)
    return t :: (← build d rest)

/-- Sets the areas and builds what is missing; where that is canceled, only the trees that stay are left. -/
def gather (d : Disk) (areas : List Area) (c : Cancellation) : AskingM Index.Gathered := do
  modify Index.separate
  let x ← get
  let wanted := Area.dedup areas
  let (kept, disposed) := x.trees.partition (Index.stays wanted)
  set { x with trees := [], arena := Index.releaseTrees x.arena disposed }
  let missing := wanted.filter fun a => !kept.any fun t => Index.sameArea a t.area
  match Index.walkAll d x.includeHidden c missing with
  | none =>
    modify (·.withTrees kept)
    return { complete := false, changed := !disposed.isEmpty }
  | some found =>
    let built ← build d found
    modify (·.withTrees (Index.inOrder wanted (kept ++ built)))
    return { complete := true, changed := !disposed.isEmpty || !built.isEmpty }

/-- Collects areas. -/
def collect (d : Disk) (areas : List Area) (c : Cancellation) : AskingM (Option Nat) := do
  let g ← gather d areas c
  if g.complete then keep Index.merge
  let n ← keep Index.recount
  keep (Index.publishReset g.changed)
  return if g.complete then some n else none

/-! ## Edits -/

/-- Adds the entry at a path with the directories on the way to it. -/
def addPath (d : Disk) (root : Option Path) (p : Path) : AskingM (Option Snapshot) := do
  let x ← get
  match x.owner? root p with
  | none => return none
  | some (i, t) =>
    let (made, t, arena) ← aside (add t x.arena d p)
    set ({ x with arena }.setTree i t)
    match made with
    | none => return none
    | some id =>
      let nodes ← keep (Index.snapshotsBelow id)
      let bare ← Index.isBareRoot arena t id
      modify fun x => (x.adjust nodes.length (if bare then 1 else 0)).publish (.add nodes)
      return nodes.head?

/-- Gives the entry at a path another name. Where there is no entry to rename, the one at the new path is added. -/
def renamePath (d : Disk) (root : Option Path) (old new : Path) : AskingM (Option Snapshot) := do
  let x ← get
  match x.owner? root old with
  | none => return none
  | some (_, t) =>
    let source ← t.locate x.arena old
    let target ← t.locate x.arena new
    let replaced ← keep (Index.replacedBy source target)
    let (renamed, arena) ← aside (rename t (← get).arena old new)
    modify (·.withArena arena)
    match renamed with
    | none => addPath d root new
    | some id =>
      if !replaced.isEmpty then
        modify fun x => (x.adjust 0 replaced.length).publish (.remove replaced)
      let nodes ← keep (Index.snapshotsBelow id)
      modify (·.publish (.rename nodes old))
      return nodes.head?

/-- Applies a change that a watcher reported for the area of a root. -/
def applyChange (d : Disk) (root : Path) (c : PathChange) : AskingM Unit := do
  if ((← get).owner? (some root) root).isNone then return
  match c with
  | .created p =>
    if (← addPath d (some root) p).isNone then
      let _ ← keep (Index.refreshPath d (some root) p)
  | .deleted p =>
    let _ ← keep (Index.removePath (some root) p)
  | .renamed source target =>
    let _ ← renamePath d (some root) source target
  | .changed p =>
    if (← keep (Index.refreshPath d (some root) p)).isNone then
      let _ ← addPath d (some root) p

/-! ## Searches -/

/-- A way to come to the form of a property's text. -/
abbrev Forming := Projection → Property → Item → Asking String

/-- The forms of the name are at hand; the others are asked for. -/
def atHand : Forming
  | .fuzzy, .text, item => return item.fuzzy
  | .word, .text, item => return item.word
  | f, p, item => form f (p.read item)

/-- Every form is asked for, also those of the name. -/
def asMatched : Forming := fun f p item => form f (p.read item)

variable (forming : Forming)

/-- Whether an item passes a test. -/
def holds (m : Matcher) (p : Property) (item : Item) : AskingE Bool :=
  match m with
  | .word needle => do return containsWord needle.toList (← forming .word p item).toList
  | .fuzzy needle => do return containsText needle.toList (← forming .fuzzy p item).toList
  | m => liftM (m.holds p item)

/-- Whether an item passes a key's test. -/
def test (k : CompiledKey) (item : Item) : AskingE Bool := holds forming k.matcher k.property item

/-- What a key makes of the verdict in front of it. -/
def foldKey (item : Item) (current : Bool) (k : CompiledKey) : AskingE Bool :=
  match k.conjunction with
  | .and => if current then test forming k item else return false
  | .or => if current then return true else test forming k item
  | .not => if current then do return !(← test forming k item) else return false
  | .preor => return current

/-- The verdict of keys, each with the verdict in front of it. -/
def foldKeys (item : Item) (current : Bool) : List CompiledKey → AskingE Bool
  | [] => return current
  | k :: keys => do foldKeys item (← foldKey forming item current k) keys

/-- Whether one of the keys accepts an item; the later ones are not asked. -/
def anyTest (item : Item) : List CompiledKey → AskingE Bool
  | [] => return false
  | k :: keys => do if ← test forming k item then return true else anyTest item keys

/-- Whether an unpinned item passes the query. -/
def accepts (q : CompiledQuery) (item : Item) : AskingE Bool := do
  if ← foldKeys forming item true q.keys then return true
  else anyTest forming item (q.keys.filter (·.conjunction == .preor))

/-- The items from step n on that pass; none if a request to stop was seen. -/
def filterFrom {α : Type} (q : CompiledQuery) (view : α → Item) (c : Cancellation) :
    Nat → List α → AskingE (Option (List α))
  | _, [] => return some []
  | n, a :: rest => do
    if !c.allowsStep n then return none
    else
      let passes ← accepts forming q (view a)
      let found ← filterFrom q view c (n + 1) rest
      return found.map fun found => if passes then a :: found else found

/-- The result of a query: the pinned items, then the others that pass, both in their order. -/
def evaluate {α : Type} (q : CompiledQuery) (view : α → Item) (items : List α) (c : Cancellation) :
    AskingE (Option (List α)) := do
  let pinned := items.filter fun a => (view a).isPinned
  if q.isEmpty then return some pinned
  else
    let found ← filterFrom forming q view c 0 (items.filter fun a => !(view a).isPinned)
    return found.map (pinned ++ ·)

/-- Holds queries against the same entries, one after the other. -/
def evaluateAll (items : List (NodeId × Item)) (c : Cancellation) (a : Arena) :
    List CompiledQuery → AskingE (Option (List (List Snapshot) × Arena))
  | [] => return some ([], a)
  | q :: rest => do
    match ← evaluate forming q (·.2) items c with
    | none => return none
    | some found =>
      let (nodes, a) := a.snapshots (found.map (·.1))
      match ← evaluateAll items c a rest with
      | none => return none
      | some (others, a) => return some (nodes :: others, a)

/-- Runs several queries on the same entries. -/
def multiSearch (queries : List CompiledQuery) (c : Cancellation) : AskingM (Option (List (List Snapshot))) := do
  let x ← get
  let items ← x.searched
  match ← aside (evaluateAll forming items c x.arena queries) with
  | none => return none
  | some (results, arena) =>
    set { x with arena }.clearAdded
    return some results

/-- Runs a query. -/
def search (q : CompiledQuery) (c : Cancellation) : AskingM (Option (List Snapshot)) := do
  return (← multiSearch forming [q] c).bind (·.getLast?)

/-- Runs a query and subscribes to the changes that come after it. -/
def subscribedSearch (q : CompiledQuery) (c : Cancellation) : AskingM (Option (List Snapshot × Nat)) := do
  match ← search forming q c with
  | none => return none
  | some found =>
    let subscriber ← modifyGet fun x =>
      let (subscriber, feed) := x.feed.subscribe
      (subscriber, { x with feed })
    return some (found, subscriber)

end Asking

end FileIndex
