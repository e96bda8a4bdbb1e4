/-
Collecting: setting the areas of an index. Trees of areas that stay are kept, the others released and the
missing ones built. Where one area lies directly in the directory of another that does not reach below
its entries, its tree takes the place of the entry there.
-/
import FileIndex.Index.Basic

namespace FileIndex.Index

/-! ## Separating -/

/-- Takes the roots of some trees away from their parents. -/
def detachRoots (a : Arena) (trees : List Tree) : Arena :=
  trees.foldl (fun a t => t.root.elim a fun root => (a.detach root).2) a

/-- Takes every tree that stands below another out of it. The other one has lost an entry and has to be
built anew. -/
def separate (x : Index) : Index :=
  let children := x.trees.filter (·.isChild)
  { x with
    arena := detachRoots x.arena children
    trees := x.trees.map fun t =>
      { t with
        isChild := false
        isDirty := t.isDirty || children.any fun c => t.area.isParentOf c.area } }

/-! ## Building -/

/-- Whether two areas have the same path and the same reach. -/
def sameArea (a b : Area) : Bool := a.path.same b.path && a.recursive == b.recursive

/-- Whether a tree can stay. -/
def stays (wanted : List Area) (t : Tree) : Bool :=
  !t.isDirty && wanted.any fun a => sameArea a t.area

/-- Releases the nodes of some trees. -/
def releaseTrees (a : Arena) (trees : List Tree) : Arena :=
  trees.foldl (fun a t => (t.release a).2.2) a

/-- Walks areas; `none` if one of the walks was canceled. -/
def walkAll (d : Disk) (includeHidden : Bool) (c : Cancellation) :
    List Area → Option (List (Area × Option Collected))
  | [] => some []
  | a :: rest =>
    match Tree.walk d a includeHidden c with
    | .canceled => none
    | .missing => (walkAll d includeHidden c rest).map ((a, none) :: ·)
    | .collected found => (walkAll d includeHidden c rest).map ((a, some found) :: ·)

/-- Builds the trees of what was found, and watches them. -/
def build (d : Disk) : List (Area × Option Collected) → IndexM (List Tree)
  | [] => return []
  | (area, found) :: rest => do
    let x ← get
    let (t, arena) ← Tree.ofCollected area x.includeHidden found x.arena
    set (x.withArena arena)
    let t ← watchTree d t
    return t :: (← build d rest)

/-- Trees in the order of the wanted areas. -/
def inOrder (wanted : List Area) (trees : List Tree) : List Tree :=
  wanted.flatMap fun a => trees.filter fun t => sameArea a t.area

/-! ## Merging -/

/-- Puts the root of tree `c` in the place of the entry of its name in the root directory of tree `p`, if
that tree does not reach below its entries and the area of the other lies directly in it. -/
def adopt (p c : Nat) : IndexM Unit := do
  let x ← get
  match x.trees[p]?, x.trees[c]? with
  | some parent, some child =>
    if parent.area.recursive || p == c || !parent.area.isParentOf child.area then return
    match parent.root, child.root with
    | some parentRoot, some childRoot =>
      let node ← x.arena.get childRoot
      match ← Tree.findChild x.arena parentRoot node.name with
      | none => return
      | some shallow =>
        if shallow = childRoot then return
        if node.parent.isSome then throw (.alreadyMerged child.area.path.spelling)
        let arena := ((x.arena.detach shallow).2.release shallow).2
        set (x.withArena arena)
        let arena ← arena.attach parentRoot childRoot
        set { x with arena, trees := x.trees.modify c fun t => { t with isChild := true } }
    | _, _ => return
  | _, _ => return

/-- All pairs of numbers below a bound. -/
def pairs (n : Nat) : List (Nat × Nat) :=
  (List.range n).flatMap fun p => (List.range n).map fun c => (p, c)

/-- Lets trees adopt each other, pair by pair. -/
def adoptAll : List (Nat × Nat) → IndexM Unit
  | [] => return
  | (p, c) :: rest => do
    adopt p c
    adoptAll rest

/-- Lets every tree adopt those that belong into it. -/
def merge : IndexM Unit := do adoptAll (pairs (← get).trees.length)

/-! ## Collecting -/

/-- Tells subscribers to start anew, if there is reason to. -/
def publishReset (changed : Bool) : IndexM Unit := do
  if changed then modify (·.publish .reset)

/-- How a collect stands before trees adopt each other. -/
structure Gathered where
  /-- Whether no walk was canceled. -/
  complete : Bool
  /-- Whether any tree was released or built. -/
  changed : Bool

/-- Sets the areas and builds what is missing; where that is canceled, only the trees that stay are
left. -/
def gather (d : Disk) (areas : List Area) (c : Cancellation) : IndexM Gathered := do
  modify separate
  let x ← get
  let wanted := Area.dedup areas
  let (kept, disposed) := x.trees.partition (stays wanted)
  set { x with trees := [], arena := releaseTrees x.arena disposed }
  let missing := wanted.filter fun a => !kept.any fun t => sameArea a t.area
  match walkAll d x.includeHidden c missing with
  | none =>
    modify (·.withTrees kept)
    return { complete := false, changed := !disposed.isEmpty }
  | some found =>
    let built ← build d found
    modify (·.withTrees (inOrder wanted (kept ++ built)))
    return { complete := true, changed := !disposed.isEmpty || !built.isEmpty }

/-- Collects areas. The answer is the number of entries; none if that was canceled. Subscribers hear of it
if any tree was released or built. -/
def collect (d : Disk) (areas : List Area) (c : Cancellation) : IndexM (Option Nat) := do
  let g ← gather d areas c
  if g.complete then merge
  let n ← recount
  publishReset g.changed
  return if g.complete then some n else none

end FileIndex.Index
