/-
The engine: an index behind a worker. Every request is a command; queries are compiled before they become
one, so that what is wrong with a query is known at once. The disk belongs to the worker's state: a
command finds it as it is when the command runs.
-/
import FileIndex.Command.Worker
import FileIndex.Engine.Live
import FileIndex.Index.Collect
import FileIndex.Index.Mutation
import FileIndex.Index.Search
import FileIndex.Query.Writer

namespace FileIndex

/-- A disk and the index of it. -/
structure Site where
  disk : Disk := {}
  index : Index := {}
deriving Repr

/-- What a command gives back. -/
inductive Reply where
  | done
  | count (n : Nat)
  | entry (s : Option Snapshot)
  | found (entries : List Snapshot)
  | foundEach (results : List (List Snapshot))
  /-- Live results and the number under which they hear of changes. -/
  | live (results : LiveResults) (subscriber : Nat)
deriving Repr

/-- Work on an index. -/
abbrev IndexWork := Work Site Reply

namespace IndexWork

/-- Work that does something on the index and ends with what that gives back. A fault breaks it off and
leaves the index as it is then. -/
def operate (f : Disk → IndexM (Option Reply)) : IndexWork :=
  .read fun site =>
    let (result, index) := site.index.perform (f site.disk)
    .write { site with index } (.ofExcept result .done)

/-- Collects areas, unless that is canceled. -/
def collect (areas : List Area) : IndexWork :=
  .isCanceled fun canceled => operate fun d =>
    return (← Index.collect d areas ⟨canceled⟩).map .count

/-- Runs a query. -/
def search (q : CompiledQuery) : IndexWork :=
  .isCanceled fun canceled => operate fun _ => return (← Index.search q ⟨canceled⟩).map .found

/-- Runs several queries on the same entries. -/
def multiSearch (queries : List CompiledQuery) : IndexWork :=
  .isCanceled fun canceled => operate fun _ =>
    return (← Index.multiSearch queries ⟨canceled⟩).map .foundEach

/-- Runs a query and subscribes to the changes that come after it. -/
def liveSearch (q : CompiledQuery) : IndexWork :=
  .isCanceled fun canceled => operate fun _ =>
    return (← Index.subscribedSearch q ⟨canceled⟩).map fun (entries, subscriber) =>
      .live { query := q, entries } subscriber

/-- Changes an entry. -/
def mutate (f : Disk → IndexM (Option Snapshot)) : IndexWork :=
  operate fun d => return some (.entry (← f d))

/-- Has the index watch its areas. -/
def startWatching : IndexWork :=
  operate fun d => do
    Index.setWatching d true
    return some .done

/-- Applies a change that a watcher reported. -/
def applyChange (root : Path) (c : PathChange) : IndexWork :=
  operate fun d => do
    Index.applyChange d root c
    return some .done

end IndexWork

/-- An index behind a worker. -/
structure Engine where
  settings : Settings
  worker : Worker Site Reply
  /-- The number of the latest collect. -/
  pendingCollect : Option Nat := none

namespace Engine

/-! ## Commands -/

/-- Gives the worker a command. The result is its number. -/
def send (e : Engine) (kind : CommandKind) (work : IndexWork) : Nat × Engine :=
  let (number, worker) := e.worker.enqueue kind work
  (number, { e with worker })

/-- Runs all that waits. Index work gives the worker nothing more to do. -/
def runAll (e : Engine) : Engine := { e with worker := e.worker.drain (e.worker.queue.length + 1) }

/-- The result of a command, behind all commands that wait. -/
def join (e : Engine) (number : Nat) : Except Failure Reply × Engine :=
  let e := e.runAll
  (((e.worker.outcome? number).getD .stopped).result, e)

/-- An engine with settings on a disk. -/
def ofSettings (s : Settings) (disk : Disk) : Engine :=
  let e : Engine := { settings := s, worker := { state := { disk, index := .ofSettings s } } }
  if s.watch then (e.send (.mutate .watch) .startWatching).2 else e

/-! ## Queries -/

/-- The filter of the engine's queries. -/
def filter (e : Engine) : Filter := .ofProperties Property.all e.settings.marker

/-- The key that leaves out directories. -/
def noDirectories : Key where
  word := "true"
  conjunction := .not
  property := Property.isDirectory.name
  operator := .compare .eq
  exclude := true

/-- Compiles a query. -/
def compile (e : Engine) (now : Moment) (withoutDirectories : Bool) (query : String) :
    Except QueryError CompiledQuery := do
  let q ← e.filter.compileQuery now query
  if withoutDirectories then return q.withTrailing (← e.filter.compileKey now noDirectories)
  else return q

/-- The query as the engine would write it. -/
def canonical (e : Engine) (now : Moment) (query : String) : Except QueryError String :=
  (e.filter.parse now query).map fun keys => queryText keys e.settings.marker

/-! ## Requests -/

/-- Sets the areas. An earlier request to do so that is not done is canceled. -/
def setAreas (e : Engine) (areas : List Area) : Nat × Engine :=
  let worker := e.pendingCollect.elim e.worker e.worker.cancel
  let e := { e with worker := (worker.cancelQueued .collect).2 }
  let (number, e) := e.send .collect (.collect areas)
  (number, { e with pendingCollect := some number })

/-- Searches with directories left out or not. -/
def searchWith (e : Engine) (now : Moment) (query : String) (withoutDirectories : Bool) :
    Except QueryError (Nat × Engine) :=
  (e.compile now withoutDirectories query).map fun q => e.send .search (.search q)

/-- Searches as the settings have it. -/
def search (e : Engine) (now : Moment) (query : String) : Except QueryError (Nat × Engine) :=
  e.searchWith now query e.settings.excludeDirectories

/-- Runs several queries on the same entries. -/
def multiSearch (e : Engine) (now : Moment) (queries : List String) :
    Except QueryError (Nat × Engine) :=
  (queries.mapM (e.compile now e.settings.excludeDirectories)).map fun qs =>
    e.send .multiSearch (.multiSearch qs)

/-- Searches and keeps the result current. -/
def liveSearch (e : Engine) (now : Moment) (query : String) : Except QueryError (Nat × Engine) :=
  (e.compile now e.settings.excludeDirectories query).map fun q => e.send .search (.liveSearch q)

/-- Adds the entry at a path. -/
def add (e : Engine) (p : Path) : Nat × Engine :=
  e.send (.mutate .add) (.mutate (Index.addPath · none p))

/-- Removes the entry at a path. -/
def remove (e : Engine) (p : Path) : Nat × Engine :=
  e.send (.mutate .remove) (.mutate fun _ => Index.removePath none p)

/-- Gives the entry at a path another name in the same directory. -/
def rename (e : Engine) (old new : Path) : Nat × Engine :=
  e.send (.mutate .rename) (.mutate (Index.renamePath · none old new))

/-- Reads the metadata of the entry at a path again. -/
def refresh (e : Engine) (p : Path) : Nat × Engine :=
  e.send (.mutate .refresh) (.mutate (Index.refreshPath · none p))

/-- Pins the entry at a path or lets it go. -/
def setPinned (e : Engine) (p : Path) (pinned : Bool) : Nat × Engine :=
  e.send (.mutate .pin) (.mutate fun _ => Index.setPinned p pinned)

/-- Asks for nothing; the command is done when all before it are. -/
def wait (e : Engine) : Nat × Engine := e.send .wait (.done (some .done))

/-! ## What happens outside -/

/-- The index as the worker has it. -/
def index (e : Engine) : Index := e.worker.state.index

/-- Changes the index outside of any command. -/
def modifyIndex (e : Engine) (f : Index → Index) : Engine :=
  { e with worker := { e.worker with state := { e.worker.state with index := f e.worker.state.index } } }

/-- The disk becomes another. -/
def setDisk (e : Engine) (disk : Disk) : Engine :=
  { e with worker := { e.worker with state := { e.worker.state with disk } } }

/-- Subscribes to the changes of the index. -/
def subscribe (e : Engine) : Nat × Engine :=
  (e.index.feed.subscribe.1, e.modifyIndex fun x => { x with feed := x.feed.subscribe.2 })

/-- The changes that a subscriber has not read. -/
def read (e : Engine) (subscriber : Nat) : List IndexChange × Engine :=
  (((e.index.feed.read subscriber).1).getD [],
    e.modifyIndex fun x => { x with feed := (x.feed.read subscriber).2 })

/-- Brings live results up to date. The result says whether there was anything new. -/
def refreshLive (e : Engine) (l : LiveResults) (subscriber : Nat) :
    Except Fault (Bool × LiveResults × Engine) :=
  let (changes, e) := e.read subscriber
  (l.followAll changes).map fun l => (!changes.isEmpty, l, e)

/-- The operating system reports something of a watched path at a time. What comes of it is given to the
worker. -/
def hear (e : Engine) (now : Nat) (watched : Path) (events : List (Option RawEvent)) : Engine :=
  let (changes, index) := e.index.hear e.worker.state.disk now watched events
  changes.foldl (fun e (root, c) => (e.send (.mutate .watch) (.applyChange root c)).2)
    (e.modifyIndex fun _ => index)

end Engine

end FileIndex
