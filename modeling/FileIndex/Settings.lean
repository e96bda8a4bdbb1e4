/-
The settings of an index, their written form as a JSON record and what is refused in them.
-/
import FileIndex.Disk.Basic
import FileIndex.Failure
import FileIndex.Json.Reader
import FileIndex.Json.Writer
import FileIndex.Text.Blank

namespace FileIndex

/-- What can be set. Every part has a default. -/
structure Settings where
  /-- The character in front of an option of a query. -/
  marker : Char := '/'
  /-- Whether forms of texts are kept for the next time. -/
  memoEnabled : Bool := true
  /-- The seconds after which a form that nobody asked for is forgotten. -/
  memoExpiry : Nat := 60
  /-- The seconds between two looks for forms to forget. -/
  memoInterval : Nat := 30
  /-- Whether areas are watched for changes. -/
  watch : Bool := true
  /-- Whether names that start with a dot are indexed. -/
  includeHidden : Bool := true
  /-- Whether searches leave directories out. -/
  excludeDirectories : Bool := false
deriving DecidableEq, Repr

namespace Settings

/-- The names of the fields of a written record, in its order. -/
def fieldNames : List String :=
  ["option_marker", "normalize_cache_enabled", "normalize_cache_expiry_secs",
    "normalize_cache_sweep_secs", "watch", "include_hidden", "exclude_directories"]

/-- A field of a record, or its default where it is left out. -/
def field {α : Type} (read? : Json → Option α) (default : α) : Option Json → Option α
  | none => some default
  | some v => read? v

/-- The settings of a record. -/
def ofJson? (v : Json) : Option Settings :=
  let usual : Settings := {}
  match v.fields? fieldNames with
  | some [marker, memoEnabled, memoExpiry, memoInterval, watch, includeHidden, excludeDirectories] => do
    return {
      marker := ← field Json.char? usual.marker marker
      memoEnabled := ← field Json.boolean? usual.memoEnabled memoEnabled
      memoExpiry := ← field Json.count? usual.memoExpiry memoExpiry
      memoInterval := ← field Json.count? usual.memoInterval memoInterval
      watch := ← field Json.boolean? usual.watch watch
      includeHidden := ← field Json.boolean? usual.includeHidden includeHidden
      excludeDirectories := ← field Json.boolean? usual.excludeDirectories excludeDirectories }
  | _ => none

/-- The record of settings. -/
def toJson (s : Settings) : Json :=
  Json.ofMembers (fieldNames.zip
    [.ofText s.marker.toString, .boolean s.memoEnabled, .ofCount s.memoExpiry, .ofCount s.memoInterval,
      .boolean s.watch, .boolean s.includeHidden, .boolean s.excludeDirectories])

/-- Whether queries can be written with the settings' marker: white space would end a word and a double
quote open a phrase. -/
def hasUsableMarker (s : Settings) : Bool := !(Text.isBlank s.marker || s.marker == '"')

/-- The settings that a text holds. -/
def read (t : String) : Except Failure Settings :=
  match (Json.read? t).bind ofJson? with
  | none => .error .malformedSettings
  | some s => if s.hasUsableMarker then .ok s else .error (.unusableMarker s.marker)

/-- The settings in the file at a path. -/
def load (d : Disk) (p : Path) : Except Failure Settings :=
  if !d.contains p then .error (.notFound p)
  else
    match d.read? p with
    | some t => read t
    | none => .error .unreadable

/-- The text of settings. -/
def write (s : Settings) : String := s.toJson.write

end Settings

end FileIndex
