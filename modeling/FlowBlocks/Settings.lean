import FlowBlocks.Disk
import FlowBlocks.FlowGraph
import FlowBlocks.Leaders
import FlowBlocks.Toml.Document
import FlowBlocks.Trace.Setup
/-!
Settings: the choices that hold unless a command says otherwise. They are read from the file `bbg.toml` of
the working directory or of the nearest directory above it that has one. A setting that the file does not
give keeps its default; a key that is no setting is an error, so that a slip of the pen does not go
unnoticed.
-/
namespace FlowBlocks

/-- The settings, most of them by name; `path` is the file they were read from. -/
structure Settings where
  kind : Bytes := bytes "brief"
  policy : Bytes := bytes "bigblock"
  jobs : Int := 0
  level : Bytes := bytes "off"
  mode : Bytes := bytes "stream"
  output : Bytes := bytes "-"
  ringSize : Int := 0
  color : Bytes := bytes "auto"
  caching : Bool := false
  cacheDir : Bytes := []
  path : Bytes := []
deriving DecidableEq, Repr

inductive SettingsError
  | unreadable (path : Bytes) (cause : DiskError)
  | malformed (path : Bytes)
  | wrongType (path : Bytes) (key : Toml.Key)
  | unknownKeys (path : Bytes) (keys : List Toml.Key)
  | invalid (path : Bytes) (complaints : List Bytes)
  | unsearchable (candidate : Bytes) (cause : DiskCause)
deriving DecidableEq, Repr

namespace SettingsError

def message : SettingsError → Bytes
  | .unreadable path e => path ++ bytes ": failed to parse TOML: " ++ e.message
  | .malformed path => path ++ bytes ": failed to parse TOML: toml: malformed document"
  | .wrongType path key =>
    path ++ bytes ": failed to parse TOML: toml: wrong type for " ++ Toml.showKey key
  | .unknownKeys path keys =>
    path ++ bytes ": unknown keys: " ++ Bytes.join (bytes ", ") (keys.map Toml.showKey)
  | .invalid path complaints => path ++ bytes ": " ++ Bytes.join [10] complaints
  | .unsearchable candidate cause =>
    bytes "failed to stat " ++ quoted candidate ++ bytes ": " ++
      DiskError.message ⟨bytes "stat", candidate, cause⟩

/-- Whether the file is at fault as a TOML document. -/
def isToml : SettingsError → Bool
  | .malformed _ => true
  | .wrongType _ _ => true
  | _ => false

end SettingsError

namespace Settings

/-- How a value is put into the settings; one of the wrong type is refused. -/
abbrev Slot := Settings → Toml.Value → Option Settings

def textSlot (put : Settings → Bytes → Settings) : Slot
  | s, .text t => some (put s t)
  | _, _ => none

def intSlot (put : Settings → Int → Settings) : Slot
  | s, .int n => some (put s n)
  | _, _ => none

def boolSlot (put : Settings → Bool → Settings) : Slot
  | s, .bool b => some (put s b)
  | _, _ => none

/-- The settings by table and name. -/
def slots : List (String × List (String × Slot)) :=
  [("graph", [("kind", textSlot fun s t => { s with kind := t })]),
    ("leaders", [("policy", textSlot fun s t => { s with policy := t })]),
    ("run", [("jobs", intSlot fun s n => { s with jobs := n })]),
    ("trace",
      [("level", textSlot fun s t => { s with level := t }),
        ("mode", textSlot fun s t => { s with mode := t }),
        ("output", textSlot fun s t => { s with output := t }),
        ("ring_size", intSlot fun s n => { s with ringSize := n })]),
    ("output", [("color", textSlot fun s t => { s with color := t })]),
    ("cache",
      [("enabled", boolSlot fun s b => { s with caching := b }),
        ("dir", textSlot fun s t => { s with cacheDir := t })])]

/-- What a name stands for in a list of lowercase names: the one spelled like it, or else one that differs
in case only. -/
def named? {α : Type} (xs : List (String × α)) (name : Bytes) : Option α :=
  ((xs.find? fun (n, _) => bytes n == name).or (xs.find? fun (n, _) => foldsTo n name)).map Prod.snd

/-- Reading so far: the settings, and the keys that were understood. -/
structure Reading where
  settings : Settings := {}
  known : List Toml.Key := []

/-- Reads one name of a table. The error is the key whose value has the wrong type. -/
def readName (fields : List (String × Slot)) (table : Bytes) (r : Reading) (entry : Bytes × Toml.Node) :
    Except Toml.Key Reading :=
  let key := [table, entry.1]
  match named? fields entry.1 with
  | none => .ok r
  | some slot =>
    match entry.2 with
    | .leaf v =>
      match slot r.settings v with
      | some settings => .ok { settings, known := key :: r.known }
      | none => .error key
    | _ => .error key

def readTable (r : Reading) (entry : Bytes × Toml.Node) : Except Toml.Key Reading :=
  match named? slots entry.1 with
  | none => .ok r
  | some fields =>
    match entry.2 with
    | .table names =>
      names.foldlM (readName fields entry.1) { r with known := [entry.1] :: r.known }
    | _ => .error [entry.1]

/-- What is wrong with the names and numbers among the settings. -/
def complaints (s : Settings) : List Bytes :=
  let about := fun (place : String) (found : List Bytes) =>
    found.map fun m => bytes place ++ bytes ": " ++ m
  about "[graph].kind" (complaint (GraphKind.parse s.kind)) ++
    about "[leaders].policy" (complaint (Policy.parse s.policy)) ++
    about "[run].jobs"
      (if s.jobs < 0 then [bytes "must not be negative, got " ++ decimalInt s.jobs] else []) ++
    about "[trace].level" (complaint (Trace.Level.parse s.level)) ++
    about "[trace].mode" (complaint (Trace.Mode.parse s.mode)) ++
    about "[output].color"
      (if ["", "auto", "on", "off"].any (isNamed · s.color) then []
        else [bytes "invalid value " ++ quoted s.color ++ bytes " (expected: auto|on|off)"])

def load (d : Disk) (path : Bytes) : Except SettingsError Settings := do
  let source ← (d.read path).mapError (SettingsError.unreadable path)
  match Toml.Document.read? source with
  | none => .error (.malformed path)
  | some doc =>
    let r ← (doc.root.foldlM readTable {}).mapError (SettingsError.wrongType path)
    let unknown := doc.keys.filter fun k => !r.known.contains k
    let s := { r.settings with path }
    if !unknown.isEmpty then .error (.unknownKeys path unknown)
    else if !s.complaints.isEmpty then .error (.invalid path s.complaints)
    else return s

def fileName : Bytes := bytes "bbg.toml"

/-- A directory and those above it, nearest first. -/
def ancestors (dir : Bytes) : List Bytes :=
  let ps := Path.parts dir
  (List.range (ps.length + 1)).reverse.map fun n => Path.slash :: Bytes.join [Path.slash] (ps.take n)

/-- The first of the directories that has a settings file: the path of that file. -/
def findIn (d : Disk) : List Bytes → Except SettingsError (Option Bytes)
  | [] => .ok none
  | dir :: rest =>
    let candidate := Path.join [dir, fileName]
    match d.stat candidate with
    | .ok _ => .ok (some candidate)
    | .error .missing => findIn d rest
    | .error cause => .error (.unsearchable candidate cause)

/-- The settings file of a directory or of the nearest one above it. -/
def find (d : Disk) (start : Bytes) : Except SettingsError (Option Bytes) :=
  findIn d (ancestors (Path.absolute d.cwdPath (if start.isEmpty then bytes "." else start)))

/-- The settings that hold in a directory. -/
def discover (d : Disk) (start : Bytes) : Except SettingsError Settings := do
  match ← find d start with
  | some path => load d path
  | none => return {}

end Settings

end FlowBlocks
