import FlowBlocks.Disk
import FlowBlocks.Record.Decode
import FlowBlocks.Record.Encode
/-!
The store: a directory of records, each filed under a digest of the listing and the choices that shape its
graphs. A record is written beside its place and then moved there, so a place never holds half a record.
-/
namespace FlowBlocks

abbrev Environment := List (Bytes × Bytes)

namespace Environment

/-- The value of a variable; an unset one is empty. -/
def get (env : Environment) (name : String) : Bytes :=
  ((env.find? fun (n, _) => n == bytes name).map Prod.snd).getD []

/-- Sets a variable; an empty value unsets it. -/
def set (env : Environment) (name value : Bytes) : Environment :=
  let others := env.filter fun (n, _) => n != name
  if value.isEmpty then others else (name, value) :: others

end Environment

structure Store where
  dir : Bytes
deriving DecidableEq, Repr

namespace Store

/-- The bytes a key is the digest of: version, graph and policy, each ended by a zero byte, then the
listing. -/
def keySource (src graph policy : Bytes) : Bytes :=
  bytes "bbg/" ++ decimal Record.currentSchema.toNat ++ [0] ++ graph ++ [0] ++ policy ++ [0] ++ src

def key (src graph policy : Bytes) : Bytes := Digest.sha256 (keySource src graph policy)

def keyName (key : Bytes) : Bytes := key.flatMap hexByte

/-- The directory used where none is given. -/
def standardDir (env : Environment) (app : Bytes) : Except Bytes Bytes :=
  let base := env.get "XDG_CACHE_HOME"
  if !base.isEmpty then .ok (Path.join [base, app])
  else
    let home := env.get "HOME"
    if home.isEmpty then .error (bytes "$HOME is not defined")
    else .ok (Path.join [Path.join [home, bytes ".cache"], app])

/-- Opens the store in `dir`, which is made if need be. An empty `dir` means the standard one of `app`. -/
def open_ (env : Environment) (dir app : Bytes) (d : Disk) : Except Bytes (Store × Disk) := do
  let dir ← if dir.isEmpty then standardDir env app else .ok dir
  match d.makeDirs dir with
  | .error e => .error e.message
  | .ok d => return (⟨dir⟩, d)

def recordDir (s : Store) : Bytes := Path.join [s.dir, bytes "graphs"]

def placeOf (s : Store) (key : Bytes) : Bytes :=
  Path.join [s.dir, bytes "graphs", keyName key ++ bytes ".mp"]

/-- What came of filing a record: an error if it failed, the record as far as it was stamped, and the
disk. -/
structure Filed where
  error : Option Bytes
  record : Record
  disk : Disk

/-- Files a record under a key, over any record there. -/
def put (s : Store) (now : Int64) (key : Bytes) (r : Record) (d : Disk) : Filed :=
  let place := s.placeOf key
  let dir := Path.directory place
  match d.makeDirs dir with
  | .error e => ⟨some e.message, r, d⟩
  | .ok d =>
    let stamped := r.stamped now
    match d.writeTemp dir (bytes "tmp-") stamped.encode with
    | .error e => ⟨some e.message, r, d⟩
    | .ok (temp, d) =>
      match d.rename temp place with
      | .error e => ⟨some e.message, stamped, d.removeFile temp⟩
      | .ok d => ⟨none, stamped, d⟩

/-- The record under a key. None there, or one of another version, is no error. -/
def get (s : Store) (key : Bytes) (d : Disk) : Except Bytes (Option Record) :=
  let place := s.placeOf key
  let unreadable := fun (why : Bytes) => bytes "decode " ++ keyName key ++ bytes ": " ++ why
  match d.stat place with
  | .error .missing => .ok none
  | .error e => .error (DiskError.message ⟨bytes "open", place, e⟩)
  | .ok (_, .dir) => .error (unreadable (DiskError.message ⟨bytes "read", place, .isDirectory⟩))
  | .ok (_, .file content) =>
    match Record.decode content with
    | .ok r => .ok (some r)
    | .error (.otherSchema _) => .ok none
    | .error e => .error (unreadable e.message)

/-- Takes every record away. -/
def clear (s : Store) (d : Disk) : Option DiskError × Disk := d.removeAll s.recordDir

end Store

end FlowBlocks
