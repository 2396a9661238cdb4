import FlowBlocks.Path
/-!
A disk as a value: files and directories by their place, and a working directory. Every operation gives
the new disk or the error the operating system would report. A place is the list of names from the root;
the root itself is always a directory.
-/
namespace FlowBlocks

inductive Node
  | dir
  | file (content : Bytes)
deriving DecidableEq, Repr

inductive DiskCause
  | missing | notDirectory | isDirectory | exists_ | notEmpty | invalid | nameTooLong | closed
deriving DecidableEq, Repr

def DiskCause.message : DiskCause → Bytes
  | .missing => bytes "no such file or directory"
  | .notDirectory => bytes "not a directory"
  | .isDirectory => bytes "is a directory"
  | .exists_ => bytes "file exists"
  | .notEmpty => bytes "directory not empty"
  | .invalid => bytes "invalid argument"
  | .nameTooLong => bytes "file name too long"
  | .closed => bytes "file already closed"

/-- A failed operation: what was done to which path, and why it failed. -/
structure DiskError where
  action : Bytes
  path : Bytes
  cause : DiskCause
deriving DecidableEq, Repr

def DiskError.message (e : DiskError) : Bytes :=
  e.action ++ bytes " " ++ e.path ++ bytes ": " ++ e.cause.message

structure Disk where
  cwd : List Bytes := []
  entries : List (List Bytes × Node) := []
deriving DecidableEq, Repr

namespace Disk

def node? (d : Disk) (place : List Bytes) : Option Node :=
  if place.isEmpty then some .dir
  else (d.entries.find? fun (p, _) => p == place).map Prod.snd

def put (d : Disk) (place : List Bytes) (n : Node) : Disk :=
  { d with entries := (d.entries.filter fun (p, _) => p != place) ++ [(place, n)] }

def dropTree (d : Disk) (place : List Bytes) : Disk :=
  { d with entries := d.entries.filter fun (p, _) => !place.isPrefixOf p }

def hasBelow (d : Disk) (place : List Bytes) : Bool :=
  d.entries.any fun (p, _) => place.isPrefixOf p && p != place

/-- Follows names from a place. All but the last have to lead to directories; `..` leads to the parent. -/
def walk (d : Disk) : List Bytes → List Bytes → Except DiskCause (List Bytes)
  | place, [] => .ok place
  | place, name :: rest =>
    match d.node? place with
    | none => .error .missing
    | some (.file _) => .error .notDirectory
    | some .dir =>
      if name = bytes "." then walk d place rest
      else if name = bytes ".." then walk d place.dropLast rest
      else if name.length > 255 then .error .nameTooLong
      else walk d (place ++ [name]) rest

/-- The place a path names. It need not exist, but the directories on the way to it do. -/
def locate (d : Disk) (path : Bytes) : Except DiskCause (List Bytes) :=
  if path.isEmpty then .error .missing
  else if path.contains 0 then .error .invalid
  else if path.length ≥ 4096 then .error .nameTooLong
  else d.walk (if Path.isAbsolute path then [] else d.cwd) (Path.parts path)

/-- A path with a slash at its end can only name a directory. -/
def wantsDirectory (path : Bytes) : Bool := path.getLast? == some Path.slash

def stat (d : Disk) (path : Bytes) : Except DiskCause (List Bytes × Node) := do
  let place ← d.locate path
  match d.node? place with
  | none => .error .missing
  | some .dir => return (place, .dir)
  | some (.file c) => if wantsDirectory path then .error .notDirectory else return (place, .file c)

/-- Names the operation and the path of an error. -/
def during {α : Type} (action : String) (path : Bytes) (r : Except DiskCause α) : Except DiskError α :=
  r.mapError fun cause => ⟨bytes action, path, cause⟩

/-- The content of a file. A directory can be opened and not read. -/
def read (d : Disk) (path : Bytes) : Except DiskError Bytes :=
  match d.stat path with
  | .error e => .error ⟨bytes "open", path, e⟩
  | .ok (_, .dir) => .error ⟨bytes "read", path, .isDirectory⟩
  | .ok (_, .file c) => .ok c

/-- Makes a file empty, whether it was there or not, and tells its place. -/
def create (d : Disk) (path : Bytes) : Except DiskError (List Bytes × Disk) :=
  during "open" path do
    let place ← d.locate path
    match d.node? place with
    | some .dir => .error .isDirectory
    | some (.file _) =>
      if wantsDirectory path then .error .notDirectory else return (place, d.put place (.file []))
    | none =>
      if wantsDirectory path then .error .isDirectory
      else if place.dropLast.isEmpty || d.node? place.dropLast = some .dir then
        return (place, d.put place (.file []))
      else .error .missing

def write (d : Disk) (path content : Bytes) : Except DiskError Disk := do
  let (place, d) ← d.create path
  return d.put place (.file content)

/-- Writes into an open file from an offset on; a gap before it is filled with zeros. -/
def writeAt (d : Disk) (place : List Bytes) (offset : Nat) (data : Bytes) : Disk :=
  match d.node? place with
  | some (.file c) =>
    let before := c.take offset ++ List.replicate (offset - c.length) 0
    d.put place (.file (before ++ data ++ c.drop (offset + data.length)))
  | _ => d

/-- Makes one directory inside an existing one. -/
def makeDir (d : Disk) (path : Bytes) : Except DiskError Disk :=
  during "mkdir" path do
    let place ← d.locate path
    match d.node? place with
    | some _ => .error .exists_
    | none => if d.node? place.dropLast = some .dir then return d.put place .dir else .error .missing

/-- The path without its last part and the slashes around it. -/
def parentPath (path : Bytes) : Bytes :=
  let body := Bytes.dropEndWhile (· == Path.slash) path
  let upTo := Bytes.dropEndWhile (· != Path.slash) body
  if upTo.length > 1 then upTo.dropLast else []

/-- Makes a directory and those on the way to it, deepest last. The number bounds the depth; the length
of the path suffices. -/
def makeDirsWithin : Nat → Disk → Bytes → Except DiskError Disk
  | 0, d, path => d.makeDir path
  | n + 1, d, path =>
    match d.stat path with
    | .ok (_, .dir) => .ok d
    | .ok (_, .file _) => .error ⟨bytes "mkdir", path, .notDirectory⟩
    | .error _ => do
      let parent := parentPath path
      let d ← if parent.isEmpty then .ok d else makeDirsWithin n d parent
      match d.makeDir path with
      | .ok d => .ok d
      | .error e =>
        match d.stat path with
        | .ok (_, .dir) => .ok d
        | _ => .error e

/-- Makes a directory and those on the way to it. An existing one is fine. -/
def makeDirs (d : Disk) (path : Bytes) : Except DiskError Disk := makeDirsWithin path.length d path

def inside (dir name : Bytes) : Bytes :=
  if wantsDirectory dir then dir ++ name else dir ++ [Path.slash] ++ name

/-- The least number from `n` on for which the file `stem` with that number does not exist in `dir`. At
most `tries` are looked at; one more than there are entries suffice. -/
def freeNumber (d : Disk) (dir stem : Bytes) : Nat → Nat → Nat
  | 0, n => n
  | tries + 1, n =>
    match d.stat (inside dir (stem ++ decimal n)) with
    | .ok _ => freeNumber d dir stem tries (n + 1)
    | .error _ => n

/-- Makes a new file in `dir` whose name starts with `stem` and writes it. -/
def writeTemp (d : Disk) (dir stem content : Bytes) : Except DiskError (Bytes × Disk) := do
  let path := inside dir (stem ++ decimal (d.freeNumber dir stem (d.entries.length + 1) 0))
  let d ← d.write path content
  return (path, d)

/-- Moves a file over another. A directory is never replaced. -/
def rename (d : Disk) (old new : Bytes) : Except DiskError Disk :=
  during "rename" (old ++ bytes " " ++ new) do
    match d.stat new with
    | .ok (_, .dir) => .error .exists_
    | _ =>
      let (source, n) ← d.stat old
      let target ← d.locate new
      if wantsDirectory new then .error .notDirectory
      else if d.node? target.dropLast != some .dir then .error .missing
      else return (d.dropTree source).put target n

def removeFile (d : Disk) (path : Bytes) : Disk :=
  match d.stat path with
  | .ok (place, .file _) => d.dropTree place
  | _ => d

/-- Whether the last part of a path is a dot. Such a path cannot be taken away. -/
def endsWithDot (path : Bytes) : Bool :=
  path == bytes "." || [Path.slash, byte '.'].isSuffixOf path

/-- A path as the directory it is in and its last part. One slash parts them; a second one stays with the
directory. -/
def splitLast (path : Bytes) : Bytes × Bytes :=
  let leading := path.takeWhile (· == Path.slash)
  let path := if leading.length > 1 then path.drop (leading.length - 1) else path
  let body := match Bytes.dropEndWhile (· == Path.slash) path with
    | [] => path.take 1
    | body => body
  let last := (body.reverse.takeWhile (· != Path.slash)).reverse
  let before := body.take (body.length - last.length)
  if before.isEmpty || last.isEmpty then (bytes ".", body)
  else (if before.length = 1 then before else before.dropLast, last)

/-- Takes away all below a place and not the place itself. -/
def empty (d : Disk) (place : List Bytes) : Disk :=
  { d with entries := d.entries.filter fun (p, _) => !(place.isPrefixOf p && p != place) }

/-- Takes away `name` in the directory at `place` and all below it. The directory itself and its parent
can be emptied in this way and not taken away. -/
def removeIn (d : Disk) (place : List Bytes) (name : Bytes) : Option DiskCause × Disk :=
  if name.contains 0 then (some .invalid, d)
  else if d.node? place != some .dir then (some .notDirectory, d)
  else if name.length > 255 then (some .nameTooLong, d)
  else if name = bytes "." then (some .invalid, d.empty place)
  else if name = bytes ".." then (some .notEmpty, d.empty place.dropLast)
  else (none, d.dropTree (place ++ [name]))

/-- Whether taking away the one thing that a path names, a file or an empty directory, settles the
matter: it is gone or was not there. -/
def removeOne? (d : Disk) (path : Bytes) : Option Disk :=
  match d.stat path with
  | .error .missing => some d
  | .error _ => none
  | .ok (place, .file _) => some (d.dropTree place)
  | .ok (place, .dir) =>
    let last := (splitLast path).2
    if d.hasBelow place || last = bytes "." || last = bytes ".." then none else some (d.dropTree place)

/-- Takes away whatever a path names and all below it. Nothing there is fine. What cannot be taken away
at once is looked up in its directory, and errors name that directory or what was looked up there. -/
def removeAll (d : Disk) (path : Bytes) : Option DiskError × Disk :=
  if path.isEmpty then (none, d)
  else if endsWithDot path then (some ⟨bytes "RemoveAll", path, .invalid⟩, d)
  else match d.removeOne? path with
    | some d => (none, d)
    | none =>
      let (dir, name) := splitLast path
      match d.stat dir with
      | .error .missing => (none, d)
      | .error e => (some ⟨bytes "open", dir, e⟩, d)
      | .ok (place, _) =>
        let (cause, d) := d.removeIn place name
        (cause.map fun c => ⟨bytes "unlinkat", dir ++ [Path.slash] ++ name, c⟩, d)

/-- The places of the files below a place, relative to it, sorted name by name. -/
def filesBelow (d : Disk) (place : List Bytes) : List (List Bytes) :=
  let found := d.entries.filterMap fun (p, n) =>
    match n with
    | .file _ => if place.isPrefixOf p then some (p.drop place.length) else none
    | .dir => none
  found.mergeSort leNames
where
  /-- Name by name order of places. -/
  leNames : List Bytes → List Bytes → Bool
    | [], _ => true
    | _ :: _, [] => false
    | a :: as, b :: bs => if a = b then leNames as bs else Bytes.le a b

/-- The paths of the files below the directory that a path names. A file has itself below it, and a
path that names nothing has none. -/
def files (d : Disk) (path : Bytes) : List Bytes :=
  match d.stat path with
  | .ok (place, .dir) => (d.filesBelow place).map fun names => Path.join (path :: names)
  | .ok (_, .file _) => [path]
  | .error _ => []

def cwdPath (d : Disk) : Bytes := Path.slash :: Bytes.join [Path.slash] d.cwd

end Disk

end FlowBlocks
