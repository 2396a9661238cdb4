import FlowBlocks.Cli.Run
import Std.Time.DateTime.Timestamp
/-!
The program. A run works on a picture of the disk; the picture is taken of every path that the arguments or
the settings name, and afterwards the files that the run made or changed are written. A run never takes
away a file that it found.
-/
namespace FlowBlocks.Program

open Cli

/-- The paths that arguments may name: each of them, and what stands behind an equals sign or a letter. -/
def argumentPaths (args : List Bytes) : List Bytes :=
  args.flatMap fun a => [a, a.drop 2] ++ ((Bytes.cut? (byte '=') a).map Prod.snd).toList

/-- The settings files that may hold in the working directory. -/
def settingsPaths (cwd : Bytes) : List Bytes :=
  (Settings.ancestors cwd).map fun dir => Path.join [dir, Settings.fileName]

/-- The paths that the settings of a run name: the output of the trace, and the store. -/
def settledPaths (env : Environment) (d : Disk) (args : List Bytes) : List Bytes × List Bytes :=
  match request true args with
  | .ok (.run _ o _) =>
    let found := if o.config.isEmpty then Settings.discover d (bytes ".") else Settings.load d o.config
    match found with
    | .ok s =>
      let dir := if s.cacheDir.isEmpty then (Store.standardDir env (bytes "bbg")).toOption
        else some s.cacheDir
      ([s.output], (dir.map fun dir => Store.recordDir ⟨dir⟩).toList)
    | .error _ => ([], [])
  | _ => ([], [])

/-- The entries that one disk has and another has not. -/
def changes (before after : Disk) : List (List Bytes × Node) :=
  after.entries.filter fun (place, n) => before.node? place != some n

def string (s : Bytes) : String := (String.fromUTF8? ⟨s.toArray⟩).getD ""

def pathOf (place : List Bytes) : String := string (Path.slash :: Bytes.join [Path.slash] place)

def nodeAt (place : List Bytes) : IO (Option Node) := do
  let p := (← IO.currentDir) / pathOf place
  if ← p.isDir then return some .dir
  else if ← p.pathExists then
    try return some (.file (← IO.FS.readBinFile p).toList)
    catch _ => return none
  else return none

/-- Adds a path and the directories on the way to it to the picture. -/
def look (d : Disk) (path : Bytes) : IO Disk := do
  let place := Path.parts (Path.absolute d.cwdPath path)
  (List.range place.length).foldlM (fun d n => do
    let part := place.take (n + 1)
    if (d.node? part).isSome then return d
    else match ← nodeAt part with
      | some node => return d.put part node
      | none => return d) d

/-- Adds a directory and the files in it to the picture. -/
def lookInside (d : Disk) (path : Bytes) : IO Disk := do
  let d ← look d path
  match d.stat path with
  | .ok (place, .dir) =>
    let dir := (← IO.currentDir) / pathOf place
    (← dir.readDir).toList.foldlM (fun d e => look d (Path.join [path, bytes e.fileName])) d
  | _ => return d

def carryOut (entry : List Bytes × Node) : IO Unit :=
  match entry with
  | (place, .dir) => IO.FS.createDirAll (pathOf place)
  | (place, .file content) => IO.FS.writeBinFile (pathOf place) ⟨content.toArray⟩

def environment : IO Environment := do
  let get := fun (name : String) => do return (bytes name, bytes ((← IO.getEnv name).getD ""))
  return [← get "HOME", ← get "XDG_CACHE_HOME"]

def clock : IO Trace.Stamp := do
  let nanos := (← Std.Time.Timestamp.now).toNanosecondsSinceUnixEpoch.val
  return { sec := nanos / 1000000000, nsec := nanos % 1000000000 }

end FlowBlocks.Program

open FlowBlocks FlowBlocks.Program in
/-- Runs the program; the exit code is 1 after an error. -/
def main (args : List String) : IO UInt32 := do
  let args := args.map bytes
  let env ← environment
  let cwd := Path.parts (bytes (toString (← IO.currentDir)))
  let d ← look { cwd } (bytes ".")
  let d ← (argumentPaths args ++ settingsPaths d.cwdPath).foldlM look d
  let (files, stores) := settledPaths env d args
  let d ← files.foldlM look d
  let d ← stores.foldlM lookInside d
  let r := Cli.run {} env args { disk := d, now := ← clock }
  (changes d r.host.disk).forM carryOut
  (← IO.getStdout).write ⟨r.out.toArray⟩
  (← IO.getStderr).write ⟨(r.host.stderr ++ r.err).toArray⟩
  return if r.error.isSome then 1 else 0
