import FlowBlocks.Batch
import FlowBlocks.Cli.Arguments
import FlowBlocks.Settings
import FlowBlocks.Stopwatch
/-!
A session: what a command that builds graphs works with. Opening it resolves the settings, opens the store,
the trace and the profiles, in this order; closing it ends them in reverse and prints what they have to say.
-/
namespace FlowBlocks.Cli

open Trace

inductive CommandError
  | usage (cause : UsageError)
  | settings (cause : SettingsError)
  | choices (complaints : List Bytes)
  | store (why : Bytes)
  | traceNames (why : Bytes)
  | trace (why : Bytes)
  | profile (what why : Bytes)
  | cancelled (why : Bytes)
  | listing (cause : FileFailure)
  | temporary (cause : DiskError)
  | output (cause : DiskError)
  | format (given : Bytes)
  | failures (failed total : Nat)
deriving DecidableEq, Repr

def CommandError.message : CommandError → Bytes
  | .usage e => e.message
  | .settings e => e.message
  | .choices complaints => Bytes.join [10] complaints
  | .store why => bytes "failed to open cache: " ++ why
  | .traceNames why => why
  | .trace why => bytes "failed to create tracer: " ++ why
  | .profile what why => bytes "failed to start " ++ what ++ bytes ": " ++ why
  | .cancelled why => why
  | .listing e => e.message
  | .temporary e => bytes "failed to create output: " ++ e.message
  | .output e => e.message
  | .format given =>
    bytes "unsupported format " ++ quoted given ++ bytes " (must be pretty or json)"
  | .failures failed total =>
    decimal failed ++ bytes " of " ++ decimal total ++ bytes " bodies failed"

/-- What a command writes to and changes: its output, its messages, the trace, and the stopwatch if times
are asked for. -/
structure Console where
  out : Bytes := []
  err : Bytes := []
  recorder : Recorder := {}
  watch : Option Stopwatch := none

/-- A command may fail at any point; what it wrote and changed until then stays. -/
abbrev Act := ExceptT CommandError (StateM Console)

namespace Act

def print (s : Bytes) : Act Unit := modify fun c => { c with out := c.out ++ s }

def complain (s : Bytes) : Act Unit := modify fun c => { c with err := c.err ++ s }

def disk : Act Disk := do return (← get).recorder.host.disk

def setDisk (d : Disk) : Act Unit := modify fun c => { c with recorder.host.disk := d }

/-- Goes on with a result, or fails with its error put as `wrap` says. -/
def ofExcept {ε α : Type} (wrap : ε → CommandError) (r : Except ε α) : Act α :=
  match r with
  | .ok a => pure a
  | .error e => throw (wrap e)

/-- Notes that a phase was gone through. The clock stands still while a command runs, so no time is spent in
it. -/
def phase (name : Bytes) : Act Unit := modify fun c => { c with watch := c.watch.map (·.add name 0) }

end Act

structure Session where
  settings : Settings
  options : BatchOptions
  color : Bool
  quiet : Bool
  memProfile : Bytes := []

namespace Session

/-- The settings with the options of the command line put over them. -/
def overridden (o : Options) (s : Settings) : Settings :=
  { s with
    kind := o.graph.getD s.kind, policy := o.leaders.getD s.policy, jobs := o.jobs.getD s.jobs
    caching := o.cache.getD s.caching, color := o.color.getD s.color }

/-- Whether output is coloured. Only a terminal would be by default, and the output is taken for none. -/
def colored (mode : Bytes) : Bool := isNamed "on" mode

/-- The choices for the trace. Naming an output and no level asks for the phases. -/
def traceSetup (o : Options) (s : Settings) : Except Bytes Setup := do
  let names : Names :=
    { level := o.traceLevel.getD s.level, mode := o.traceMode.getD s.mode, format := o.traceFormat
      output := o.trace.getD s.output, capacity := o.ringSize.getD s.ringSize }
  let setup ← names.resolve
  return if setup.level = .off && o.trace.isSome && o.traceLevel.isNone then
      { setup with level := .phase }
    else setup

def openTrace (o : Options) (s : Settings) : Act Unit := do
  let setup ← Act.ofExcept .traceNames (traceSetup o s)
  let (sink, host) ← Act.ofExcept .trace (setup.open_ none (← get).recorder.host)
  modify fun c => { c with recorder := { sink, host } }

/-- Ends the trace. After a failure the events of a ring are printed first. -/
def closeTrace (failed : Bool) : Act Unit := do
  let sink := (← get).recorder.sink
  if failed then Act.complain ((sink.ring?.map Ring.failureLines).getD []).flatten
  let (flushError, sink) := sink.flush
  let (closeError, sink) := sink.close
  let report := fun (what : String) (e : Option Bytes) =>
    match e with
    | some e => bytes "trace: " ++ bytes what ++ bytes " error: " ++ e ++ [10]
    | none => []
  Act.complain (report "flush" flushError ++ report "close" closeError)
  modify fun c => { c with recorder.sink := sink }

/-- Starts a profile by making its file, unless none is asked for. -/
def startProfile (what : String) (path : Bytes) : Act Unit := do
  if !path.isEmpty then
    let (_, d) ← Act.ofExcept (fun e => .profile (bytes what) (DiskError.message e))
      ((← Act.disk).create path)
    Act.setDisk d

/-- Opens a session. A trace that was opened is closed again where a profile cannot be started. -/
def open_ (env : Environment) (o : Options) : Act Session := do
  let d ← Act.disk
  let found ← Act.ofExcept .settings
    (if o.config.isEmpty then Settings.discover d (bytes ".") else Settings.load d o.config)
  let s := overridden o found
  if !s.complaints.isEmpty then throw (.choices s.complaints)
  if o.timings then modify fun c => { c with watch := some [] }
  let store ←
    if s.caching then do
      let (store, d) ← Act.ofExcept .store (Store.open_ env s.cacheDir (bytes "bbg") d)
      Act.setDisk d
      pure (some store)
    else pure none
  openTrace o s
  let profiles : Act Unit := do
    startProfile "cpu profile" o.cpuProfile
    startProfile "runtime trace" o.runtimeTrace
  tryCatch profiles fun e => do
    closeTrace true
    throw e
  return {
    settings := s, color := colored s.color, quiet := o.quiet, memProfile := o.memProfile
    options := { graph := (GraphKind.parse s.kind).toOption.getD .brief
                 policy := (Policy.parse s.policy).toOption.getD .bigBlock
                 jobs := s.jobs, store } }

/-- Writes the memory profile, if one is asked for. -/
def stopProfiles (s : Session) : Act Unit := do
  if !s.memProfile.isEmpty then
    match (← Act.disk).create s.memProfile with
    | .ok (_, d) => Act.setDisk d
    | .error e =>
      Act.complain (bytes "profile: failed to write heap profile: " ++ e.message ++ [10])

/-- Closes a session after a command that failed or not. -/
def close (s : Session) (failed : Bool) : Act Unit := do
  s.stopProfiles
  closeTrace failed
  Act.complain (((← get).watch.map Stopwatch.summary).getD [])

/-- Runs a command inside a session, which is closed whatever comes of it. -/
def within (env : Environment) (o : Options) (command : Session → Act Unit) : Act Unit := do
  let s ← open_ env o
  tryCatch (command s) fun e => do
    s.close true
    throw e
  s.close false

def build (s : Session) (verify : Bool) (files : List Bytes) : Act (List FileResult) := do
  let (outcome, recorder) := Batch.run { s.options with verify } false 0 files (← get).recorder
  modify fun c => { c with recorder }
  outcome.phases.forM fun p => Act.phase p.name
  match outcome.error with
  | some e => throw (.cancelled e)
  | none => return outcome.results

end Session

end FlowBlocks.Cli
