import FlowBlocks.BlockFlow.Traced
import FlowBlocks.BlockFlow.Verify
import FlowBlocks.Listing.Parse
import FlowBlocks.Store
/-!
Batches: every body of a list of files is built, and its outline kept in a store if there is one. A file
that was built before with the same choices is served from the store. Failures are part of the results;
one file never stops another.
-/
namespace FlowBlocks

open Trace

/-- How a batch is built. Verification rebuilds everything and does not read the store. A number of jobs
that is not positive means one. -/
structure BatchOptions where
  graph : GraphKind := .brief
  policy : Policy := .bigBlock
  jobs : Int := 0
  store : Option Store := none
  verify : Bool := false

inductive BodyFailure
  | fault (report : FaultReport)
  | outline (cause : OutlineError)
  | recorded (text : Bytes)
deriving DecidableEq, Repr

def BodyFailure.message : BodyFailure → Bytes
  | .fault r => r.message
  | .outline e => bytes "snapshot: " ++ e.message
  | .recorded text => text

inductive FileFailure
  | unreadable (cause : DiskError)
  | malformed (file : Bytes) (cause : ListingError)
deriving DecidableEq, Repr

def FileFailure.message : FileFailure → Bytes
  | .unreadable e => bytes "failed to read listing: " ++ e.message
  | .malformed file e => e.message file

/-- What came of one body. Served from a store it has neither its instructions nor its flow. -/
structure BodyResult where
  name : Bytes
  body : Option Body := none
  flow : Option (BlockFlow Nat) := none
  outline : Option Outline := none
  failure : Option BodyFailure := none
  violations : Option Bytes := none
deriving DecidableEq, Repr

def BodyResult.failed (r : BodyResult) : Bool := r.failure.isSome || r.violations.isSome

structure FileResult where
  path : Bytes := []
  bodies : List BodyResult := []
  failure : Option FileFailure := none
  cached : Bool := false
deriving DecidableEq, Repr

def FileResult.failed (r : FileResult) : Bool := r.failure.isSome || r.bodies.any BodyResult.failed

/-- A finished phase of a batch: its name, the file, and the body if it concerns one. -/
structure Phase where
  name : Bytes
  path : Bytes
  body : Bytes := []
deriving DecidableEq, Repr

namespace Batch

def key (o : BatchOptions) (src : Bytes) : Bytes := Store.key src o.graph.name o.policy.name

def bodyRecord (r : BodyResult) : BodyRecord :=
  ⟨r.name, r.outline, (r.failure.map BodyFailure.message).getD []⟩

/-- What is kept of a file, before it is stamped. -/
def record (o : BatchOptions) (r : FileResult) : Record :=
  { file := r.path, graph := o.graph.name, policy := o.policy.name
    bodies := some (r.bodies.map bodyRecord) }

def ofBodyRecord (b : BodyRecord) : BodyResult :=
  { name := b.name, outline := b.outline
    failure := if b.error.isEmpty then none else some (.recorded b.error) }

/-- The instruction at a position as it is shown in an outline. -/
def renderAt (b : Body) (i : Nat) : Bytes := ((b.instrs[i]?).map Instr.render).getD []

/-- What a finished flow, or the lack of one, means for a body. -/
def bodyResult (o : BatchOptions) (b : Body) (flow : Except (BuildError Nat) (BlockFlow Nat)) :
    BodyResult :=
  let base : BodyResult := { name := b.name, body := some b }
  match flow with
  | .error e => { base with failure := some (.fault (e.report position)) }
  | .ok f =>
    match Outline.ofFlow (renderAt b) b.name f with
    | .error e => { base with flow := some f, failure := some (.outline e) }
    | .ok outline =>
      { base with
        flow := some f, outline := some outline
        violations := if o.verify then
            BlockFlow.verdict position (some f) o.policy.rule (some (b.flowGraph o.graph)) b.handlers
          else none }

def runBody (o : BatchOptions) (parent : Nat) (path : Bytes) (b : Body) :
    Recorded (BodyResult × List Phase) := do
  let flow ← buildTraced position b.name o.policy.rule (b.flowGraph o.graph) b.handlers parent
  let r := bodyResult o b flow
  let phase := fun (name : String) => (⟨bytes name, path, b.name⟩ : Phase)
  return (r, phase "construct" :: if o.verify && r.outline.isSome then [phase "verify"] else [])

def runBodies (o : BatchOptions) (parent : Nat) (path : Bytes) :
    List Body → Recorded (List BodyResult × List Phase)
  | [] => return ([], [])
  | b :: rest => do
    let (r, phases) ← runBody o parent path b
    let (rs, later) ← runBodies o parent path rest
    return (r :: rs, phases ++ later)

/-- Looks a listing up in the store, unless the batch verifies. A store that cannot be read is noted in
the trace and otherwise counts as a miss. -/
def lookUp (o : BatchOptions) (span : Span) (src : Bytes) : Recorded (Option Record) := do
  match o.store with
  | none => return none
  | some store =>
    if o.verify then return none
    else
      match store.get (key o src) (← get).host.disk with
      | .ok found => return found
      | .error e =>
        Recorder.failure .driver (bytes "cache") e span.id
        return none

/-- Files what came of a listing. A failure to do so is noted in the trace only. -/
def keep (o : BatchOptions) (span : Span) (src : Bytes) (r : FileResult) : Recorded Unit := do
  match o.store with
  | none => return ()
  | some store =>
    let host := (← get).host
    let filed := store.put (Int64.ofInt host.now.sec) (key o src) (record o r) host.disk
    modify fun s => { s with host.disk := filed.disk }
    match filed.error with
    | none => return ()
    | some e => Recorder.failure .driver (bytes "cache") e span.id

/-- A file that could not be read or parsed. -/
def refuse (span : Span) (path : Bytes) (failure : FileFailure) : Recorded FileResult := do
  Recorder.failure .driver (bytes "file:" ++ path) failure.message span.id
  Recorder.end_ span (bytes "failed")
  return { path, failure := some failure }

/-- Builds a file that was read and not found in the store. -/
def buildFile (o : BatchOptions) (parent : Nat) (span : Span) (path src : Bytes) :
    Recorded (FileResult × List Phase) := do
  let parse : Phase := ⟨bytes "parse", path, []⟩
  match Listing.parse path src with
  | .error e => return (← refuse span path (.malformed path e), [parse])
  | .ok bodies =>
    let (rs, phases) ← runBodies o (span.under parent) path bodies
    let result : FileResult := { path, bodies := rs }
    keep o span src result
    Recorder.end_ (span.noting (bytes "bodies") (decimal bodies.length)) []
    return (result, parse :: phases ++ if o.store.isSome then [⟨bytes "cache", path, []⟩] else [])

/-- Builds one file, or serves it from the store. -/
def runFile (o : BatchOptions) (parent : Nat) (path : Bytes) : Recorded (FileResult × List Phase) := do
  let span ← Recorder.begin_ .driver (bytes "file:" ++ path) parent
  let read : Phase := ⟨bytes "read", path, []⟩
  match (← get).host.disk.read path with
  | .error e => return (← refuse span path (.unreadable e), [read])
  | .ok src =>
    let asked : List Phase :=
      if o.store.isSome && !o.verify then [⟨bytes "cache", path, []⟩] else []
    match ← lookUp o span src with
    | some found =>
      Recorder.end_ span (bytes "cached")
      return ({ path, bodies := (found.bodies.getD []).map ofBodyRecord, cached := true },
        read :: asked)
    | none =>
      let (r, phases) ← buildFile o parent span path src
      return (r, read :: asked ++ phases)

def runFiles (o : BatchOptions) (parent : Nat) : List Bytes → Recorded (List FileResult × List Phase)
  | [] => return ([], [])
  | path :: rest => do
    let (r, phases) ← runFile o parent path
    let (rs, later) ← runFiles o parent rest
    return (r :: rs, phases ++ later)

/-- How many files a batch of `n` files puts off. The jobs are handed out until none is left, the one
handed out last is done first, and each job that ends takes the next file; so all but the last of the
first files wait until every other file is done. -/
def deferred (jobs : Int) (n : Nat) : Nat := min jobs.toNat n - 1

/-- What came of a batch: a result per file in order, the phases as they finished, and the error of a
batch that was cancelled. -/
structure Outcome where
  results : List FileResult := []
  phases : List Phase := []
  error : Option Bytes := none

/-- Runs a batch under a parent span; 0 is none. A batch cancelled beforehand builds nothing. -/
def run (o : BatchOptions) (cancelled : Bool) (parent : Nat) (files : List Bytes) :
    Recorded Outcome := do
  if files.isEmpty then return {}
  else
    let span ← Recorder.begin_ .driver (bytes "batch") parent
    let outcome ←
      if cancelled then
        pure { results := files.map fun _ => {}, error := some (bytes "context canceled") }
      else do
        let wait := deferred o.jobs files.length
        let (results, phases) ← runFiles o (span.under parent) (files.rotateLeft wait)
        pure { results := results.rotateRight wait, phases }
    Recorder.end_ (span.noting (bytes "files") (decimal files.length)) []
    return outcome

end Batch

end FlowBlocks
