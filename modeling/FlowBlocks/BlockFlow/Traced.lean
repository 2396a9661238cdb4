import FlowBlocks.BlockFlow.Build
import FlowBlocks.Trace.Span
/-!
Construction as it is recorded. Every stage runs inside a span of its own, and all of them inside the span of
the construction.
-/
namespace FlowBlocks

open Trace

variable {U : Type} [DecidableEq U]

/-- Runs a stage inside a span, whose number the stage is given as its parent. The span ends with a count of
what the stage came to, or as failed. -/
def runStage {α : Type} (name key : String) (count : α → Nat) (parent : Nat)
    (stage : Nat → Recorded (Except (BuildError U) α)) : Recorded (Except (BuildError U) α) := do
  let s ← Recorder.begin_ .stage (bytes name) parent
  match ← stage s.id with
  | .error e =>
    Recorder.end_ s (bytes "failed")
    return .error e
  | .ok a =>
    Recorder.end_ (s.noting (bytes key) (decimal (count a))) []
    return .ok a

/-- Remarks on a block that has no predecessors and is no entry. -/
def remarkOrphan (unitName : U → Bytes) (parent : Nat) (b : Block U) : Recorded Unit :=
  Recorder.point .block (bytes "orphan") (bytes "block has no predecessors and is not a head") parent
    [(bytes "block", blockName b.index), (bytes "head", unitName b.head)]

def wireTraced (unitName : U → Bytes) (g : FlowGraph U) (blocks : List (Block U)) (parent : Nat) :
    Recorded (Except (BuildError U) (BlockFlow U)) := do
  match wire g blocks with
  | .error e => return .error e
  | .ok f =>
    (f.blocks.filter fun b => f.orphans.contains b.index).forM (remarkOrphan unitName parent)
    return .ok f

/-- The three stages, as far as none fails. -/
def runStages (unitName : U → Bytes) (rule : LeaderRule U) (g : FlowGraph U) (handlers : List U)
    (parent : Nat) : Recorded (Except (BuildError U) (BlockFlow U)) := do
  match ← runStage "leaders" "leaders" List.length parent fun _ => return .ok (rule g handlers) with
  | .error e => return .error e
  | .ok leaders =>
    match ← runStage "partition" "blocks" List.length parent fun _ => return partition leaders g.units with
    | .error e => return .error e
    | .ok blocks =>
      runStage "wire" "orphans" (fun f => f.orphans.length) parent (wireTraced unitName g blocks)

/-- The span of a construction; `name` labels it. -/
def constructionName (name : Bytes) : Bytes :=
  if name.isEmpty then bytes "construct" else bytes "construct:" ++ name

/-- Builds the block flow, and records how it went under a parent. -/
def buildTraced (unitName : U → Bytes) (name : Bytes) (rule : LeaderRule U) (g : FlowGraph U)
    (handlers : List U) (parent : Nat) : Recorded (Except (BuildError U) (BlockFlow U)) := do
  let title := constructionName name
  let s ← Recorder.begin_ .body title parent
  match ← runStages unitName rule g handlers s.id with
  | .error e =>
    Recorder.failure .body title (e.report unitName).message s.id
    Recorder.end_ s (bytes "failed")
    return .error e
  | .ok f =>
    let s := s.noting (bytes "blocks") (decimal f.size)
    let s := s.noting (bytes "heads") (decimal f.heads.length)
    let s := s.noting (bytes "tails") (decimal f.tails.length)
    Recorder.end_ s []
    return .ok f

end FlowBlocks
