import FlowBlocks.BlockFlow.Traced
import FlowBlocks.Proofs.Trace
/-!
Construction and its log. A construction that is recorded as it goes comes to the same as one that is not,
with a log recorded beside it; neither the result nor the log depends on the recorder.
-/
namespace FlowBlocks

open Trace

namespace Trace

/-- A computation that records logs under a parent and comes to a result. -/
def Log.beside {α : Type} (logs : List Log) (parent : Nat) (result : α) : Recorded α := do
  Log.recordAll parent logs
  return result

section Beside

variable {α β : Type} {logs logs' : List Log} {parent : Nat} {a : α} {b : β}

theorem Log.recordAll_append (parent : Nat) (logs logs' : List Log) :
    Log.recordAll parent (logs ++ logs') = Log.recordAll parent logs >>= fun _ => Log.recordAll parent logs' := by
  induction logs with
  | nil => simp only [List.nil_append, Log.recordAll, pure_bind]
  | cons log rest ih => simp only [List.cons_append, Log.recordAll, ih, bind_assoc]

/-- Logs beside a result, and the logs of what is done with it. -/
theorem Log.beside_bind {f : α → Recorded β} (h : f a = Log.beside logs' parent b) :
    Log.beside logs parent a >>= f = Log.beside (logs ++ logs') parent b := by
  unfold Log.beside at h ⊢
  rw [bind_assoc]
  simp only [pure_bind, h]
  rw [Log.recordAll_append, bind_assoc]

theorem Recorder.notes_begin (scope : Scope) (name : Bytes) (parent : Nat) (r : Recorder) :
    (Recorder.begin_ scope name parent r).1.notes = none := by
  rw [Recorder.begin_apply]
  split <;> rfl

/-- A computation inside a span of its own that comes to a result. -/
theorem Log.beside_span {scope : Scope} {name detail : Bytes} {notes : Notes} {x : Span → Recorded α}
    (h : ∀ s, s.notes = none → x s = do
      Log.recordAll s.id logs
      Recorder.end_ { s with notes := if notes.isEmpty then none else some notes } detail
      return a) :
    (Recorder.begin_ scope name parent >>= x) = Log.beside [.span scope name logs detail notes] parent a := by
  funext r
  rw [Recorded.bind_apply, h _ (Recorder.notes_begin scope name parent r)]
  simp only [Log.beside, Log.recordAll, Log.record]
  rfl

end Beside

end Trace

variable {U : Type}

/-- A stage that came to an end with a count, or failed. -/
def stageLog (name : String) (inner : List Log) (count : Option (String × Nat)) : Log :=
  match count with
  | some (key, n) => .span .stage (bytes name) inner [] [(bytes key, decimal n)]
  | none => .span .stage (bytes name) inner (bytes "failed") []

/-- The remark on a block that has no predecessors and is no entry. -/
def orphanLog (unitName : U → Bytes) (b : Block U) : Log :=
  .point .block (bytes "orphan") (bytes "block has no predecessors and is not a head")
    [(bytes "block", blockName b.index), (bytes "head", unitName b.head)]

/-- The log of the three stages, as far as they were reached. -/
def stageLogs (unitName : U → Bytes) (leaders : List U)
    (cut : Except (BuildError U) (List (Block U))) (flow : Except (BuildError U) (BlockFlow U)) :
    List Log :=
  stageLog "leaders" [] (some ("leaders", leaders.length)) ::
    match cut with
    | .error _ => [stageLog "partition" [] none]
    | .ok blocks =>
      stageLog "partition" [] (some ("blocks", blocks.length)) ::
        match flow with
        | .error _ => [stageLog "wire" [] none]
        | .ok f =>
          [stageLog "wire"
            ((f.blocks.filter fun b => f.orphans.contains b.index).map (orphanLog unitName))
            (some ("orphans", f.orphans.length))]

/-- The log of a construction: the stages, and a failure behind them where there is one. -/
def buildLog [DecidableEq U] (unitName : U → Bytes) (name : Bytes) (rule : LeaderRule U) (g : FlowGraph U)
    (handlers : List U) : Log :=
  let leaders := rule g handlers
  let stages := stageLogs unitName leaders (partition leaders g.units) (build rule g handlers)
  let title := constructionName name
  match build rule g handlers with
  | .error e =>
    .span .body title (stages ++ [.failure .body title (e.report unitName).message]) (bytes "failed") []
  | .ok f =>
    .span .body title stages []
      [(bytes "blocks", decimal f.size), (bytes "heads", decimal f.heads.length),
        (bytes "tails", decimal f.tails.length)]

section Stages

variable {α : Type} {name key : String} {count : α → Nat} {parent : Nat}
  {stage : Nat → Recorded (Except (BuildError U) α)} {inner : List Log}

/-- A stage with logs of its own stands inside its span, whatever it comes to. -/
theorem runStage_eq {result : Except (BuildError U) α} (h : ∀ s, stage s = Log.beside inner s result) :
    runStage name key count parent stage =
      Log.beside [stageLog name inner (result.toOption.map fun a => (key, count a))] parent result := by
  cases result with
  | error e =>
      refine Log.beside_span fun s hs => ?_
      rw [h, Log.beside, bind_assoc]
      -- Nothing was remarked on the span since it began, so it ends as it is.
      simp only [pure_bind, ← hs]
      rfl
  | ok a =>
      refine Log.beside_span fun s hs => ?_
      rw [h, Log.beside, bind_assoc]
      simp only [pure_bind, Span.noting, hs]
      rfl

theorem runStage_pure (result : Except (BuildError U) α) :
    runStage name key count parent (fun _ => pure result) =
      Log.beside [stageLog name [] (result.toOption.map fun a => (key, count a))] parent result :=
  runStage_eq fun _ => rfl

theorem remarkOrphan_forM (unitName : U → Bytes) (parent : Nat) (blocks : List (Block U)) :
    blocks.forM (remarkOrphan unitName parent) = Log.recordAll parent (blocks.map (orphanLog unitName)) := by
  induction blocks with
  | nil => rfl
  | cons b rest ih =>
      rw [List.forM_eq_forM, List.forM_cons, ← List.forM_eq_forM, ih]
      simp only [List.map_cons, Log.recordAll, orphanLog, Log.record, remarkOrphan]

variable [DecidableEq U]

theorem runStages_eq (unitName : U → Bytes) (rule : LeaderRule U) (g : FlowGraph U) (handlers : List U)
    (parent : Nat) :
    runStages unitName rule g handlers parent =
      Log.beside (stageLogs unitName (rule g handlers) (partition (rule g handlers) g.units)
        (build rule g handlers)) parent (build rule g handlers) := by
  unfold runStages build
  rw [runStage_pure]
  refine Log.beside_bind ?_
  dsimp only
  rw [runStage_pure]
  cases partition (rule g handlers) g.units with
  | error e => exact Log.beside_bind rfl
  | ok blocks =>
      have hwire : (Except.ok blocks >>= wire g) = wire g blocks := rfl
      rw [hwire]
      refine Log.beside_bind ?_
      cases hflow : wire g blocks with
      | error e =>
          have hstage : ∀ s, wireTraced unitName g blocks s = Log.beside [] s (.error e) := by
            intro s
            simp only [wireTraced, hflow]
            rfl
          exact runStage_eq hstage
      | ok f =>
          have hstage : ∀ s, wireTraced unitName g blocks s =
              Log.beside ((f.blocks.filter fun b => f.orphans.contains b.index).map (orphanLog unitName)) s
                (.ok f) := by
            intro s
            simp only [wireTraced, hflow, remarkOrphan_forM]
            rfl
          exact runStage_eq hstage

/-- A construction comes to what is built without a recorder, with its log beside it. -/
theorem buildTraced_eq (unitName : U → Bytes) (name : Bytes) (rule : LeaderRule U) (g : FlowGraph U)
    (handlers : List U) (parent : Nat) :
    buildTraced unitName name rule g handlers parent =
      Log.beside [buildLog unitName name rule g handlers] parent (build rule g handlers) := by
  unfold buildTraced buildLog
  cases hflow : build rule g handlers with
  | error e =>
      refine Log.beside_span fun s hs => ?_
      rw [runStages_eq, hflow, Log.beside, bind_assoc, Log.recordAll_append]
      simp only [pure_bind, bind_assoc, Log.recordAll, Log.record, bind_pure_unit, ← hs]
      rfl
  | ok f =>
      refine Log.beside_span fun s hs => ?_
      rw [runStages_eq, hflow, Log.beside, bind_assoc]
      simp only [pure_bind, Span.noting, hs]
      rfl

/-- The recorder takes no part in the result of a construction. -/
theorem buildTraced_fst (unitName : U → Bytes) (name : Bytes) (rule : LeaderRule U) (g : FlowGraph U)
    (handlers : List U) (parent : Nat) (r : Recorder) :
    (buildTraced unitName name rule g handlers parent r).1 = build rule g handlers := by
  rw [buildTraced_eq]
  rfl

theorem onlyTraces_buildTraced (unitName : U → Bytes) (name : Bytes) (rule : LeaderRule U) (g : FlowGraph U)
    (handlers : List U) (parent : Nat) :
    Recorder.OnlyTraces (buildTraced unitName name rule g handlers parent) := by
  rw [buildTraced_eq]
  exact (Log.onlyTraces_recordAll parent _).bind fun _ => Recorder.onlyTraces_pure _

end Stages

end FlowBlocks
