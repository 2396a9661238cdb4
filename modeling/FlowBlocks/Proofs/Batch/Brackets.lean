import FlowBlocks.Batch
import FlowBlocks.Proofs.BlockFlow.Traced
import FlowBlocks.Proofs.Trace.Brackets
/-!
Batches narrate. Constructions, files and batches each open and close their own spans on every path, and
nothing they record stands outside the innermost span, whatever the level hides.
-/
namespace FlowBlocks

open Trace

section Construction

variable {M : Disk → Disk → Prop} {U : Type} {l : Level} {bs : List Bracket}

/-- Only remarks on blocks stand inside a stage, and a level that hides stages hides those. -/
theorem restores_stage {name : String} {inner : List Log} {count : Option (String × Nat)}
    (h : ∀ log ∈ inner, ∃ name detail notes, log = .point .block name detail notes) :
    Restores M l bs ((stageLog name inner count).record (innermost bs)) := by
  have hinner : ∀ s bs', Inside l .stage bs s bs' → Restores M l bs' (Log.recordAll s.id inner) := by
    intro s bs' hs
    refine Log.restores_recordAll fun log hlog => ?_
    obtain ⟨name, detail, notes, rfl⟩ := h log hlog
    unfold Log.record
    refine restores_point .block name detail notes fun hblock => ?_
    exact hs.id_eq (Or.inl (shows_mono (by decide) hblock))
  cases count with
  | none => exact Log.restores_span _ _ hinner
  | some count => exact Log.restores_span _ _ hinner

theorem restores_stages (unitName : U → Bytes) (leaders : List U)
    (cut : Except (BuildError U) (List (Block U))) (flow : Except (BuildError U) (BlockFlow U)) :
    ∀ log ∈ stageLogs unitName leaders cut flow, Restores M l bs (log.record (innermost bs)) := by
  intro log hlog
  have hplain : ∀ name count, Restores M l bs ((stageLog name [] count).record (innermost bs)) :=
    fun name count => restores_stage nofun
  rcases List.mem_cons.mp hlog with rfl | hlog
  · exact hplain _ _
  cases cut with
  | error e =>
      rw [List.mem_singleton.mp hlog]
      exact hplain _ _
  | ok blocks =>
      rcases List.mem_cons.mp hlog with rfl | hlog
      · exact hplain _ _
      cases flow with
      | error e =>
          rw [List.mem_singleton.mp hlog]
          exact hplain _ _
      | ok f =>
          rw [List.mem_singleton.mp hlog]
          refine restores_stage fun log hlog => ?_
          obtain ⟨b, -, rfl⟩ := List.mem_map.mp hlog
          exact ⟨_, _, _, rfl⟩

/-- A construction opens and closes its spans, also where it fails. -/
theorem restores_buildTraced [DecidableEq U] (unitName : U → Bytes) (name : Bytes) (rule : LeaderRule U)
    (g : FlowGraph U) (handlers : List U) (hbs : l.shows .body = true ∨ innermost bs = 0) :
    Restores M l bs (buildTraced unitName name rule g handlers (innermost bs)) := by
  have hstages : ∀ {bs' : List Bracket}, ∀ log ∈ stageLogs unitName (rule g handlers)
      (partition (rule g handlers) g.units) (build rule g handlers),
      Restores M l bs' (log.record (innermost bs')) := restores_stages _ _ _ _
  rw [buildTraced_eq]
  refine Restores.bind (Log.restores_recordAll fun log hlog => ?_) fun _ => restores_pure _
  rw [List.mem_singleton.mp hlog]
  unfold buildLog
  split
  · next e _ =>
      refine Log.restores_span _ _ fun s bs' hs => Log.restores_recordAll fun log hlog => ?_
      rw [hs.id_eq hbs]
      rcases List.mem_append.mp hlog with hlog | hlog
      · exact hstages log hlog
      · rw [List.mem_singleton.mp hlog]
        unfold Log.record
        exact restores_failure .body _ _
  · refine Log.restores_span _ _ fun s bs' hs => Log.restores_recordAll fun log hlog => ?_
    rw [hs.id_eq hbs]
    exact hstages log hlog

end Construction

namespace Batch

variable {M : Disk → Disk → Prop} {l : Level} {bs bs' : List Bracket} (o : BatchOptions)

theorem shows_driver (l : Level) : l.shows .driver = l.shows .body := by
  cases l <;> rfl

/-- Inside the span of a file or a batch, spans are shown or none is open. -/
theorem shows_inside {s : Span} (hs : Inside l .driver bs s bs')
    (hbs : l.shows .driver = true ∨ innermost bs = 0) : l.shows .driver = true ∨ innermost bs' = 0 := by
  cases hs with
  | shown s hlevel => exact Or.inl hlevel
  | hidden hlevel => exact hbs

theorem restores_runBodies (path : Bytes) (bodies : List Body)
    (hbs : l.shows .driver = true ∨ innermost bs = 0) :
    Restores M l bs (runBodies o (innermost bs) path bodies) := by
  rw [shows_driver] at hbs
  induction bodies with
  | nil => exact restores_pure _
  | cons b rest ih =>
      have hbody : Restores M l bs (runBody o (innermost bs) path b) :=
        (restores_buildTraced position b.name _ _ _ hbs).bind fun _ => restores_pure _
      exact hbody.bind fun _ => ih.bind fun _ => restores_pure _

section File

variable {s : Span} (hs : s.id = innermost bs)
include hs

theorem restores_lookUp (src : Bytes) : Restores M l bs (lookUp o s src) := by
  unfold lookUp
  rw [hs]
  split
  · exact restores_pure _
  · split
    · exact restores_pure _
    · refine narrates_get fun r hr => ?_
      split
      · exact restores_pure _
      · exact (restores_failure .driver _ _).bind fun _ => restores_pure _

theorem restores_keep (hM : o.store ≠ none → ∀ d d', M d d') (src : Bytes) (result : FileResult) :
    Restores M l bs (keep o s src result) := by
  unfold keep
  rw [hs]
  split
  · exact restores_pure _
  · next store hstore =>
    refine narrates_get fun r hr => ?_
    refine Restores.bind ?_ fun _ => ?_
    · intro r hr
      exact ⟨[], bs, .single (.disk r _ (hM (by rw [hstore]; nofun) _ _)), rfl, rfl⟩
    · split
      · exact restores_pure _
      · exact restores_failure .driver _ _

end File

theorem narrates_refuse {s : Span} (hs : Inside l .driver bs s bs')
    (hbs : l.shows .driver = true ∨ innermost bs = 0) (path : Bytes) (failure : FileFailure) :
    Narrates M l bs' (refuse s path failure) fun _ bs'' => bs'' = bs := by
  unfold refuse
  rw [hs.id_eq hbs]
  refine (restores_failure .driver _ _).bind fun _ => ?_
  exact (narrates_end hs s.notes _).bind fun _ _ h => narrates_pure h

section Runs

variable (hM : o.store ≠ none → ∀ d d', M d d')
include hM

theorem narrates_buildFile {s : Span} (hs : Inside l .driver bs s bs')
    (hbs : l.shows .driver = true ∨ innermost bs = 0) (path src : Bytes) :
    Narrates M l bs' (buildFile o (innermost bs) s path src) fun _ bs'' => bs'' = bs := by
  unfold buildFile
  split
  · exact (narrates_refuse hs hbs path _).bind fun _ _ h => narrates_pure h
  · next bodies _ =>
      rw [hs.under]
      refine (restores_runBodies o path bodies (shows_inside hs hbs)).bind fun rs => ?_
      refine (restores_keep o (hs.id_eq hbs) hM src _).bind fun _ => ?_
      exact (narrates_end hs _ _).bind fun _ _ h => narrates_pure h

/-- A file restores what is open around it, however it ends. -/
theorem restores_runFile (path : Bytes) (hbs : l.shows .driver = true ∨ innermost bs = 0) :
    Restores M l bs (runFile o (innermost bs) path) := by
  unfold runFile
  refine (narrates_begin .driver _).bind fun s bs' hs => ?_
  refine narrates_get fun r hr => ?_
  split
  · exact (narrates_refuse hs hbs path _).bind fun _ _ h => narrates_pure h
  · next src _ =>
      refine (restores_lookUp o (hs.id_eq hbs) src).bind fun found => ?_
      split
      · exact (narrates_end hs s.notes _).bind fun _ _ h => narrates_pure h
      · exact (narrates_buildFile o hM hs hbs path src).bind fun _ _ h => narrates_pure h

theorem restores_runFiles (files : List Bytes) (hbs : l.shows .driver = true ∨ innermost bs = 0) :
    Restores M l bs (runFiles o (innermost bs) files) := by
  induction files with
  | nil => exact restores_pure _
  | cons path rest ih =>
      exact (restores_runFile o hM path hbs).bind fun _ => ih.bind fun _ => restores_pure _

/-- A batch started outside any span leaves none open. -/
theorem restores_run (cancelled : Bool) (files : List Bytes) : Restores M l [] (run o cancelled 0 files) := by
  unfold run
  split
  · exact restores_pure _
  · have hbegin : Narrates M l [] _ _ := narrates_begin .driver (bytes "batch")
    refine hbegin.bind fun s bs' hs => ?_
    have hend : ∀ outcome : Outcome, Narrates M l bs' (do
        Recorder.end_ (s.noting (bytes "files") (decimal files.length)) []
        return outcome) fun _ bs'' => bs'' = [] :=
      fun _ => (narrates_end hs _ _).bind fun _ _ h => narrates_pure h
    cases cancelled with
    | true => exact (restores_pure _).bind hend
    | false =>
        change Narrates M l bs' (runFiles o (s.under (innermost [])) _ >>= _) _
        rw [hs.under]
        refine (restores_runFiles o hM _ (shows_inside hs (Or.inr rfl))).bind fun _ => ?_
        exact (restores_pure _).bind hend

end Runs

/-- Traces of batches are well bracketed. The events that a batch started outside any span records, on any
disk and at any level, can be followed to the end with no span left open; spans have distinct numbers, not 0
and not given before, and events are numbered one by one. A ring that loses nothing holds the events behind
those it had, and a stream prints them behind what it had printed. -/
theorem run_trace_bracketed (cancelled : Bool) (files : List Bytes) (r : Recorder) :
    ∃ es, Course (fun _ _ => True) r es (run o cancelled 0 files r).2 ∧ Bracketed es ∧
      (spansBegun es).Nodup ∧ (∀ i ∈ spansBegun es, r.host.spans < i) ∧
      es.map (·.seq) = List.range' (r.host.seq + 1) es.length ∧
      (∀ ring, r.sink = .ring ring → ∃ ring', (run o cancelled 0 files r).2.sink = .ring ring' ∧
        (ring'.dropped = ring.dropped → ring'.events = ring.events ++ es)) ∧
      (∀ l f m, r.sink = .stream l f (.memory m) → m.writeError = [] →
        (run o cancelled 0 files r).2.sink =
          .stream l f (.memory { m with text := m.text ++ rendered f es })) ∧
      (∀ l f, r.sink = .stream l f .stderr →
        (run o cancelled 0 files r).2.host.stderr = r.host.stderr ++ rendered f es) := by
  obtain ⟨es, bs, hcourse, hfollow, rfl⟩ := restores_run o (fun _ _ _ => trivial) cancelled files r rfl
  obtain ⟨hnodup, hfresh⟩ := hcourse.spansBegun_fresh
  refine ⟨es, hcourse, hfollow, hnodup, hfresh, hcourse.seq.2, ?_, ?_, ?_⟩
  · intro ring hring
    exact ⟨_, hcourse.ring hring, Ring.events_foldl_push⟩
  · intro l f m hstream hm
    exact hcourse.memory hstream hm
  · intro l f hstream
    exact (hcourse.stderr hstream).2

end Batch

end FlowBlocks
