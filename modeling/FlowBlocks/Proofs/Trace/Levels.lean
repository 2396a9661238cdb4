import FlowBlocks.Proofs.BlockFlow.Traced
import FlowBlocks.Proofs.Trace.Told
/-!
Levels only filter. A log says the same events at every level; recording it at a level leaves, of these, the
ones that the level admits. The construction of a block flow is such a log beside a result that does not
depend on any recorder.
-/
namespace FlowBlocks

namespace Trace

/-- What an event says, leaving aside when, under which numbers and where it is recorded. -/
def Event.account (e : Event) : Kind × Scope × Bytes × Bytes × Notes :=
  (e.kind, e.scope, e.name, e.detail, e.notes)

section Accounts

variable {e e' : Event} {es es' : List Event}

/-- Whether a level admits an event can be told from what the event says. -/
theorem filter_account (h : es.map Event.account = es'.map Event.account) (l : Level) :
    (es.filter l.admits).map Event.account = (es'.filter l.admits).map Event.account := by
  have hadmits : l.admits = (fun a => if a.1 = .error then l.enabled else l.shows a.2.1) ∘ Event.account := rfl
  rw [hadmits, ← List.filter_map, ← List.filter_map, h]

theorem told_account (h : e.account = e'.account) (l : Level) (host : Host) :
    (told l host e).map Event.account = ([e'].filter l.admits).map Event.account := by
  have hsame : [e].map Event.account = [e'].map Event.account := congrArg (fun a => [a]) h
  rw [← filter_account hsame, told, List.filter_singleton]
  cases l.admits e <;> rfl

theorem admits_debug (e : Event) : Level.debug.admits e = true := by
  unfold Level.admits
  split <;> rfl

end Accounts

namespace Log

mutual

/-- The events of a log in order, as no level leaves any out. -/
def events : Log → List Event
  | .span scope name inner detail notes =>
    { kind := .begin_, scope, name } :: eventsAll inner ++ [{ kind := .end_, scope, name, detail, notes }]
  | .point scope name detail notes => [{ kind := .point, scope, name, detail, notes }]
  | .failure scope name message => [{ kind := .error, scope, name, detail := message }]

def eventsAll : List Log → List Event
  | [] => []
  | log :: rest => log.events ++ eventsAll rest

end

end Log

/-- Under a level, a computation records of the events `said` those that the level admits, and its result
satisfies `Q`. -/
def Recounts {α : Type} (M : Disk → Disk → Prop) (l : Level) (x : Recorded α) (said : List Event)
    (Q : α → Prop) : Prop :=
  ∀ r, r.sink.level = l → ∃ es, Course M r es (x r).2 ∧
    es.map Event.account = (said.filter l.admits).map Event.account ∧ Q (x r).1

section Recounting

variable {M : Disk → Disk → Prop} {α β : Type} {l : Level}

theorem recounts_pure {a : α} {Q : α → Prop} (h : Q a) : Recounts M l (pure a : Recorded α) [] Q := by
  intro r _
  exact ⟨[], .done r, rfl, h⟩

theorem Recounts.bind {x : Recorded α} {f : α → Recorded β} {said said' : List Event} {Q : α → Prop}
    {R : β → Prop} (hx : Recounts M l x said Q) (hf : ∀ a, Q a → Recounts M l (f a) said' R) :
    Recounts M l (x >>= f) (said ++ said') R := by
  intro r hr
  obtain ⟨es, hcourse, hsaid, hQ⟩ := hx r hr
  obtain ⟨es', hcourse', hsaid', hR⟩ := hf _ hQ (x r).2 (hcourse.level.trans hr)
  refine ⟨es ++ es', hcourse.trans hcourse', ?_, hR⟩
  rw [List.map_append, hsaid, hsaid', List.filter_append, List.map_append]

/-- A span as it comes from its begin: live where the level shows it. -/
structure Begun (l : Level) (scope : Scope) (name : Bytes) (s : Span) : Prop where
  live : s.live = l.shows scope
  bracket : s.live = true → s.scope = scope ∧ s.name = name

theorem recounts_begin (scope : Scope) (name : Bytes) (parent : Nat) :
    Recounts M l (Recorder.begin_ scope name parent) [{ kind := .begin_, scope, name }]
      (Begun l scope name) := by
  intro r hr
  have hcourse := course_begin (M := M) r scope name parent
  rw [hr] at hcourse
  refine ⟨_, hcourse, told_account (by rfl) l r.host, ?_⟩
  rw [Recorder.begin_apply, shows_eq hr scope]
  cases hshows : l.shows scope with
  | true => exact ⟨hshows.symm, fun _ => ⟨rfl, rfl⟩⟩
  | false => exact ⟨hshows.symm, nofun⟩

theorem recounts_end {scope : Scope} {name : Bytes} {s : Span} (hs : Begun l scope name s)
    (notes : Notes) (detail : Bytes) :
    Recounts M l (Recorder.end_ { s with notes := if notes.isEmpty then none else some notes } detail)
      [{ kind := .end_, scope, name, detail, notes }] fun _ => True := by
  intro r hr
  have hshows : s.live = true → r.sink.level.shows s.scope = true := by
    intro hlive
    rw [hr, (hs.bracket hlive).1, ← hs.live, hlive]
  refine ⟨_, course_end r (s := { s with notes := if notes.isEmpty then none else some notes }) hshows detail,
    ?_, trivial⟩
  rw [List.filter_singleton]
  have hadmits : l.admits { kind := .end_, scope, name, detail, notes } = s.live := hs.live.symm
  rw [hadmits]
  cases hlive : s.live with
  | false => rfl
  | true =>
      obtain ⟨hscope, hname⟩ := hs.bracket hlive
      cases notes <;> simp [Event.account, Event.numbered, endEvent, hscope, hname]

theorem recounts_point (scope : Scope) (name detail : Bytes) (parent : Nat) (notes : Notes) :
    Recounts M l (Recorder.point scope name detail parent notes)
      [{ kind := .point, scope, name, detail, notes }] fun _ => True := by
  intro r hr
  have hcourse := course_point (M := M) r scope name parent detail notes
  rw [hr] at hcourse
  exact ⟨_, hcourse, told_account (by rfl) l r.host, trivial⟩

theorem recounts_failure (scope : Scope) (name message : Bytes) (parent : Nat) :
    Recounts M l (Recorder.failure scope name message parent)
      [{ kind := .error, scope, name, detail := message }] fun _ => True := by
  intro r hr
  have hcourse := course_failure (M := M) r scope name parent message
  rw [hr] at hcourse
  exact ⟨_, hcourse, told_account (by rfl) l r.host, trivial⟩

mutual

/-- Recording a log leaves what the level admits of it, under any parent. -/
theorem recounts_record (parent : Nat) : (log : Log) →
    Recounts M l (log.record parent) log.events fun _ => True
  | .span scope name inner detail notes => by
      unfold Log.record Log.events
      rw [List.cons_append]
      refine (recounts_begin scope name parent).bind fun s hs => ?_
      exact (recounts_recordAll s.id inner).bind fun _ _ => recounts_end hs notes detail
  | .point scope name detail notes => by
      unfold Log.record Log.events
      exact recounts_point scope name detail parent notes
  | .failure scope name message => by
      unfold Log.record Log.events
      exact recounts_failure scope name message parent

theorem recounts_recordAll (parent : Nat) : (logs : List Log) →
    Recounts M l (Log.recordAll parent logs) (Log.eventsAll logs) fun _ => True
  | [] => by
      unfold Log.recordAll Log.eventsAll
      exact recounts_pure trivial
  | log :: rest => by
      unfold Log.recordAll Log.eventsAll
      exact (recounts_record parent log).bind fun _ _ => recounts_recordAll parent rest

end

theorem recounts_beside (parent : Nat) (logs : List Log) (a : α) :
    Recounts M l (Log.beside logs parent a) (Log.eventsAll logs) fun result => result = a := by
  have hrecord : Recounts M l (Log.beside logs parent a) (Log.eventsAll logs ++ []) fun result => result = a :=
    (recounts_recordAll parent logs).bind fun _ _ => recounts_pure rfl
  rwa [List.append_nil] at hrecord

/-- Two recordings of the same events, one of them at a level that hides nothing. -/
theorem Recounts.filtered {x y : Recorded α} {said : List Event} {Q R : α → Prop} (hx : Recounts M l x said Q)
    (hy : Recounts M .debug y said R) (r r' : Recorder) (hr : r.sink.level = l) (hr' : r'.sink.level = .debug) :
    ∃ es es', Course M r es (x r).2 ∧ Course M r' es' (y r').2 ∧
      es.map Event.account = (es'.filter l.admits).map Event.account := by
  obtain ⟨es, hcourse, hsaid, -⟩ := hx r hr
  obtain ⟨es', hcourse', hsaid', -⟩ := hy r' hr'
  have hall : said.filter Level.debug.admits = said := List.filter_eq_self.mpr fun e _ => admits_debug e
  rw [hall] at hsaid'
  exact ⟨es, es', hcourse, hcourse', hsaid.trans (filter_account hsaid' l).symm⟩

end Recounting

/-- What is recorded from one state of a recorder to another, and how its sink shows it: a ring that loses
nothing holds the events behind those it had, and a stream whose outlet works has printed them behind what
stood there. -/
structure Records (r : Recorder) (es : List Event) (r' : Recorder) : Prop where
  course : Course Untouched r es r'
  ring : ∀ ring, r.sink = .ring ring → ∃ ring', r'.sink = .ring ring' ∧
    (ring'.dropped = ring.dropped → ring'.events = ring.events ++ es)
  stream : ∀ l f o, r.sink = .stream l f o → o.Works r.host → ∃ o', r'.sink = .stream l f o' ∧
    o'.written r'.host = o.written r.host ++ rendered f es

theorem Course.records {r r' : Recorder} {es : List Event} (h : Course Untouched r es r') : Records r es r' := by
  refine ⟨h, ?_, ?_⟩
  · intro ring hring
    exact ⟨_, h.ring hring, Ring.events_foldl_push⟩
  · intro l f o hstream hworks
    obtain ⟨o', hsink, -, hwritten⟩ := h.stream hstream hworks
    exact ⟨o', hsink, hwritten⟩

end Trace

open Trace

section Construction

variable {U : Type} [DecidableEq U]

theorem recounts_buildTraced {M : Disk → Disk → Prop} {l : Level} (unitName : U → Bytes) (name : Bytes)
    (rule : LeaderRule U) (g : FlowGraph U) (handlers : List U) (parent : Nat) :
    Recounts M l (buildTraced unitName name rule g handlers parent)
      (Log.eventsAll [buildLog unitName name rule g handlers]) fun flow => flow = build rule g handlers := by
  rw [buildTraced_eq]
  exact recounts_beside parent _ _

/-- Tracing only observes, and levels only filter. Whatever is built from whatever parts, under any label and
any parent span, the result is the same with every recorder; and what is recorded at a level, leaving
aside times, numbers and parents, is what is recorded where nothing is hidden, less the events that the level
does not admit. -/
theorem tracing_only_observes (unitName : U → Bytes) (name : Bytes) (rule : LeaderRule U) (g : FlowGraph U)
    (handlers : List U) (parent parent' : Nat) (l : Level) (r r' : Recorder) (hl : r.sink.level = l)
    (hdebug : r'.sink.level = .debug) :
    (buildTraced unitName name rule g handlers parent r).1 = build rule g handlers ∧
      (buildTraced unitName name rule g handlers parent' r').1 = build rule g handlers ∧
      ∃ es es', Records r es (buildTraced unitName name rule g handlers parent r).2 ∧
        Records r' es' (buildTraced unitName name rule g handlers parent' r').2 ∧
        es.map Event.account = (es'.filter l.admits).map Event.account := by
  refine ⟨buildTraced_fst _ _ _ _ _ _ r, buildTraced_fst _ _ _ _ _ _ r', ?_⟩
  obtain ⟨es, es', hcourse, hcourse', hsaid⟩ :=
    (recounts_buildTraced unitName name rule g handlers parent).filtered
      (recounts_buildTraced unitName name rule g handlers parent') r r' hl hdebug
  exact ⟨es, es', hcourse.records, hcourse'.records, hsaid⟩

end Construction

/-- A unit that ends the run, and one that nothing leads to. -/
def unreachedUnit : FlowGraph Nat where
  units := [0, 1]
  preds := fun _ => []
  succs := fun _ => []
  heads := [0]
  tails := [0, 1]
  branches := fun _ => false
  falls := fun _ => false

/-- The remark on the unit that nothing leads to is the one event that goes without per-block remarks. -/
theorem unreachedUnit_observed :
    ∃ es es',
      Records ⟨{}, .ring (.make 16 .detail)⟩ es
        (buildTraced position (bytes "f") (fun _ _ => [0, 1]) unreachedUnit [1] 0
          ⟨{}, .ring (.make 16 .detail)⟩).2 ∧
      Records ⟨{}, .ring (.make 16 .debug)⟩ es'
        (buildTraced position (bytes "f") (fun _ _ => [0, 1]) unreachedUnit [1] 7
          ⟨{}, .ring (.make 16 .debug)⟩).2 ∧
      es.map Event.account = (es'.filter Level.detail.admits).map Event.account ∧
      es'.map (·.kind) = [.begin_, .begin_, .end_, .begin_, .end_, .begin_, .point, .end_, .end_] := by
  obtain ⟨-, -, es, es', hrecords, hrecords', hsaid⟩ := tracing_only_observes position (bytes "f")
    (fun _ _ => [0, 1]) unreachedUnit [1] 0 7 .detail ⟨{}, .ring (.make 16 .detail)⟩
    ⟨{}, .ring (.make 16 .debug)⟩ rfl rfl
  refine ⟨es, es', hrecords, hrecords', hsaid, ?_⟩
  obtain ⟨ring, hring, hevents⟩ := hrecords'.ring _ rfl
  have hshown : (buildTraced position (bytes "f") (fun _ _ => [0, 1]) unreachedUnit [1] 7
      ⟨{}, .ring (.make 16 .debug)⟩).2.sink.ring?.map (fun ring => (ring.dropped, ring.events.map (·.kind))) =
      some (0, [.begin_, .begin_, .end_, .begin_, .end_, .begin_, .point, .end_, .end_]) := by
    decide +kernel
  rw [hring] at hshown
  obtain ⟨hdropped, hkinds⟩ := Prod.mk.inj (Option.some.inj hshown)
  rw [hevents hdropped, Ring.events_make, List.nil_append] at hkinds
  exact hkinds

end FlowBlocks
