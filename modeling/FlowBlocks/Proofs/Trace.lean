import FlowBlocks.Proofs.Disk
import FlowBlocks.Proofs.Trace.Log
/-!
What recording does to a disk: the only files it touches are those its sink writes to, and a sink keeps the
files it writes to.
-/
namespace FlowBlocks.Trace

namespace Sink

mutual

/-- The places of the files that a sink writes to. -/
def places : Sink → List (List Bytes)
  | .stream _ _ (.file _ place _ _) => [place]
  | .fan _ sinks => placesAll sinks
  | _ => []

def placesAll : List Sink → List (List Bytes)
  | [] => []
  | s :: rest => places s ++ placesAll rest

end

theorem number_disk (e : Event) (h : Host) : (number e h).2.disk = h.disk := by
  unfold number
  split <;> rfl

/-- A stream touches the file it writes to, if it writes to one. -/
theorem write_gains (l : Level) (f : Format) (o : Outlet) (line : Bytes) (h : Host) :
    (stream l f (o.write line h).1).places = (stream l f o).places ∧
      Disk.Gains (fun place _ => place ∈ (stream l f o).places) h.disk (o.write line h).2.disk := by
  cases o with
  | memory m => exact ⟨rfl, .refl h.disk⟩
  | stderr => exact ⟨rfl, .refl h.disk⟩
  | file path place offset closed =>
      cases closed with
      | true => exact ⟨rfl, .refl h.disk⟩
      | false =>
          have hplace : place ∈ (stream l f (.file path place offset false)).places :=
            List.mem_singleton.mpr rfl
          exact ⟨rfl, Disk.writeAt_gains h.disk (fun _ => hplace) offset line⟩

mutual

theorem emit_gains (e : Event) (h : Host) : (s : Sink) →
    (s.emit e h).2.1.places = s.places ∧
      Disk.Gains (fun place _ => place ∈ s.places) h.disk (s.emit e h).2.2.disk
  | .silent => ⟨rfl, .refl h.disk⟩
  | .stream l f o => by
      unfold emit
      split
      · have hwrite := write_gains l f o ((number e h).1.render f) (number e h).2
        rw [number_disk] at hwrite
        exact hwrite
      · exact ⟨rfl, .refl h.disk⟩
  | .ring r => by
      unfold emit
      split
      · refine ⟨rfl, ?_⟩
        change Disk.Gains _ h.disk (number e h).2.disk
        rw [number_disk]
        exact .refl h.disk
      · exact ⟨rfl, .refl h.disk⟩
  | .fan l sinks => by
      have hall := emitAll_gains (number e h).1 (number e h).2 sinks
      rw [number_disk] at hall
      exact hall

theorem emitAll_gains (e : Event) (h : Host) : (sinks : List Sink) →
    placesAll (emitAll e h sinks).1 = placesAll sinks ∧
      Disk.Gains (fun place _ => place ∈ placesAll sinks) h.disk (emitAll e h sinks).2.disk
  | [] => ⟨rfl, .refl h.disk⟩
  | s :: rest => by
      obtain ⟨hs, hgain⟩ := emit_gains e h s
      obtain ⟨hrest, hgain'⟩ := emitAll_gains e (s.emit e h).2.2 rest
      refine ⟨?_, ?_⟩
      · exact congrArg₂ (· ++ ·) hs hrest
      · exact (hgain.mono fun _ _ => List.mem_append_left _).trans
          (hgain'.mono fun _ _ => List.mem_append_right _)

end

end Sink

namespace Recorded

theorem bind_apply {α β : Type} (x : Recorded α) (f : α → Recorded β) (r : Recorder) :
    (x >>= f) r = f (x r).1 (x r).2 := rfl

theorem pure_apply {α : Type} (a : α) (r : Recorder) : (pure a : Recorded α) r = (a, r) := rfl

theorem get_apply (r : Recorder) : (get : Recorded Recorder) r = (r, r) := rfl

theorem modify_apply (f : Recorder → Recorder) (r : Recorder) :
    (modify f : Recorded Unit) r = ((), f r) := rfl

end Recorded

namespace Recorder

variable (scope : Scope) (name : Bytes) (parent : Nat) (r : Recorder)

theorem begin_apply : begin_ scope name parent r =
    if r.shows scope then
      ({ id := r.host.spans + 1, parent, scope, name, live := true },
        (emit { time := r.host.now, kind := .begin_, scope, span := r.host.spans + 1, parent, name }
          { r with host.spans := r.host.spans + 1 }).2)
    else ({}, r) := by
  unfold begin_
  rw [Recorded.bind_apply, Recorded.get_apply]
  split <;> rfl

theorem end_apply (s : Span) (detail : Bytes) : end_ s detail r =
    ((), if s.live && r.sink.enabled then
      (emit { time := r.host.now, kind := .end_, scope := s.scope, span := s.id, parent := s.parent
              name := s.name, detail, notes := s.notes.getD [], shared := s.notes.isSome } r).2
    else r) := by
  unfold end_
  rw [Recorded.bind_apply, Recorded.get_apply]
  split <;> rfl

theorem point_apply (detail : Bytes) (notes : Notes) : point scope name detail parent notes r =
    ((), if r.shows scope then
      (emit { time := r.host.now, kind := .point, scope, parent, name, detail, notes } r).2
    else r) := by
  unfold point
  rw [Recorded.bind_apply, Recorded.get_apply]
  split <;> rfl

theorem failure_apply (message : Bytes) : failure scope name message parent r =
    ((), if r.sink.enabled then
      (emit { time := r.host.now, kind := .error, scope, parent, name, detail := message } r).2
    else r) := by
  unfold failure
  rw [Recorded.bind_apply, Recorded.get_apply]
  split <;> rfl

theorem note_apply (s : Span) (key value : Bytes) : note s key value r =
    if s.live then (s.noting key value, { r with sink := r.sink.annotate s.id key value }) else (s, r) := by
  unfold note
  split <;> rfl

end Recorder

/-- The sink writes to the same files, and the disk has gained no files but those `allowed`. -/
structure Recorder.Gains (allowed : List Bytes → Bytes → Prop) (r r' : Recorder) : Prop where
  places : r'.sink.places = r.sink.places
  disk : Disk.Gains allowed r.host.disk r'.host.disk

namespace Recorder

variable {S : List Bytes → Bytes → Prop} {r r₁ r₂ : Recorder}

theorem Gains.refl (r : Recorder) : Gains S r r := ⟨rfl, .refl _⟩

theorem Gains.trans (h : Gains S r r₁) (h' : Gains S r₁ r₂) : Gains S r r₂ :=
  ⟨h'.places.trans h.places, h.disk.trans h'.disk⟩

/-- The sink may write what it likes to its files. -/
def Admits (S : List Bytes → Bytes → Prop) (r : Recorder) : Prop :=
  ∀ place ∈ r.sink.places, ∀ content, S place content

theorem Gains.admits (h : Gains S r r₁) (hr : r.Admits S) : r₁.Admits S := by
  rw [Admits, h.places]
  exact hr

/-- Events go to the sink one after the other. Numbers of spans may be taken in between. -/
inductive Emits : Recorder → Recorder → Prop
  | refl (r : Recorder) : Emits r r
  | step {r r' : Recorder} (spans : Nat) (e : Event) (rest : Emits (emit e { r with host.spans := spans }).2 r') :
      Emits r r'

theorem Emits.trans (h : Emits r r₁) (h' : Emits r₁ r₂) : Emits r r₂ := by
  induction h with
  | refl r => exact h'
  | step spans e rest ih => exact .step spans e (ih h')

/-- Events change nothing on a disk but the files that the sink writes to. -/
theorem Emits.gains (h : Emits r r₁) (hr : r.Admits S) : Gains S r r₁ := by
  induction h with
  | refl r => exact .refl r
  | @step r r' spans e rest ih =>
      obtain ⟨hplaces, hdisk⟩ := r.sink.emit_gains e { r.host with spans }
      have hfirst : Gains S r (emit e { r with host.spans := spans }).2 :=
        ⟨hplaces, hdisk.mono fun place content hmem => hr place hmem content⟩
      exact hfirst.trans (ih (hfirst.admits hr))

/-- A computation that records and does nothing else to a disk. -/
def OnlyTraces {α : Type} (x : Recorded α) : Prop := ∀ r, Emits r (x r).2

theorem OnlyTraces.gains {α : Type} {x : Recorded α} (hx : OnlyTraces x) (hr : r.Admits S) :
    Gains S r (x r).2 :=
  (hx r).gains hr

theorem onlyTraces_pure {α : Type} (a : α) : OnlyTraces (pure a : Recorded α) := fun r => .refl r

theorem onlyTraces_get : OnlyTraces (get : Recorded Recorder) := fun r => .refl r

theorem OnlyTraces.bind {α β : Type} {x : Recorded α} {f : α → Recorded β} (hx : OnlyTraces x)
    (hf : ∀ a, OnlyTraces (f a)) : OnlyTraces (x >>= f) :=
  fun r => (hx r).trans (hf (x r).1 (x r).2)

theorem onlyTraces_emit (e : Event) : OnlyTraces (emit e) := fun r => .step r.host.spans e (.refl _)

theorem onlyTraces_begin (scope : Scope) (name : Bytes) (parent : Nat) :
    OnlyTraces (begin_ scope name parent) := by
  intro r
  rw [begin_apply]
  split
  · exact .step _ _ (.refl _)
  · exact .refl r

theorem onlyTraces_end (s : Span) (detail : Bytes) : OnlyTraces (end_ s detail) := by
  intro r
  rw [end_apply]
  dsimp only
  split
  · exact onlyTraces_emit _ r
  · exact .refl r

theorem onlyTraces_point (scope : Scope) (name detail : Bytes) (parent : Nat) (notes : Notes) :
    OnlyTraces (point scope name detail parent notes) := by
  intro r
  rw [point_apply]
  dsimp only
  split
  · exact onlyTraces_emit _ r
  · exact .refl r

theorem onlyTraces_failure (scope : Scope) (name message : Bytes) (parent : Nat) :
    OnlyTraces (failure scope name message parent) := by
  intro r
  rw [failure_apply]
  dsimp only
  split
  · exact onlyTraces_emit _ r
  · exact .refl r

end Recorder

namespace Log

mutual

theorem onlyTraces_record (parent : Nat) : (l : Log) → Recorder.OnlyTraces (l.record parent)
  | .span scope name inner _ _ => by
      unfold record
      exact (Recorder.onlyTraces_begin scope name parent).bind fun s =>
        (onlyTraces_recordAll s.id inner).bind fun _ => Recorder.onlyTraces_end _ _
  | .point scope name detail notes => by
      unfold record
      exact Recorder.onlyTraces_point scope name detail parent notes
  | .failure scope name message => by
      unfold record
      exact Recorder.onlyTraces_failure scope name message parent

theorem onlyTraces_recordAll (parent : Nat) : (ls : List Log) → Recorder.OnlyTraces (recordAll parent ls)
  | [] => by
      unfold recordAll
      exact Recorder.onlyTraces_pure ()
  | l :: rest => by
      unfold recordAll
      exact (onlyTraces_record parent l).bind fun _ => onlyTraces_recordAll parent rest

end

end Log

end FlowBlocks.Trace
