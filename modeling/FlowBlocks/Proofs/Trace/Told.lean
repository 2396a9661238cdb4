import FlowBlocks.Proofs.Trace.Brackets
/-!
What a call records, and where it goes. Beginning or ending a span, a point and a failure each tell one event,
which is recorded if the level admits it. A stream whose outlet works gains the lines of what is recorded,
and a fan of a stream and a ring hands the same events to both.
-/
namespace FlowBlocks.Trace

/-- Nobody but the recorder touches the disk. -/
def Untouched : Disk → Disk → Prop := fun _ _ => False

/-- An event as it is recorded at a level, with the next number of the host; nothing if the level does not
admit it. -/
def told (l : Level) (h : Host) (e : Event) : List Event := if l.admits e then [e.numbered h] else []

section Calls

variable {M : Disk → Disk → Prop}

theorem course_emit {e : Event} (r : Recorder) (hseq : e.seq = 0) (hkind : e.kind ≠ .begin_)
    (hadmits : r.sink.level.admits e = true) : Course M r [e.numbered r.host] (Recorder.emit e r).2 := by
  have hstep := Step.records (M := M) r e hseq hadmits fun hbegin => absurd hbegin hkind
  have hhost : r.host.counting e = r.host := by simp [Host.counting, hkind]
  rw [hhost] at hstep
  exact .single hstep

/-- A call that hands an event to the sink under a condition that comes to what the level admits. -/
theorem course_told {e : Event} {c : Prop} [Decidable c] (r : Recorder) (hseq : e.seq = 0)
    (hkind : e.kind ≠ .begin_) (hc : c ↔ r.sink.level.admits e = true) :
    Course M r (told r.sink.level r.host e) (if c then (Recorder.emit e r).2 else r) := by
  unfold told
  by_cases hadmits : r.sink.level.admits e = true
  · rw [if_pos hadmits, if_pos (hc.mpr hadmits)]
    exact course_emit r hseq hkind hadmits
  · rw [if_neg hadmits, if_neg fun h => hadmits (hc.mp h)]
    exact .done r

variable (r : Recorder) (scope : Scope) (name : Bytes) (parent : Nat)

def beginEvent : Event :=
  { time := r.host.now, kind := .begin_, scope, span := r.host.spans + 1, parent, name }

def endEvent (s : Span) (detail : Bytes) : Event :=
  { time := r.host.now, kind := .end_, scope := s.scope, span := s.id, parent := s.parent, name := s.name
    detail, notes := s.notes.getD [], shared := s.notes.isSome }

theorem course_begin :
    Course M r (told r.sink.level r.host (beginEvent r scope name parent))
      (Recorder.begin_ scope name parent r).2 := by
  rw [Recorder.begin_apply, shows_eq rfl scope]
  unfold told
  by_cases hshows : r.sink.level.shows scope = true
  · have hadmits : r.sink.level.admits (beginEvent r scope name parent) = true := hshows
    rw [if_pos hshows, if_pos hadmits]
    exact .single (.records r _ rfl hadmits fun _ => rfl)
  · have hadmits : ¬ r.sink.level.admits (beginEvent r scope name parent) = true := hshows
    rw [if_neg hshows, if_neg hadmits]
    exact .done r

theorem course_point (detail : Bytes) (notes : Notes) :
    Course M r (told r.sink.level r.host
        { time := r.host.now, kind := .point, scope, parent, name, detail, notes })
      (Recorder.point scope name detail parent notes r).2 := by
  rw [Recorder.point_apply]
  refine course_told r rfl nofun ?_
  rw [shows_eq rfl scope]
  rfl

theorem course_failure (message : Bytes) :
    Course M r (told r.sink.level r.host
        { time := r.host.now, kind := .error, scope, parent, name, detail := message })
      (Recorder.failure scope name message parent r).2 := by
  rw [Recorder.failure_apply]
  exact course_told r rfl nofun Iff.rfl

/-- The end of a span is recorded if the span is live, which it is only where the level shows it. -/
theorem course_end {s : Span} (hlive : s.live = true → r.sink.level.shows s.scope = true) (detail : Bytes) :
    Course M r (if s.live then [(endEvent r s detail).numbered r.host] else [])
      (Recorder.end_ s detail r).2 := by
  rw [Recorder.end_apply]
  cases hs : s.live with
  | false => exact .done r
  | true =>
      have hshows := hlive hs
      have henabled : r.sink.enabled = true := enabled_of_shows hshows
      rw [henabled]
      exact course_emit r rfl nofun hshows

end Calls

namespace Outlet

/-- What stands where an outlet writes to. -/
def written (h : Host) : Outlet → Bytes
  | .memory m => m.text
  | .stderr => h.stderr
  | .file _ place _ _ =>
    match h.disk.node? place with
    | some (.file content) => content
    | _ => []

/-- An outlet that takes what is written: a text in memory that does not fail, the standard error stream, or
a file open at its end. -/
def Works (h : Host) : Outlet → Prop
  | .memory m => m.writeError = []
  | .stderr => True
  | .file _ place offset closed =>
    closed = false ∧ ∃ content, h.disk.node? place = some (.file content) ∧ offset = content.length

theorem write_works {o : Outlet} {h : Host} (hw : o.Works h) (line : Bytes) :
    (o.write line h).1.Works (o.write line h).2 ∧
      (o.write line h).1.written (o.write line h).2 = o.written h ++ line := by
  cases o with
  | memory m =>
      have hm : m.writeError = [] := hw
      simp [write, Works, written, hm]
  | stderr => exact ⟨trivial, rfl⟩
  | file path place offset closed =>
      obtain ⟨rfl, content, hnode, rfl⟩ := hw
      have hplace : place ≠ [] := by
        rintro rfl
        cases hnode
      have hdisk : h.disk.writeAt place content.length line = h.disk.put place (.file (content ++ line)) := by
        have hend : content.drop (content.length + line.length) = [] :=
          List.drop_eq_nil_of_le (Nat.le_add_right _ _)
        simp [Disk.writeAt, hnode, hend]
      have hput : (h.disk.put place (.file (content ++ line))).node? place = some (.file (content ++ line)) :=
        Disk.node?_put_self _ _ _ hplace
      simp [write, Works, written, hdisk, hput, hnode]

end Outlet

section Sinks

variable {r r' : Recorder} {es : List Event} {l : Level} {f : Format} {o : Outlet} {ring : Ring}

theorem rendered_singleton (f : Format) (e : Event) : rendered f [e] = e.render f := List.append_nil _

theorem rendered_append (f : Format) (es es' : List Event) :
    rendered f (es ++ es') = rendered f es ++ rendered f es' := List.flatMap_append

theorem Outlet.write_numbered {e : Event} (hw : o.Works r.host) (line : Bytes) :
    let after := o.write line { r.host.counting e with seq := r.host.seq + 1 }
    after.1.Works after.2 ∧ after.1.written after.2 = o.written r.host ++ line :=
  Outlet.write_works (h := { r.host.counting e with seq := r.host.seq + 1 }) hw line

/-- A stream gains the lines of what is recorded. -/
theorem Step.stream (h : Step Untouched r es r') (hr : r.sink = .stream l f o) (hw : o.Works r.host) :
    ∃ o', r'.sink = .stream l f o' ∧ o'.Works r'.host ∧
      o'.written r'.host = o.written r.host ++ rendered f es := by
  cases h with
  | disk d hd => exact hd.elim
  | records e hseq hadmits =>
      rw [hr] at hadmits
      rw [rendered_singleton]
      simp only [Recorder.emit, hr, Sink.emit_stream hseq hadmits]
      exact ⟨_, rfl, Outlet.write_numbered hw _⟩

theorem Course.stream (h : Course Untouched r es r') (hr : r.sink = .stream l f o) (hw : o.Works r.host) :
    ∃ o', r'.sink = .stream l f o' ∧ o'.Works r'.host ∧
      o'.written r'.host = o.written r.host ++ rendered f es := by
  induction h generalizing o with
  | done r => exact ⟨o, hr, hw, (List.append_nil _).symm⟩
  | step first rest ih =>
      obtain ⟨o₁, hr₁, hw₁, hwritten⟩ := first.stream hr hw
      obtain ⟨o₂, hr₂, hw₂, hwritten'⟩ := ih hr₁ hw₁
      refine ⟨o₂, hr₂, hw₂, ?_⟩
      rw [hwritten', hwritten, List.append_assoc, rendered_append]

/-- A recorder with a fan of a stream that works and a ring, all of one level. -/
structure Both (l : Level) (f : Format) (o : Outlet) (ring : Ring) (r : Recorder) : Prop where
  sink : r.sink = .fan l [.stream l f o, .ring ring]
  level : ring.level = l
  works : o.Works r.host

theorem Sink.emit_both {e : Event} (hseq : e.seq = 0) (hadmits : l.admits e = true) (hring : ring.level = l)
    (h : Host) :
    (Sink.fan l [.stream l f o, .ring ring]).emit e h = (e.numbered h,
      .fan l [.stream l f (o.write ((e.numbered h).render f) { h with seq := h.seq + 1 }).1,
        .ring (ring.push (e.numbered h))],
      (o.write ((e.numbered h).render f) { h with seq := h.seq + 1 }).2) := by
  have hgiven : ∀ h', number (e.numbered h) h' = (e.numbered h, h') :=
    fun h' => number_given h' (Nat.succ_ne_zero _)
  have hnumbered : l.admits (e.numbered h) = true := hadmits
  simp only [emit, emitAll, number_next h hseq, hring, if_pos hnumbered, hgiven]

/-- Both sinks of a fan get what is recorded. -/
theorem Step.both (h : Step Untouched r es r') (hb : Both l f o ring r) :
    ∃ o', Both l f o' (es.foldl Ring.push ring) r' ∧ o'.written r'.host = o.written r.host ++ rendered f es := by
  cases h with
  | disk d hd => exact hd.elim
  | records e hseq hadmits =>
      have hshown : l.admits e = true := by
        rw [hb.sink] at hadmits
        exact hadmits
      have hafter := Outlet.write_numbered (e := e) hb.works ((e.numbered r.host).render f)
      rw [rendered_singleton]
      simp only [Recorder.emit, hb.sink, Sink.emit_both hseq hshown hb.level]
      exact ⟨_, ⟨rfl, (ring.level_push _).trans hb.level, hafter.1⟩, hafter.2⟩

theorem Course.both (h : Course Untouched r es r') (hb : Both l f o ring r) :
    ∃ o', Both l f o' (es.foldl Ring.push ring) r' ∧ o'.written r'.host = o.written r.host ++ rendered f es := by
  induction h generalizing o ring with
  | done r => exact ⟨o, hb, (List.append_nil _).symm⟩
  | step first rest ih =>
      obtain ⟨o₁, hb₁, hwritten⟩ := first.both hb
      obtain ⟨o₂, hb₂, hwritten'⟩ := ih hb₁
      rw [List.foldl_append]
      refine ⟨o₂, hb₂, ?_⟩
      rw [hwritten', hwritten, List.append_assoc, rendered_append]

end Sinks

end FlowBlocks.Trace
