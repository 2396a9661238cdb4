import FlowBlocks.Proofs.Trace
import FlowBlocks.Proofs.Trace.Ring
/-!
Well-bracketed traces. A reader who follows a trace keeps the spans that are open; a computation narrates if
the events it records can be followed from the spans open around it. What a recorder does is cut into steps,
and numbering, freshness of spans and the contents of rings and streams are facts about runs of such steps.
-/
namespace FlowBlocks.Trace

/-- What the begin and the end of a span have in common. -/
structure Bracket where
  span : Nat
  parent : Nat
  scope : Scope
  name : Bytes
deriving DecidableEq, Repr

def Event.bracket (e : Event) : Bracket := ⟨e.span, e.parent, e.scope, e.name⟩

def Span.bracket (s : Span) : Bracket := ⟨s.id, s.parent, s.scope, s.name⟩

/-- The innermost of the open spans, 0 if none is open. -/
def innermost : List Bracket → Nat
  | [] => 0
  | b :: _ => b.span

/-- The spans open after an event, innermost first, unless the event is out of place. An end closes the
innermost span; everything else has it as parent. -/
def openAfter (bs : List Bracket) (e : Event) : Option (List Bracket) :=
  match e.kind with
  | .begin_ => if e.parent = innermost bs then some (e.bracket :: bs) else none
  | .end_ => if bs.head? = some e.bracket then some bs.tail else none
  | .point | .error => if e.parent = innermost bs then some bs else none
  | .unnamed => none

def follow (bs : List Bracket) (es : List Event) : Option (List Bracket) := es.foldlM openAfter bs

/-- Every event is in its place, and no span is left open. -/
def Bracketed (es : List Event) : Prop := follow [] es = some []

instance (es : List Event) : Decidable (Bracketed es) := inferInstanceAs (Decidable (_ = _))

def spansBegun (es : List Event) : List Nat := (es.filter (·.kind = .begin_)).map (·.span)

theorem follow_append {bs bs' : List Bracket} {es : List Event} (h : follow bs es = some bs')
    (es' : List Event) : follow bs (es ++ es') = follow bs' es' := by
  unfold follow at *
  rw [List.foldlM_append, h]
  rfl

theorem spansBegun_append (es es' : List Event) : spansBegun (es ++ es') = spansBegun es ++ spansBegun es' := by
  simp [spansBegun]

def Event.numbered (e : Event) (h : Host) : Event := { e with seq := h.seq + 1 }

/-- The host once an event has taken its span number: only a begin takes one. -/
def Host.counting (h : Host) (e : Event) : Host :=
  { h with spans := if e.kind = .begin_ then h.spans + 1 else h.spans }

/-- One step of a recorder and what it records: the disk changes as `M` allows, or an event that the level
admits goes to the sink. -/
inductive Step (M : Disk → Disk → Prop) : Recorder → List Event → Recorder → Prop
  | disk (r : Recorder) (d : Disk) (hd : M r.host.disk d) : Step M r [] { r with host.disk := d }
  | records (r : Recorder) (e : Event) (hseq : e.seq = 0) (hadmits : r.sink.level.admits e = true)
      (hspan : e.kind = .begin_ → e.span = r.host.spans + 1) :
      Step M r [e.numbered r.host] (Recorder.emit e { r with host := r.host.counting e }).2

/-- What is recorded on the way from one state of a recorder to another. -/
inductive Course (M : Disk → Disk → Prop) : Recorder → List Event → Recorder → Prop
  | done (r : Recorder) : Course M r [] r
  | step {r r₁ r₂ : Recorder} {es es' : List Event} (first : Step M r es r₁) (rest : Course M r₁ es' r₂) :
      Course M r (es ++ es') r₂

namespace Course

variable {M : Disk → Disk → Prop} {r r₁ r₂ : Recorder} {es es' : List Event}

theorem single (h : Step M r es r₁) : Course M r es r₁ := by
  have hone := Course.step h (.done r₁)
  rwa [List.append_nil] at hone

theorem trans (h : Course M r es r₁) (h' : Course M r₁ es' r₂) : Course M r (es ++ es') r₂ := by
  induction h with
  | done r => exact h'
  | step first rest ih =>
      rw [List.append_assoc]
      exact .step first (ih h')

end Course

namespace Sink

theorem number_given {e : Event} (h : Host) (hseq : e.seq ≠ 0) : number e h = (e, h) := if_neg hseq

theorem number_next {e : Event} (h : Host) (hseq : e.seq = 0) :
    number e h = (e.numbered h, { h with seq := h.seq + 1 }) := if_pos hseq

theorem write_counts (o : Outlet) (line : Bytes) (h : Host) :
    (o.write line h).2.seq = h.seq ∧ (o.write line h).2.spans = h.spans := by
  cases o with
  | memory m => exact ⟨rfl, rfl⟩
  | stderr => exact ⟨rfl, rfl⟩
  | file path place offset closed => cases closed <;> exact ⟨rfl, rfl⟩

mutual

/-- No sink renumbers an event that has a number. -/
theorem emit_counts {e : Event} (hseq : e.seq ≠ 0) (h : Host) : (s : Sink) →
    (s.emit e h).2.2.seq = h.seq ∧ (s.emit e h).2.2.spans = h.spans
  | .silent => ⟨rfl, rfl⟩
  | .stream l f o => by
      unfold emit
      rw [number_given h hseq]
      split
      · exact write_counts o (e.render f) h
      · exact ⟨rfl, rfl⟩
  | .ring r => by
      unfold emit
      rw [number_given h hseq]
      split <;> exact ⟨rfl, rfl⟩
  | .fan l sinks => by
      unfold emit
      rw [number_given h hseq]
      exact emitAll_counts hseq h sinks

theorem emitAll_counts {e : Event} (hseq : e.seq ≠ 0) (h : Host) : (sinks : List Sink) →
    (emitAll e h sinks).2.seq = h.seq ∧ (emitAll e h sinks).2.spans = h.spans
  | [] => ⟨rfl, rfl⟩
  | s :: rest => by
      obtain ⟨hfirst, hfirst'⟩ := emit_counts hseq h s
      obtain ⟨hrest, hrest'⟩ := emitAll_counts hseq (s.emit e h).2.2 rest
      exact ⟨hrest.trans hfirst, hrest'.trans hfirst'⟩

end

theorem emit_stream {e : Event} {l : Level} {f : Format} {o : Outlet} (hseq : e.seq = 0)
    (hadmits : (stream l f o).level.admits e = true) (h : Host) :
    (stream l f o).emit e h = (e.numbered h,
      stream l f (o.write ((e.numbered h).render f) { h with seq := h.seq + 1 }).1,
      (o.write ((e.numbered h).render f) { h with seq := h.seq + 1 }).2) := by
  change l.admits e = true at hadmits
  unfold emit
  rw [if_pos hadmits, number_next h hseq]

theorem emit_ring {e : Event} {r : Ring} (hseq : e.seq = 0) (hadmits : (ring r).level.admits e = true)
    (h : Host) : (ring r).emit e h = (e, ring (r.push (e.numbered h)), { h with seq := h.seq + 1 }) := by
  change r.level.admits e = true at hadmits
  unfold emit
  rw [if_pos hadmits, number_next h hseq]

theorem emit_level (e : Event) (h : Host) (s : Sink) : (s.emit e h).2.1.level = s.level := by
  cases s with
  | silent => rfl
  | stream l f o =>
      unfold emit
      split <;> rfl
  | ring r =>
      unfold emit
      split
      · exact r.level_push _
      · rfl
  | fan l sinks => rfl

theorem emit_admitted {e : Event} (hseq : e.seq = 0) (h : Host) {s : Sink}
    (hadmits : s.level.admits e = true) :
    (s.emit e h).2.2.seq = h.seq + 1 ∧ (s.emit e h).2.2.spans = h.spans := by
  cases s with
  | silent =>
      unfold Level.admits at hadmits
      split at hadmits <;> cases hadmits
  | stream l f o =>
      rw [emit_stream hseq hadmits h]
      exact write_counts o _ { h with seq := h.seq + 1 }
  | ring r =>
      rw [emit_ring hseq hadmits h]
      exact ⟨rfl, rfl⟩
  | fan l sinks =>
      unfold emit
      rw [number_next h hseq]
      exact emitAll_counts (Nat.succ_ne_zero h.seq) { h with seq := h.seq + 1 } sinks

end Sink

section Counts

variable {M : Disk → Disk → Prop} {r r' : Recorder} {es : List Event}

theorem Step.level (h : Step M r es r') : r'.sink.level = r.sink.level := by
  cases h with
  | disk d => rfl
  | records e => exact Sink.emit_level e _ r.sink

theorem Course.level (h : Course M r es r') : r'.sink.level = r.sink.level := by
  induction h with
  | done r => rfl
  | step first rest ih => exact ih.trans first.level

theorem Step.seq (h : Step M r es r') :
    r'.host.seq = r.host.seq + es.length ∧ es.map (·.seq) = List.range' (r.host.seq + 1) es.length := by
  cases h with
  | disk d => exact ⟨rfl, rfl⟩
  | records e hseq hadmits => exact ⟨(Sink.emit_admitted hseq _ hadmits).1, rfl⟩

theorem Course.seq (h : Course M r es r') :
    r'.host.seq = r.host.seq + es.length ∧ es.map (·.seq) = List.range' (r.host.seq + 1) es.length := by
  induction h with
  | done r => exact ⟨rfl, rfl⟩
  | @step r r₁ r₂ es es' first rest ih =>
      obtain ⟨hfirst, hnumbers⟩ := first.seq
      obtain ⟨hrest, hnumbers'⟩ := ih
      rw [List.length_append, List.map_append, hnumbers, hnumbers', hrest, hfirst, ← List.range'_append_1]
      exact ⟨by omega, by rw [Nat.add_right_comm]⟩

theorem Step.spans (h : Step M r es r') :
    r'.host.spans = r.host.spans + (spansBegun es).length ∧
      spansBegun es = List.range' (r.host.spans + 1) (spansBegun es).length := by
  cases h with
  | disk d => exact ⟨rfl, rfl⟩
  | records e hseq hadmits hspan =>
      have hspans : (Recorder.emit e { r with host := r.host.counting e }).2.host.spans =
          if e.kind = .begin_ then r.host.spans + 1 else r.host.spans :=
        (Sink.emit_admitted hseq (r.host.counting e) hadmits).2
      rw [hspans]
      by_cases hkind : e.kind = .begin_
      · simp [spansBegun, Event.numbered, hkind, hspan hkind]
      · simp [spansBegun, Event.numbered, hkind]

/-- Spans are numbered one by one, from the first number not given yet. -/
theorem Course.spans (h : Course M r es r') :
    r'.host.spans = r.host.spans + (spansBegun es).length ∧
      spansBegun es = List.range' (r.host.spans + 1) (spansBegun es).length := by
  induction h with
  | done r => exact ⟨rfl, rfl⟩
  | @step r r₁ r₂ es es' first rest ih =>
      obtain ⟨hfirst, hids⟩ := first.spans
      obtain ⟨hrest, hids'⟩ := ih
      rw [hfirst, Nat.add_right_comm] at hids'
      rw [spansBegun_append, List.length_append, ← List.range'_append_1, ← hids, ← hids']
      exact ⟨by omega, rfl⟩

theorem Course.spansBegun_fresh (h : Course M r es r') :
    (spansBegun es).Nodup ∧ ∀ i ∈ spansBegun es, r.host.spans < i := by
  rw [h.spans.2]
  refine ⟨List.nodup_range', ?_⟩
  intro i hi
  exact (List.mem_range'_1.mp hi).1

end Counts

section Kept

variable {M : Disk → Disk → Prop} {r r' : Recorder} {es : List Event}

theorem Step.ring {ring : Ring} (h : Step M r es r') (hr : r.sink = .ring ring) :
    r'.sink = .ring (es.foldl Ring.push ring) := by
  cases h with
  | disk d => exact hr
  | records e hseq hadmits =>
      rw [hr] at hadmits
      simp only [Recorder.emit, hr, Sink.emit_ring hseq hadmits]
      rfl

theorem Course.ring {ring : Ring} (h : Course M r es r') (hr : r.sink = .ring ring) :
    r'.sink = .ring (es.foldl Ring.push ring) := by
  induction h generalizing ring with
  | done r => exact hr
  | step first rest ih =>
      rw [List.foldl_append]
      exact ih (first.ring hr)

def rendered (f : Format) (es : List Event) : Bytes := es.flatMap (Event.render f)

theorem Step.memory {l : Level} {f : Format} {m : Memory} (h : Step M r es r')
    (hr : r.sink = .stream l f (.memory m)) (hm : m.writeError = []) :
    r'.sink = .stream l f (.memory { m with text := m.text ++ rendered f es }) := by
  cases h with
  | disk d => simpa [rendered] using hr
  | records e hseq hadmits =>
      rw [hr] at hadmits
      simp [Recorder.emit, hr, Sink.emit_stream hseq hadmits, Outlet.write, hm, rendered, Event.numbered,
        Host.counting]

theorem Course.memory {l : Level} {f : Format} {m : Memory} (h : Course M r es r')
    (hr : r.sink = .stream l f (.memory m)) (hm : m.writeError = []) :
    r'.sink = .stream l f (.memory { m with text := m.text ++ rendered f es }) := by
  induction h generalizing m with
  | done r => simpa [rendered] using hr
  | step first rest ih =>
      have hrest := ih (first.memory hr hm) hm
      rwa [List.append_assoc, rendered, rendered, ← List.flatMap_append] at hrest

theorem Step.stderr {l : Level} {f : Format} (h : Step M r es r') (hr : r.sink = .stream l f .stderr) :
    r'.sink = .stream l f .stderr ∧ r'.host.stderr = r.host.stderr ++ rendered f es := by
  cases h with
  | disk d => simpa [rendered] using hr
  | records e hseq hadmits =>
      rw [hr] at hadmits
      simp [Recorder.emit, hr, Sink.emit_stream hseq hadmits, Outlet.write, rendered, Event.numbered,
        Host.counting]

theorem Course.stderr {l : Level} {f : Format} (h : Course M r es r') (hr : r.sink = .stream l f .stderr) :
    r'.sink = .stream l f .stderr ∧ r'.host.stderr = r.host.stderr ++ rendered f es := by
  induction h with
  | done r => simpa [rendered] using hr
  | step first rest ih =>
      obtain ⟨hsink, hfirst⟩ := first.stderr hr
      obtain ⟨hsink', hrest⟩ := ih hsink
      rw [hfirst, List.append_assoc, rendered, rendered, ← List.flatMap_append] at hrest
      exact ⟨hsink', hrest⟩

end Kept

/-- A computation under a level records events that can be followed from the open spans `bs`; its result and
the spans open afterwards satisfy `Q`. -/
def Narrates {α : Type} (M : Disk → Disk → Prop) (l : Level) (bs : List Bracket) (x : Recorded α)
    (Q : α → List Bracket → Prop) : Prop :=
  ∀ r, r.sink.level = l → ∃ es bs', Course M r es (x r).2 ∧ follow bs es = some bs' ∧ Q (x r).1 bs'

section Narration

variable {M : Disk → Disk → Prop} {α β : Type} {l : Level} {bs bs' : List Bracket}

theorem Narrates.bind {x : Recorded α} {f : α → Recorded β} {Q : α → List Bracket → Prop}
    {R : β → List Bracket → Prop} (hx : Narrates M l bs x Q)
    (hf : ∀ a bs', Q a bs' → Narrates M l bs' (f a) R) : Narrates M l bs (x >>= f) R := by
  intro r hr
  obtain ⟨es, bs₁, hcourse, hfollow, hQ⟩ := hx r hr
  obtain ⟨es', bs₂, hcourse', hfollow', hR⟩ := hf _ _ hQ (x r).2 (hcourse.level.trans hr)
  refine ⟨es ++ es', bs₂, hcourse.trans hcourse', ?_, hR⟩
  rw [follow_append hfollow]
  exact hfollow'

theorem narrates_pure {a : α} {Q : α → List Bracket → Prop} (h : Q a bs) :
    Narrates M l bs (pure a : Recorded α) Q := by
  intro r _
  exact ⟨[], bs, .done r, rfl, h⟩

theorem narrates_get {f : Recorder → Recorded α} {Q : α → List Bracket → Prop}
    (h : ∀ r, r.sink.level = l → Narrates M l bs (f r) Q) : Narrates M l bs (get >>= f) Q := by
  intro r hr
  exact h r hr r hr

/-- The spans that are open are the same again. -/
def Restores {α : Type} (M : Disk → Disk → Prop) (l : Level) (bs : List Bracket) (x : Recorded α) : Prop :=
  Narrates M l bs x fun _ bs' => bs' = bs

theorem Restores.bind {x : Recorded α} {f : α → Recorded β} {Q : β → List Bracket → Prop}
    (hx : Restores M l bs x) (hf : ∀ a, Narrates M l bs (f a) Q) : Narrates M l bs (x >>= f) Q := by
  refine Narrates.bind hx ?_
  rintro a bs' rfl
  exact hf a

theorem restores_pure (a : α) : Restores M l bs (pure a : Recorded α) := narrates_pure rfl

theorem narrates_emit {e : Event} (hseq : e.seq = 0) (hadmits : l.admits e = true)
    (hkind : e.kind ≠ .begin_) (hopen : openAfter bs e = some bs') :
    Narrates M l bs (Recorder.emit e) fun _ bs => bs = bs' := by
  intro r hr
  rw [← hr] at hadmits
  have hstep := Step.records (M := M) r e hseq hadmits fun hbegin => absurd hbegin hkind
  have hhost : r.host.counting e = r.host := by simp [Host.counting, hkind]
  rw [hhost] at hstep
  refine ⟨_, bs', .single hstep, ?_, rfl⟩
  change (openAfter bs e >>= fun bs => follow bs []) = some bs'
  rw [hopen]
  rfl

theorem enabled_of_shows {scope : Scope} (h : l.shows scope = true) : l.enabled = true := by
  cases l with
  | off => cases h
  | _ => rfl

theorem shows_eq {r : Recorder} (hr : r.sink.level = l) (scope : Scope) :
    r.shows scope = l.shows scope := by
  unfold Recorder.shows Sink.enabled
  rw [hr]
  cases hscope : l.shows scope with
  | false => exact Bool.and_false _
  | true => rw [enabled_of_shows hscope, Bool.and_true]

/-- How things stand inside a span begun under the innermost open one: the span is open itself, or the level
hides it. -/
inductive Inside (l : Level) (scope : Scope) (bs : List Bracket) : Span → List Bracket → Prop
  | shown (s : Span) (hlevel : l.shows scope = true) (hscope : s.scope = scope) (hlive : s.live = true)
      (hid : s.id ≠ 0) : Inside l scope bs s (s.bracket :: bs)
  | hidden (hlevel : l.shows scope = false) : Inside l scope bs {} bs

theorem Inside.under {scope : Scope} {s : Span} (h : Inside l scope bs s bs') :
    s.under (innermost bs) = innermost bs' := by
  cases h with
  | shown s hlevel hscope hlive hid => exact if_neg hid
  | hidden => exact if_pos rfl

/-- The span is its own parent number, also where it is hidden and nothing is open around it. -/
theorem Inside.id_eq {scope : Scope} {s : Span} (h : Inside l scope bs s bs')
    (hbs : l.shows scope = true ∨ innermost bs = 0) : s.id = innermost bs' := by
  cases h with
  | shown => rfl
  | hidden hlevel =>
      rcases hbs with hshown | hnone
      · exact absurd (hlevel.symm.trans hshown) Bool.false_ne_true
      · exact hnone.symm

theorem narrates_begin (scope : Scope) (name : Bytes) :
    Narrates M l bs (Recorder.begin_ scope name (innermost bs)) (Inside l scope bs) := by
  intro r hr
  have hshows := shows_eq hr scope
  unfold Recorder.begin_
  rw [Recorded.bind_apply, Recorded.get_apply, hshows]
  by_cases h : l.shows scope = true
  · rw [if_pos h]
    have hadmits : r.sink.level.admits { time := r.host.now, kind := .begin_, scope, name
                                         span := r.host.spans + 1, parent := innermost bs } = true := by
      rw [hr]
      exact h
    refine ⟨_, _, .single (.records r _ rfl hadmits fun _ => rfl), ?_,
      .shown { id := r.host.spans + 1, parent := innermost bs, scope, name, live := true } h rfl rfl
        (Nat.succ_ne_zero _)⟩
    simp [follow, openAfter, Event.numbered, Event.bracket, Span.bracket]
  · rw [if_neg h]
    exact narrates_pure (.hidden (Bool.eq_false_iff.mpr h)) r hr

/-- The end of a span restores what was open around it, whatever is remarked on the span. -/
theorem narrates_end {scope : Scope} {s : Span} (h : Inside l scope bs s bs') (notes : Option Notes)
    (detail : Bytes) :
    Narrates M l bs' (Recorder.end_ { s with notes } detail) fun _ bs'' => bs'' = bs := by
  unfold Recorder.end_
  refine narrates_get fun r hr => ?_
  cases h with
  | shown s hlevel hscope hlive hid =>
      have hends : (s.live && r.sink.enabled) = true := by
        rw [hlive, Sink.enabled, hr, enabled_of_shows hlevel]
        rfl
      rw [if_pos hends]
      refine Narrates.bind (narrates_emit rfl ?_ nofun ?_) fun _ _ hbs => narrates_pure hbs
      · rw [← hscope] at hlevel
        exact hlevel
      · exact if_pos rfl
  | hidden hlevel => exact narrates_pure rfl

theorem restores_point (scope : Scope) (name detail : Bytes) {parent : Nat} (notes : Notes)
    (h : l.shows scope = true → parent = innermost bs) :
    Restores M l bs (Recorder.point scope name detail parent notes) := by
  unfold Recorder.point
  refine narrates_get fun r hr => ?_
  rw [shows_eq hr scope]
  split
  · next hshows =>
      refine Narrates.bind (narrates_emit rfl hshows nofun ?_) fun _ _ hbs => narrates_pure hbs
      exact if_pos (h hshows)
  · exact restores_pure ()

theorem restores_failure (scope : Scope) (name message : Bytes) :
    Restores M l bs (Recorder.failure scope name message (innermost bs)) := by
  unfold Recorder.failure
  refine narrates_get fun r hr => ?_
  rw [Sink.enabled, hr]
  split
  · next henabled =>
      refine Narrates.bind (narrates_emit rfl henabled nofun ?_) fun _ _ hbs => narrates_pure hbs
      exact if_pos rfl
  · exact restores_pure ()

theorem shows_mono {coarse fine : Scope} (hle : coarse.rank ≤ fine.rank) (h : l.shows fine = true) :
    l.shows coarse = true := by
  cases l with
  | phase => exact decide_eq_true (Nat.le_trans hle (of_decide_eq_true h))
  | detail => exact decide_eq_true (Nat.le_trans hle (of_decide_eq_true h))
  | debug => rfl
  | _ => cases h

theorem Log.restores_span {scope : Scope} {name : Bytes} {inner : List Log} (detail : Bytes) (notes : Notes)
    (h : ∀ s bs', Inside l scope bs s bs' → Restores M l bs' (Log.recordAll s.id inner)) :
    Restores M l bs (Log.record (innermost bs) (.span scope name inner detail notes)) := by
  unfold Log.record
  refine (narrates_begin scope name).bind fun s bs' hs => ?_
  exact (h s bs' hs).bind fun _ => narrates_end hs _ detail

theorem Log.restores_recordAll {parent : Nat} {logs : List Log}
    (h : ∀ log ∈ logs, Restores M l bs (Log.record parent log)) : Restores M l bs (Log.recordAll parent logs) := by
  induction logs with
  | nil =>
      unfold Log.recordAll
      exact restores_pure ()
  | cons log rest ih =>
      unfold Log.recordAll
      refine (h log List.mem_cons_self).bind fun _ => ih ?_
      intro log' hlog'
      exact h log' (List.mem_cons_of_mem log hlog')

end Narration

end FlowBlocks.Trace
