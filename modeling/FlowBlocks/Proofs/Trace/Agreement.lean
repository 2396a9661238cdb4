import FlowBlocks.Proofs.Trace.Told
import FlowBlocks.Trace.Setup
/-!
Stream and ring agree. A sink that both streams and keeps hands every event to a stream and to a ring; as long
as no remark is made on a span that has ended, what the ring holds is what the stream printed last. A remark
that comes too late would reach the events that the ring holds and not the lines that are printed already.
-/
namespace FlowBlocks.Trace

/-- A call on a recorder. A span is named by its place among the spans begun so far. -/
inductive Call
  | begin_ (scope : Scope) (name : Bytes) (parent : Nat)
  | end_ (span : Nat) (detail : Bytes)
  | note (span : Nat) (key value : Bytes)
  | point (scope : Scope) (name detail : Bytes) (parent : Nat) (notes : Notes)
  | failure (scope : Scope) (name message : Bytes) (parent : Nat)
deriving DecidableEq, Repr

namespace Call

/-- Makes a call, given the spans begun so far; ends with the spans as they are then. A place at which no
span stands names none, and calls on it do nothing. -/
def make (spans : List Span) : Call → Recorded (List Span)
  | .begin_ scope name parent => do
    let s ← Recorder.begin_ scope name parent
    return spans ++ [s]
  | .end_ i detail => do
    Recorder.end_ (spans.getD i {}) detail
    return spans
  | .note i key value => do
    let s ← Recorder.note (spans.getD i {}) key value
    return spans.set i s
  | .point scope name detail parent notes => do
    Recorder.point scope name detail parent notes
    return spans
  | .failure scope name message parent => do
    Recorder.failure scope name message parent
    return spans

/-- Makes calls one after the other, with no span begun before. -/
def makeAll (calls : List Call) : Recorded (List Span) := calls.foldlM make []

/-- A remark on a span that an earlier call ended. -/
def tooLate (earlier later : Call) : Bool :=
  match earlier, later with
  | .end_ i _, .note j _ _ => i == j
  | _, _ => false

/-- No remark is made on a span that has ended. -/
def Timely (calls : List Call) : Prop := calls.Pairwise fun earlier later => tooLate earlier later = false

instance (calls : List Call) : Decidable (Timely calls) := inferInstanceAs (Decidable (List.Pairwise _ _))

end Call

/-- The span at a place is live and has a number. -/
def Numbered (spans : List Span) (i id : Nat) : Prop := ∃ s, spans[i]? = some s ∧ s.live = true ∧ s.id = id

/-- Spans and a ring after calls: live spans are shown and have distinct numbers, the last of which is `given`;
and an event in the ring that remarks could still reach is the end of a span that some call ended. -/
structure Tidy (l : Level) (past : List Call) (spans : List Span) (ring : Ring) (given : Nat) : Prop where
  shown : ∀ s ∈ spans, s.live = true → l.shows s.scope = true
  bounded : ∀ i id, Numbered spans i id → id ≤ given
  distinct : ∀ i j id, Numbered spans i id → Numbered spans j id → i = j
  ended : ∀ e ∈ ring.events, e.shared = true → ∃ i detail, .end_ i detail ∈ past ∧ Numbered spans i e.span

section Spans

variable {l : Level} {past past' : List Call} {spans : List Span} {ring : Ring} {given i j id : Nat} {s : Span}

theorem numbered_concat : Numbered (spans ++ [s]) i id ↔
    Numbered spans i id ∨ i = spans.length ∧ s.live = true ∧ s.id = id := by
  unfold Numbered
  rcases Nat.lt_trichotomy i spans.length with hlt | rfl | hgt
  · rw [List.getElem?_append_left hlt]
    simp [Nat.ne_of_lt hlt]
  · simp
  · rw [List.getElem?_eq_none (by simpa using Nat.succ_le_of_lt hgt), List.getElem?_eq_none (Nat.le_of_lt hgt)]
    simp [Nat.ne_of_gt hgt]

theorem numbered_set {t : Span} (hs : spans[j]? = some s) (hlive : t.live = s.live) (hid : t.id = s.id) :
    Numbered (spans.set j t) i id ↔ Numbered spans i id := by
  unfold Numbered
  by_cases hij : j = i
  · subst hij
    have hlt : j < spans.length := (List.getElem?_eq_some_iff.mp hs).1
    simp [List.getElem?_set_self hlt, hs, hlive, hid]
  · rw [List.getElem?_set_ne hij]

theorem Ring.mem_foldl_push {es : List Event} {e : Event} (h : e ∈ (es.foldl Ring.push ring).events) :
    e ∈ ring.events ∨ e ∈ es := by
  rw [Ring.events_foldl] at h
  exact List.mem_append.mp (List.mem_of_mem_drop h)

/-- Remarks on a span reach no event if none that takes remarks is of that span. -/
theorem Ring.annotate_eq_self (h : ∀ e ∈ ring.events, e.shared = true → e.span ≠ id) (key value : Bytes) :
    ring.annotate id key value = ring := by
  have hslots : ∀ e ∈ ring.slots, (if e.shared && e.span == id then
      { e with notes := e.notes.set key value } else e) = e := by
    intro e he
    refine if_neg ?_
    rw [Bool.and_eq_true, beq_iff_eq]
    rintro ⟨hshared, hspan⟩
    exact h e (Ring.mem_events.mpr he) hshared hspan
  have hmap := (List.map_congr_left hslots).trans (List.map_id' ring.slots)
  simp only [Ring.annotate, hmap]

/-- Of what is recorded only the ends of spans matter, and those are of spans that a call ends. -/
theorem Tidy.record {es : List Event} {given' : Nat} (h : Tidy l past spans ring given)
    (hpast : past ⊆ past') (hle : given ≤ given')
    (hes : ∀ e ∈ es, e.shared = true → ∃ i detail, .end_ i detail ∈ past' ∧ Numbered spans i e.span) :
    Tidy l past' spans (es.foldl Ring.push ring) given' := by
  refine ⟨h.shown, ?_, h.distinct, ?_⟩
  · intro i id hi
    exact Nat.le_trans (h.bounded i id hi) hle
  · intro e he hshared
    rcases Ring.mem_foldl_push he with hold | hnew
    · obtain ⟨i, detail, hmem, hi⟩ := h.ended e hold hshared
      exact ⟨i, detail, hpast hmem, hi⟩
    · exact hes e hnew hshared

/-- A span that is begun gets a number beyond those given before. -/
theorem Tidy.begun {given' : Nat} (h : Tidy l past spans ring given) (hle : given ≤ given')
    (hs : s.live = true → l.shows s.scope = true ∧ given < s.id ∧ s.id ≤ given') :
    Tidy l past (spans ++ [s]) ring given' := by
  refine ⟨?_, ?_, ?_, ?_⟩
  · intro t ht hlive
    rcases List.mem_append.mp ht with ht | ht
    · exact h.shown t ht hlive
    · rw [List.mem_singleton.mp ht] at hlive ⊢
      exact (hs hlive).1
  · intro i id hi
    rcases numbered_concat.mp hi with hi | ⟨-, hlive, rfl⟩
    · exact Nat.le_trans (h.bounded i id hi) hle
    · exact (hs hlive).2.2
  · intro i j id hi hj
    rcases numbered_concat.mp hi with hi | ⟨rfl, hlive, rfl⟩ <;>
      rcases numbered_concat.mp hj with hj | ⟨rfl, hlive', hid⟩
    · exact h.distinct i j id hi hj
    · exact absurd (h.bounded i id hi) (Nat.not_le_of_gt (hid ▸ (hs hlive').2.1))
    · exact absurd (h.bounded j s.id hj) (Nat.not_le_of_gt (hs hlive).2.1)
    · rfl
  · intro e he hshared
    obtain ⟨i, detail, hmem, hi⟩ := h.ended e he hshared
    exact ⟨i, detail, hmem, numbered_concat.mpr (Or.inl hi)⟩

/-- Remarks on a span change nothing that is asked of it. -/
theorem Tidy.noted (h : Tidy l past spans ring given) (hs : spans[j]? = some s) (key value : Bytes) :
    Tidy l past (spans.set j (s.noting key value)) ring given := by
  have hset : ∀ i id, Numbered (spans.set j (s.noting key value)) i id ↔ Numbered spans i id :=
    fun i id => numbered_set hs rfl rfl
  refine ⟨?_, ?_, ?_, ?_⟩
  · intro t ht hlive
    rcases List.mem_or_eq_of_mem_set ht with ht | rfl
    · exact h.shown t ht hlive
    · exact h.shown s (List.mem_of_getElem? hs) hlive
  · intro i id hi
    exact h.bounded i id ((hset i id).mp hi)
  · intro i j id hi hj
    exact h.distinct i j id ((hset i id).mp hi) ((hset j id).mp hj)
  · intro e he hshared
    obtain ⟨i, detail, hmem, hi⟩ := h.ended e he hshared
    exact ⟨i, detail, hmem, (hset i e.span).mpr hi⟩

/-- A place that names a live span is one at which that span stands. -/
theorem getElem?_of_live (hlive : (spans.getD i {}).live = true) : spans[i]? = some (spans.getD i {}) := by
  cases hi : spans[i]? with
  | none =>
      rw [List.getD_eq_getElem?_getD, hi] at hlive
      cases hlive
  | some s => rw [List.getD_eq_getElem?_getD, hi, Option.getD_some]

theorem set_getD (spans : List Span) (i : Nat) : spans.set i (spans.getD i {}) = spans := by
  rcases Nat.lt_or_ge i spans.length with hlt | hge
  · rw [List.getD_eq_getElem?_getD, List.getElem?_eq_getElem hlt, Option.getD_some, List.set_getElem_self]
  · exact List.set_eq_of_length_le hge

end Spans

section Runs

variable {l : Level} {f : Format} {o : Outlet} {ring : Ring} {past : List Call} {spans : List Span} {r : Recorder}

theorem not_shared_of_told {e e' : Event} {h : Host} (he : e ∈ told l h e') (hshared : e'.shared = false) :
    e.shared = false := by
  unfold told at he
  split at he
  · rw [List.mem_singleton.mp he]
    exact hshared
  · cases he

theorem Course.spans_le {M : Disk → Disk → Prop} {r' : Recorder} {es : List Event} (h : Course M r es r') :
    r.host.spans ≤ r'.host.spans := by
  rw [h.spans.1]
  exact Nat.le_add_right _ _

/-- An event that takes no later remarks may always be told. -/
theorem Tidy.unshared {e : Event} {given given' : Nat} (h : Tidy l past spans ring given)
    (hshared : e.shared = false) (hle : given ≤ given') (call : Call) (host : Host) :
    Tidy l (past ++ [call]) spans ((told l host e).foldl Ring.push ring) given' := by
  refine h.record (List.subset_append_left _ _) hle ?_
  intro e' he' hshared'
  rw [not_shared_of_told he' hshared] at hshared'
  cases hshared'

theorem Tidy.step_begin (h : Tidy l past spans ring r.host.spans) (hlevel : r.sink.level = l) (scope : Scope)
    (name : Bytes) (parent : Nat) :
    ∃ es, Course Untouched r es (Recorder.begin_ scope name parent r).2 ∧
      Tidy l (past ++ [.begin_ scope name parent]) (spans ++ [(Recorder.begin_ scope name parent r).1])
        (es.foldl Ring.push ring) (Recorder.begin_ scope name parent r).2.host.spans := by
  have hcourse := course_begin (M := Untouched) r scope name parent
  rw [hlevel] at hcourse
  have hkept := h.unshared (e := beginEvent r scope name parent) rfl (Nat.le_refl _)
    (.begin_ scope name parent) r.host
  refine ⟨_, hcourse, hkept.begun hcourse.spans_le ?_⟩
  have hspans := hcourse.spans.1
  cases hshows : l.shows scope with
  | false =>
      have hhidden : (Recorder.begin_ scope name parent r).1 = {} := by
        rw [Recorder.begin_apply, shows_eq hlevel scope, hshows]
        rfl
      rw [hhidden]
      nofun
  | true =>
      have hlive : (Recorder.begin_ scope name parent r).1 =
          { id := r.host.spans + 1, parent, scope, name, live := true } := by
        rw [Recorder.begin_apply, shows_eq hlevel scope, hshows]
        rfl
      have htold : told l r.host (beginEvent r scope name parent) =
          [(beginEvent r scope name parent).numbered r.host] := if_pos hshows
      rw [htold] at hspans
      rw [hlive]
      exact fun _ => ⟨hshows, Nat.lt_succ_self _, Nat.le_of_eq hspans.symm⟩

theorem Tidy.step_end (h : Tidy l past spans ring r.host.spans) (hlevel : r.sink.level = l) (i : Nat)
    (detail : Bytes) :
    ∃ es, Course Untouched r es (Recorder.end_ (spans.getD i {}) detail r).2 ∧
      Tidy l (past ++ [.end_ i detail]) spans (es.foldl Ring.push ring)
        (Recorder.end_ (spans.getD i {}) detail r).2.host.spans := by
  have hshows : (spans.getD i {}).live = true → r.sink.level.shows (spans.getD i {}).scope = true := by
    intro hlive
    rw [hlevel]
    exact h.shown _ (List.mem_of_getElem? (getElem?_of_live hlive)) hlive
  have hcourse := course_end (M := Untouched) r hshows detail
  refine ⟨_, hcourse, h.record (List.subset_append_left _ _) hcourse.spans_le ?_⟩
  intro e he hshared
  split at he
  · next hlive =>
      rw [List.mem_singleton.mp he]
      exact ⟨i, detail, List.mem_append_right _ List.mem_cons_self, _, getElem?_of_live hlive, hlive, rfl⟩
  · cases he

/-- No event in the ring is of a span that is yet to end. -/
theorem Tidy.step_note (hb : Both l f o ring r) (h : Tidy l past spans ring r.host.spans) (i : Nat)
    (key value : Bytes) (hcall : ∀ earlier ∈ past, earlier.tooLate (.note i key value) = false) :
    (Recorder.note (spans.getD i {}) key value r).2 = r ∧
      Tidy l (past ++ [.note i key value]) (spans.set i (Recorder.note (spans.getD i {}) key value r).1) ring
        r.host.spans := by
  have hlater : Tidy l (past ++ [.note i key value]) spans ([].foldl Ring.push ring) r.host.spans :=
    h.record (List.subset_append_left _ _) (Nat.le_refl _) nofun
  rw [List.foldl_nil] at hlater
  rw [Recorder.note_apply]
  cases hlive : (spans.getD i {}).live with
  | false =>
      rw [if_neg Bool.false_ne_true, set_getD]
      exact ⟨rfl, hlater⟩
  | true =>
      have hplace := getElem?_of_live hlive
      -- An event that the remark would reach is the end of this very span, as numbers are given once.
      have hring : ring.annotate (spans.getD i {}).id key value = ring := by
        refine Ring.annotate_eq_self ?_ key value
        intro e he hshared hspan
        obtain ⟨j, detail, hmem, hj⟩ := h.ended e he hshared
        have hij : j = i := h.distinct j i e.span hj ⟨_, hplace, hlive, hspan.symm⟩
        have hlate := hcall _ hmem
        rw [hij] at hlate
        simp [Call.tooLate] at hlate
      have hsink : r.sink.annotate (spans.getD i {}).id key value = r.sink := by
        rw [hb.sink]
        simp only [Sink.annotate, Sink.annotateAll, hring]
      rw [if_pos rfl, hsink]
      exact ⟨rfl, hlater.noted hplace key value⟩

/-- What a call records, and that it leaves spans and ring in order, unless it is a remark too late. -/
theorem Tidy.step {call : Call} (hb : Both l f o ring r) (h : Tidy l past spans ring r.host.spans)
    (hcall : ∀ earlier ∈ past, earlier.tooLate call = false) :
    ∃ es, Course Untouched r es (call.make spans r).2 ∧
      Tidy l (past ++ [call]) (call.make spans r).1 (es.foldl Ring.push ring)
        (call.make spans r).2.host.spans := by
  have hlevel : r.sink.level = l := by
    rw [hb.sink]
    rfl
  cases call with
  | begin_ scope name parent => exact h.step_begin hlevel scope name parent
  | end_ i detail => exact h.step_end hlevel i detail
  | note i key value =>
      obtain ⟨hsame, hnoted⟩ := h.step_note hb i key value hcall
      change ∃ es, Course Untouched r es (Recorder.note (spans.getD i {}) key value r).2 ∧
        Tidy l _ (spans.set i (Recorder.note (spans.getD i {}) key value r).1) _
          (Recorder.note (spans.getD i {}) key value r).2.host.spans
      rw [hsame]
      exact ⟨[], .done r, hnoted⟩
  | point scope name detail parent notes =>
      have hcourse := course_point (M := Untouched) r scope name parent detail notes
      rw [hlevel] at hcourse
      exact ⟨_, hcourse, h.unshared rfl hcourse.spans_le _ _⟩
  | failure scope name message parent =>
      have hcourse := course_failure (M := Untouched) r scope name parent message
      rw [hlevel] at hcourse
      exact ⟨_, hcourse, h.unshared rfl hcourse.spans_le _ _⟩

/-- Calls one after the other, by what each of them leaves behind. -/
theorem Tidy.run {calls : List Call} (hb : Both l f o ring r) (h : Tidy l past spans ring r.host.spans)
    (htimely : Call.Timely (past ++ calls)) :
    ∃ es, Course Untouched r es (calls.foldlM Call.make spans r).2 := by
  -- The past grows by the call that is made, so that `Timely` speaks of both at every step.
  induction calls generalizing past spans ring o r with
  | nil => exact ⟨[], .done r⟩
  | cons call calls ih =>
      have hcall : ∀ earlier ∈ past, earlier.tooLate call = false := by
        intro earlier hmem
        exact (List.pairwise_append.mp htimely).2.2 earlier hmem call List.mem_cons_self
      obtain ⟨es, hcourse, htidy⟩ := h.step hb hcall
      obtain ⟨o', hb', -⟩ := hcourse.both hb
      rw [List.append_cons] at htimely
      obtain ⟨es', hcourse'⟩ := ih hb' htidy htimely
      rw [List.foldlM_cons, Recorded.bind_apply]
      exact ⟨es ++ es', hcourse.trans hcourse'⟩

end Runs

section Setup

variable {s : Setup} {given : Option Memory} {h h' : Host} {sink : Sink}

theorem Setup.outlet_works {o : Outlet} (hwriter : ∀ m, given = some m → m.writeError = [])
    (hopen : s.outlet given h = .ok (o, h')) : o.Works h' := by
  unfold Setup.outlet at hopen
  split at hopen
  · next m =>
      cases hopen
      exact hwriter m rfl
  · split at hopen
    · cases hopen
      trivial
    · split at hopen
      · cases hopen
      · next place disk hcreate =>
          cases hopen
          obtain ⟨-, hplace, rfl⟩ := Disk.create_eq hcreate
          exact ⟨rfl, [], Disk.node?_put_self _ _ _ hplace, rfl⟩

/-- A sink that both streams and keeps, as it is made. -/
theorem Setup.open_both (hmode : s.mode = .both) (hlevel : s.level ≠ .off)
    (hwriter : ∀ m, given = some m → m.writeError = []) (hopen : s.open_ given h = .ok (sink, h')) :
    ∃ o, Both s.level (if s.format = .auto then .ofPath s.path else s.format) o
      (.make s.capacity s.level) ⟨h', sink⟩ := by
  unfold Setup.open_ at hopen
  rw [if_neg hlevel, hmode] at hopen
  obtain ⟨⟨o, h₁⟩, houtlet, hsink⟩ := bind_eq_ok.mp hopen
  cases hsink
  exact ⟨o, rfl, rfl, Setup.outlet_works hwriter houtlet⟩

end Setup

theorem flatten_lines (f : Format) (ring : Ring) : (ring.lines f).flatten = rendered f ring.events := by
  rw [Ring.lines, rendered, List.flatMap_def]

theorem rendered_rtake_suffix (f : Format) (es : List Event) (n : Nat) :
    rendered f (es.rtake n) <:+ rendered f es := by
  refine ⟨rendered f (es.take (es.length - n)), ?_⟩
  rw [← rendered_append, List.rtake, List.take_append_drop]

/-- Stream and ring agree. Take a sink that both streams and keeps, made for any level that records and any
capacity, with lines of text and an outlet that works, and make any calls on it, but no remark on a span that
has ended. Then the stream gains the lines of some events, numbered one by one, and the ring holds the last
of these events, as many as there are or as have room; so its lines are the end of what the stream gained. -/
theorem stream_and_ring_agree {s : Setup} {given : Option Memory} {h h' : Host} {sink : Sink}
    (calls : List Call) (hmode : s.mode = .both) (hlevel : s.level ≠ .off)
    (hformat : s.format = .text ∨ s.format = .auto ∧ Format.ofPath s.path = .text)
    (hwriter : ∀ m, given = some m → m.writeError = []) (hopen : s.open_ given h = .ok (sink, h'))
    (htimely : Call.Timely calls) :
    ∃ (o o' : Outlet) (ring : Ring) (es : List Event),
      let after := (Call.makeAll calls ⟨h', sink⟩).2
      let held := min es.length (if s.capacity ≤ 0 then 4096 else s.capacity.toNat)
      sink = .fan s.level [.stream s.level .text o, .ring (.make s.capacity s.level)] ∧
      after.sink = .fan s.level [.stream s.level .text o', .ring ring] ∧
      o'.written after.host = o.written h' ++ rendered .text es ∧
      es.map (·.seq) = List.range' (h'.seq + 1) es.length ∧
      ring.events = es.rtake held ∧
      (ring.lines .text).flatten = rendered .text (es.rtake held) ∧
      (ring.lines .text).flatten <:+ rendered .text es := by
  have htext : (if s.format = .auto then .ofPath s.path else s.format) = Format.text := by
    rcases hformat with htext | ⟨hauto, htext⟩
    · rw [htext]
      rfl
    · rw [if_pos hauto, htext]
  obtain ⟨o, hb⟩ := Setup.open_both hmode hlevel hwriter hopen
  rw [htext] at hb
  have hstart : Tidy s.level [] [] (.make s.capacity s.level) h'.spans := by
    refine ⟨nofun, ?_, ?_, nofun⟩
    · rintro i id ⟨t, ht, -⟩
      cases ht
    · rintro i j id ⟨t, ht, -⟩
      cases ht
  obtain ⟨es, hcourse⟩ := hstart.run hb htimely
  obtain ⟨o', hb', hwritten⟩ := hcourse.both hb
  have hevents : (es.foldl Ring.push (.make s.capacity s.level)).events =
      es.rtake (min es.length (if s.capacity ≤ 0 then 4096 else s.capacity.toNat)) := by
    rw [Ring.events_foldl, Ring.events_make, List.nil_append, rtake_min]
    rfl
  refine ⟨o, o', _, es, hb.sink, hb'.sink, hwritten, hcourse.seq.2, hevents, ?_, ?_⟩
  · rw [flatten_lines, hevents]
  · rw [flatten_lines, hevents]
    exact rendered_rtake_suffix .text es _

/-- A span with a remark, a point inside it that is hidden at level `detail`, and a failure. -/
def failedStage : List Call :=
  [.begin_ .stage (bytes "cut") 0, .note 0 (bytes "blocks") (bytes "3"), .point .block (bytes "orphan") [] 1 [],
    .end_ 0 [], .failure .body (bytes "f") (bytes "no exit") 0]

/-- A stream beside a ring of two. -/
def streamAndPair : Sink := .fan .detail [.stream .detail .text (.memory {}), .ring (.make 2 .detail)]

/-- The ring has lost the begin of the span, which the stream still shows. -/
theorem failedStage_agrees :
    ∃ (o : Outlet) (ring : Ring) (es : List Event),
      let after := (Call.makeAll failedStage ⟨{}, streamAndPair⟩).2
      after.sink = .fan .detail [.stream .detail .text o, .ring ring] ∧
      o.written after.host = rendered .text es ∧ es.map (·.seq) = List.range' 1 es.length ∧
      ring.events.map (·.seq) = [2, 3] ∧ (ring.lines .text).flatten <:+ rendered .text es := by
  obtain ⟨o, o', ring, es, hsink, hafter, hwritten, hseq, -, -, hsuffix⟩ :=
    @stream_and_ring_agree ⟨.detail, .both, .text, [], 2⟩ (some {}) {} {} streamAndPair failedStage rfl nofun
      (Or.inl rfl) (by rintro m ⟨⟩; rfl) rfl (by decide)
  have hshown : (Call.makeAll failedStage ⟨{}, streamAndPair⟩).2.sink.ring?.map
      (fun ring => ring.events.map (·.seq)) = some [2, 3] := by decide +kernel
  generalize (Call.makeAll failedStage ⟨{}, streamAndPair⟩).2 = after at *
  cases hsink
  rw [hafter] at hshown
  exact ⟨o', ring, es, hafter, hwritten, hseq, Option.some.inj hshown, hsuffix⟩

end FlowBlocks.Trace
