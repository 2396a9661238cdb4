import FlowBlocks.Trace.Sink
/-!
Recording: spans that begin and end, points and failures. Whatever the level does not show is not
recorded; a span that is not shown has number 0 and leaves no trace.
-/
namespace FlowBlocks.Trace

/-- A host together with the sink that its events go to. -/
structure Recorder where
  host : Host := {}
  sink : Sink := .silent

abbrev Recorded := StateM Recorder

/-- A span. One that is not `live` is not recorded. -/
structure Span where
  id : Nat := 0
  parent : Nat := 0
  scope : Scope := ⟨0⟩
  name : Bytes := []
  live : Bool := false
  notes : Option Notes := none
deriving DecidableEq, Repr

/-- A span with a remark for its end. -/
def Span.noting (s : Span) (key value : Bytes) : Span :=
  { s with notes := some ((s.notes.getD []).set key value) }

namespace Recorder

/-- Hands an event to the sink, and tells its sequence number afterwards. -/
def emit (e : Event) : Recorded Nat := fun r =>
  let (e, sink, host) := r.sink.emit e r.host
  (e.seq, { host, sink })

def shows (r : Recorder) (s : Scope) : Bool := r.sink.enabled && r.sink.level.shows s

/-- Begins a span under a parent; 0 is no parent. -/
def begin_ (scope : Scope) (name : Bytes) (parent : Nat) : Recorded Span := do
  let r ← get
  if r.shows scope then
    let id := r.host.spans + 1
    set { r with host.spans := id }
    let _ ← emit { time := r.host.now, kind := .begin_, scope, span := id, parent, name }
    return { id, parent, scope, name, live := true }
  else return {}

def end_ (s : Span) (detail : Bytes) : Recorded Unit := do
  let r ← get
  if s.live && r.sink.enabled then
    let _ ← emit { time := r.host.now, kind := .end_, scope := s.scope, span := s.id, parent := s.parent
                   name := s.name, detail, notes := s.notes.getD [], shared := s.notes.isSome }

/-- Makes a remark on a span. Remarks made after the span ended still reach its end where rings hold it. -/
def note (s : Span) (key value : Bytes) : Recorded Span := do
  if s.live then
    modify fun r => { r with sink := r.sink.annotate s.id key value }
    return s.noting key value
  else return s

def point (scope : Scope) (name detail : Bytes) (parent : Nat) (notes : Notes) : Recorded Unit := do
  let r ← get
  if r.shows scope then
    let _ ← emit { time := r.host.now, kind := .point, scope, parent, name, detail, notes }

def failure (scope : Scope) (name message : Bytes) (parent : Nat) : Recorded Unit := do
  let r ← get
  if r.sink.enabled then
    let _ ← emit { time := r.host.now, kind := .error, scope, parent, name, detail := message }

end Recorder

/-- The parent of what happens inside a span: the span, or what was the parent around it where the span is
not recorded. -/
def Span.under (s : Span) (around : Nat) : Nat := if s.id = 0 then around else s.id

end FlowBlocks.Trace
