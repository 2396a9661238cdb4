import FlowBlocks.Trace.Span
/-!
Logs: what a computation has to say, as a tree that does not depend on any level or sink. Recording a log
is a walk over it.
-/
namespace FlowBlocks.Trace

/-- A log entry. A span holds the entries inside it, and the detail and remarks of its end. -/
inductive Log
  | span (scope : Scope) (name : Bytes) (inner : List Log) (detail : Bytes) (notes : Notes)
  | point (scope : Scope) (name detail : Bytes) (notes : Notes)
  | failure (scope : Scope) (name message : Bytes)

namespace Log

mutual

/-- Records a log under a parent. Entries inside a span have that span as parent, also where the level
does not show it and its number is 0. -/
def record (parent : Nat) : Log → Recorded Unit
  | .span scope name inner detail notes => do
    let s ← Recorder.begin_ scope name parent
    recordAll s.id inner
    Recorder.end_ { s with notes := if notes.isEmpty then none else some notes } detail
  | .point scope name detail notes => Recorder.point scope name detail parent notes
  | .failure scope name message => Recorder.failure scope name message parent

def recordAll (parent : Nat) : List Log → Recorded Unit
  | [] => pure ()
  | l :: rest => do
    record parent l
    recordAll parent rest

end

end Log

end FlowBlocks.Trace
