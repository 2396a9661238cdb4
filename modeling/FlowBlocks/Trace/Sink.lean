import FlowBlocks.Disk
import FlowBlocks.Trace.Ring
/-!
Sinks: where events go. A sink is silent, a stream that writes each event at once, a ring, or a fan that
hands every event to several sinks.
-/
namespace FlowBlocks.Trace

/-- What a run works on besides its own values: the disk, the standard error stream, the clock, and the
last sequence number and span number given. -/
structure Host where
  disk : Disk := {}
  stderr : Bytes := []
  now : Stamp := {}
  seq : Nat := 0
  spans : Nat := 0
deriving DecidableEq, Repr

/-- A text in memory that keeps account of what is done to it. An error text that is not empty makes the
operation fail with it. -/
structure Memory where
  text : Bytes := []
  calls : List Bytes := []
  writeError : Bytes := []
  flushError : Bytes := []
  closeError : Bytes := []
deriving DecidableEq, Repr

inductive Outlet
  | memory (m : Memory)
  | stderr
  | file (path : Bytes) (place : List Bytes) (offset : Nat) (closed : Bool)
deriving DecidableEq, Repr

namespace Outlet

/-- Writes a line. A failure is not reported: a broken trace must not stop the run. -/
def write (o : Outlet) (line : Bytes) (h : Host) : Outlet × Host :=
  match o with
  | .memory m =>
    (.memory (if m.writeError.isEmpty then { m with text := m.text ++ line } else m), h)
  | .stderr => (o, { h with stderr := h.stderr ++ line })
  | .file path place offset closed =>
    if closed then (o, h)
    else (.file path place (offset + line.length) closed,
      { h with disk := h.disk.writeAt place offset line })

def failure? (text : Bytes) : Option Bytes := if text.isEmpty then none else some text

def flush : Outlet → Option Bytes × Outlet
  | .memory m => (failure? m.flushError, .memory { m with calls := m.calls ++ [bytes "flush"] })
  | o => (none, o)

/-- Flushes, and closes what can be closed unless flushing failed. -/
def close (o : Outlet) : Option Bytes × Outlet :=
  match o.flush with
  | (some e, o) => (some e, o)
  | (none, .memory m) =>
    (failure? m.closeError, .memory { m with calls := m.calls ++ [bytes "close"] })
  | (none, .file path place offset closed) =>
    (if closed then some (DiskError.message ⟨bytes "close", path, .closed⟩) else none,
      .file path place offset true)
  | (none, .stderr) => (none, .stderr)

end Outlet

inductive Sink
  | silent
  | stream (level : Level) (format : Format) (outlet : Outlet)
  | ring (r : Ring)
  | fan (level : Level) (sinks : List Sink)

namespace Sink

def level : Sink → Level
  | .silent => .off
  | .stream l _ _ => l
  | .ring r => r.level
  | .fan l _ => l

def enabled (s : Sink) : Bool := s.level.enabled

def sort : Sink → Bytes
  | .silent => bytes "nop"
  | .stream .. => bytes "stream"
  | .ring _ => bytes "ring"
  | .fan .. => bytes "multi"

/-- Gives an event the next sequence number unless it has one. -/
def number (e : Event) (h : Host) : Event × Host :=
  if e.seq = 0 then ({ e with seq := h.seq + 1 }, { h with seq := h.seq + 1 }) else (e, h)

mutual

/-- Hands an event to a sink. Ends with the event as the sink left it: a stream and a fan number it in
place, a ring numbers its own copy. -/
def emit (e : Event) (h : Host) : Sink → Event × Sink × Host
  | .silent => (e, .silent, h)
  | .stream l f o =>
    if l.admits e then
      let (e, h) := number e h
      let (o, h) := o.write (e.render f) h
      (e, .stream l f o, h)
    else (e, .stream l f o, h)
  | .ring r =>
    if r.level.admits e then
      let (stored, h) := number e h
      (e, .ring (r.push stored), h)
    else (e, .ring r, h)
  | .fan l sinks =>
    let (e, h) := number e h
    let (sinks, h) := emitAll e h sinks
    (e, .fan l sinks, h)

/-- Hands a copy of an event to each sink in turn. -/
def emitAll (e : Event) (h : Host) : List Sink → List Sink × Host
  | [] => ([], h)
  | s :: rest =>
    let (_, s, h) := emit e h s
    let (rest, h) := emitAll e h rest
    (s :: rest, h)

end

mutual

/-- Applies an operation that may fail to every stream, and reports the first failure. -/
def onStreams (op : Outlet → Option Bytes × Outlet) : Sink → Option Bytes × Sink
  | .stream l f o =>
    let (e, o) := op o
    (e, .stream l f o)
  | .fan l sinks =>
    let (e, sinks) := onStreamsAll op sinks
    (e, .fan l sinks)
  | s => (none, s)

def onStreamsAll (op : Outlet → Option Bytes × Outlet) : List Sink → Option Bytes × List Sink
  | [] => (none, [])
  | s :: rest =>
    let (e, s) := onStreams op s
    let (later, rest) := onStreamsAll op rest
    (e.or later, s :: rest)

end

def flush : Sink → Option Bytes × Sink := onStreams Outlet.flush

def close : Sink → Option Bytes × Sink := onStreams Outlet.close

/-- The ring of a sink: itself, or the first one a fan holds directly. -/
def ring? : Sink → Option Ring
  | .ring r => some r
  | .fan _ sinks => sinks.findSome? fun
    | .ring r => some r
    | _ => none
  | _ => none

mutual

/-- Adds a remark to the ends of a span in every ring. -/
def annotate (span : Nat) (key value : Bytes) : Sink → Sink
  | .ring r => .ring (r.annotate span key value)
  | .fan l sinks => .fan l (annotateAll span key value sinks)
  | s => s

def annotateAll (span : Nat) (key value : Bytes) : List Sink → List Sink
  | [] => []
  | s :: rest => annotate span key value s :: annotateAll span key value rest

end

mutual

/-- The texts in memory that streams write to, in order. -/
def memories : Sink → List Memory
  | .stream _ _ (.memory m) => [m]
  | .fan _ sinks => memoriesAll sinks
  | _ => []

def memoriesAll : List Sink → List Memory
  | [] => []
  | s :: rest => memories s ++ memoriesAll rest

end

end Sink

end FlowBlocks.Trace
