import FlowBlocks.Trace.Span
/-!
Setting up a sink from names or from resolved choices.
-/
namespace FlowBlocks.Trace

inductive Mode
  | stream | ring | both | unnamed
deriving DecidableEq, Repr

namespace Mode

def name : Mode → Bytes
  | .stream => bytes "stream"
  | .ring => bytes "ring"
  | .both => bytes "both"
  | .unnamed => bytes "unknown"

def ofCode : Nat → Mode
  | 1 => .stream
  | 2 => .ring
  | 3 => .both
  | _ => .unnamed

def parse : Bytes → Except ChoiceError Mode :=
  choose "storage mode" "stream|ring|both"
    [("stream", .stream), ("", .stream), ("ring", .ring), ("both", .both)]

end Mode

/-- Choices for a sink. The path is that of the stream; `-` or nothing means the standard error stream. -/
structure Setup where
  level : Level := .off
  mode : Mode := .stream
  format : Format := .auto
  path : Bytes := []
  capacity : Int := 0
deriving DecidableEq, Repr

/-- The same choices by name. -/
structure Names where
  level : Bytes := []
  mode : Bytes := []
  format : Bytes := []
  output : Bytes := []
  capacity : Int := 0
deriving DecidableEq, Repr

/-- Resolves names. All that is wrong is reported, one message a line. -/
def Names.resolve (n : Names) : Except Bytes Setup :=
  let level := Level.parse n.level
  let mode := Mode.parse n.mode
  let format := Format.parse n.format
  let size := if n.capacity < 0 then [bytes "invalid ring size: " ++ decimalInt n.capacity] else []
  match level, mode, format, size with
  | .ok level, .ok mode, .ok format, [] =>
    .ok { level, mode, format, path := n.output, capacity := n.capacity }
  | _, _, _, _ =>
    .error (Bytes.join [10] (complaint level ++ complaint mode ++ complaint format ++ size))

namespace Setup

/-- The outlet of a stream: the one given, the standard error stream, or a new file. -/
def outlet (s : Setup) (given : Option Memory) (h : Host) : Except Bytes (Outlet × Host) :=
  match given with
  | some m => .ok (.memory m, h)
  | none =>
    if s.path.isEmpty || s.path = bytes "-" then .ok (.stderr, h)
    else match h.disk.create s.path with
      | .error e => .error (bytes "failed to open trace output: " ++ e.message)
      | .ok (place, disk) => .ok (.file s.path place 0 false, { h with disk })

/-- Makes the sink. At level `off` it is silent, whatever else is chosen. -/
def open_ (s : Setup) (given : Option Memory) (h : Host) : Except Bytes (Sink × Host) :=
  if s.level = .off then .ok (.silent, h)
  else
    let format := if s.format = .auto then Format.ofPath s.path else s.format
    let ring := Ring.make s.capacity s.level
    match s.mode with
    | .ring => .ok (.ring ring, h)
    | .stream => do
      let (o, h) ← s.outlet given h
      return (.stream s.level format o, h)
    | .both => do
      let (o, h) ← s.outlet given h
      return (.fan s.level [.stream s.level format o, .ring ring], h)
    | .unnamed => .error (bytes "unknown storage mode: " ++ s.mode.name)

end Setup

end FlowBlocks.Trace
