import FlowBlocks.Choice
/-!
Events of a run: how coarse they are, what a level lets through, and what an event says.
-/
namespace FlowBlocks.Trace

/-- How much is recorded. A level outside the named ones lets failures through and nothing else. -/
inductive Level
  | off | error | phase | detail | debug | unnamed
deriving DecidableEq, Repr

/-- How fine an event is, coarse ones first. -/
structure Scope where
  rank : Nat
deriving DecidableEq, Repr

namespace Scope

/-- A whole batch or one file of it. -/
def driver : Scope := ⟨1⟩

/-- One body. -/
def body : Scope := ⟨2⟩

/-- One stage of a construction. -/
def stage : Scope := ⟨3⟩

/-- A remark on one block. -/
def block : Scope := ⟨4⟩

def name (s : Scope) : Bytes :=
  match s.rank with
  | 1 => bytes "driver"
  | 2 => bytes "body"
  | 3 => bytes "stage"
  | 4 => bytes "block"
  | _ => bytes "unknown"

end Scope

namespace Level

def name : Level → Bytes
  | .off => bytes "off"
  | .error => bytes "error"
  | .phase => bytes "phase"
  | .detail => bytes "detail"
  | .debug => bytes "debug"
  | .unnamed => bytes "unknown"

def ofCode : Nat → Level
  | 0 => .off
  | 1 => .error
  | 2 => .phase
  | 3 => .detail
  | 4 => .debug
  | _ => .unnamed

def parse : Bytes → Except ChoiceError Level :=
  choose "trace level" "off|error|phase|detail|debug"
    [("off", .off), ("", .off), ("error", .error), ("phase", .phase), ("detail", .detail),
      ("debug", .debug)]

def enabled (l : Level) : Bool := l != .off

def shows (l : Level) (s : Scope) : Bool :=
  match l with
  | .phase => s.rank ≤ Scope.body.rank
  | .detail => s.rank ≤ Scope.stage.rank
  | .debug => true
  | _ => false

end Level

/-- What an event marks: the begin or end of a span, an instant, or a failure. -/
inductive Kind
  | begin_ | end_ | point | error | unnamed
deriving DecidableEq, Repr

namespace Kind

def name : Kind → Bytes
  | .begin_ => bytes "begin"
  | .end_ => bytes "end"
  | .point => bytes "point"
  | .error => bytes "error"
  | .unnamed => bytes "unknown"

def ofCode : Nat → Kind
  | 1 => .begin_
  | 2 => .end_
  | 3 => .point
  | 4 => .error
  | _ => .unnamed

end Kind

/-- Remarks by key; a key stands once. -/
abbrev Notes := List (Bytes × Bytes)

namespace Notes

/-- Sets a key, over an earlier remark with it. -/
def set (notes : Notes) (key value : Bytes) : Notes :=
  if notes.any (·.1 == key) then notes.map fun n => if n.1 == key then (key, value) else n
  else notes ++ [(key, value)]

def sorted (notes : Notes) : Notes := notes.mergeSort fun a b => Bytes.le a.1 b.1

end Notes

/-- A moment: seconds and nanoseconds since 1970, and the zone's offset from UTC in seconds. -/
structure Stamp where
  sec : Int := 0
  nsec : Int := 0
  offset : Int := 0
deriving DecidableEq, Repr

/-- An event. A sequence number 0 is one that has not been given yet, a parent 0 is none. `shared` marks
the end of a span that had remarks: remarks made on the span later belong to the event too. -/
structure Event where
  time : Stamp := {}
  seq : Nat := 0
  kind : Kind
  scope : Scope
  span : Nat := 0
  parent : Nat := 0
  name : Bytes := []
  detail : Bytes := []
  notes : Notes := []
  shared : Bool := false
deriving DecidableEq, Repr

/-- Whether a recorder at a level keeps an event. Failures pass at every level but `off`. -/
def Level.admits (l : Level) (e : Event) : Bool :=
  if e.kind = .error then l.enabled else l.shows e.scope

end FlowBlocks.Trace
