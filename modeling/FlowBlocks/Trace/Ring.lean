import FlowBlocks.Trace.Render
/-!
Rings: the latest events of a run, up to a fixed number, with a count of those that had to go.
-/
namespace FlowBlocks.Trace

/-- A ring of slots that are filled from the first on. `next` is the slot that the next event goes to:
the first one that was never filled, or once there is none, that of the oldest event. -/
structure Ring where
  level : Level
  capacity : Nat
  slots : List Event
  next : Nat
  dropped : Nat
  next_lt : next < capacity
  slots_le : slots.length ≤ capacity
  next_eq : slots.length < capacity → next = slots.length
deriving DecidableEq, Repr

namespace Ring

def standardCapacity : Nat := 4096

/-- How many events a ring holds that was asked to hold `n`; a number that is not positive means the
standard one. -/
def sizeFor (n : Int) : Nat := if n ≤ 0 then standardCapacity else n.toNat

theorem sizeFor_pos (n : Int) : 0 < sizeFor n := by
  unfold sizeFor
  split
  · decide
  · omega

def make (capacity : Int) (level : Level) : Ring where
  level := level
  capacity := sizeFor capacity
  slots := []
  next := 0
  dropped := 0
  next_lt := sizeFor_pos capacity
  slots_le := Nat.zero_le _
  next_eq := fun _ => rfl

/-- The slot behind a slot; the first one comes behind the last. -/
def follower (r : Ring) (slot : Nat) : Nat := (slot + 1) % r.capacity

theorem follower_lt (r : Ring) (slot : Nat) : r.follower slot < r.capacity :=
  Nat.mod_lt _ (Nat.zero_lt_of_lt r.next_lt)

/-- Keeps an event in the next slot. Where all slots are filled, the event that stood there is dropped. -/
def push (r : Ring) (e : Event) : Ring :=
  if h : r.slots.length < r.capacity then
    { r with
      slots := r.slots ++ [e]
      next := r.follower r.next
      next_lt := r.follower_lt r.next
      slots_le := by simpa using Nat.succ_le_of_lt h
      next_eq := fun hroom => by
        rw [follower, r.next_eq h, Nat.mod_eq_of_lt (by simpa using hroom), List.length_append]
        rfl }
  else
    { r with
      slots := r.slots.set r.next e
      next := r.follower r.next
      dropped := r.dropped + 1
      next_lt := r.follower_lt r.next
      slots_le := by simpa using r.slots_le
      next_eq := fun hroom => absurd (by simpa using hroom) h }

/-- The slot of the oldest event. -/
def oldest (r : Ring) : Nat := (r.next + r.capacity - r.slots.length) % r.capacity

/-- The events, oldest first. -/
def events (r : Ring) : List Event :=
  (List.range r.slots.length).filterMap fun i => r.slots[(r.oldest + i) % r.capacity]?

def failures (r : Ring) : List Event := r.events.filter (·.kind = .error)

def lines (f : Format) (r : Ring) : List Bytes := r.events.map (Event.render f)

/-- What stands above the events of a failed run. -/
def header (r : Ring) : Bytes :=
  bytes "trace: last " ++ decimal r.events.length ++ bytes " events before failure" ++
    (if r.failures.isEmpty then [] else bytes ", " ++ decimal r.failures.length ++ bytes " failed") ++
    (if r.dropped = 0 then [] else
      bytes " (" ++ decimal r.dropped ++ bytes " earlier events dropped)") ++ bytes ":\n"

/-- What is printed of the ring after a failure: a header and the events, or nothing for an empty ring. -/
def failureLines (r : Ring) : List Bytes :=
  if r.events.isEmpty then [] else r.header :: r.lines .text

/-- Adds a remark to the ends of a span that take later ones. -/
def annotate (r : Ring) (span : Nat) (key value : Bytes) : Ring :=
  { r with
    slots := r.slots.map fun e =>
      if e.shared && e.span == span then { e with notes := e.notes.set key value } else e
    slots_le := by simpa using r.slots_le
    next_eq := fun hroom => by simpa using r.next_eq (by simpa using hroom) }

end Ring

end FlowBlocks.Trace
