import FlowBlocks.Decimal.Fixed
import FlowBlocks.Text.Rune
/-!
Stopwatches: how long the phases of a run took, in the order in which they were first met. Durations are
nanoseconds on 64 bits.
-/
namespace FlowBlocks

/-- A phase; `since` is when it was last begun and not yet ended. -/
structure Lap where
  name : Bytes
  since : Option Int64 := none
  spent : Int64 := 0
  count : Nat := 0
  note : Bytes := []
deriving DecidableEq, Repr

abbrev Stopwatch := List Lap

namespace Stopwatch

/-- The index of a phase, which is added if it is new. -/
def enter (w : Stopwatch) (name : Bytes) : Nat × Stopwatch :=
  match w.findIdx? (·.name == name) with
  | some i => (i, w)
  | none => (w.length, w ++ [{ name }])

def begin_ (w : Stopwatch) (now : Int64) (name : Bytes) : Nat × Stopwatch :=
  let (i, w) := w.enter name
  (i, w.modify i fun l => { l with since := some now })

/-- Ends a phase by its index. One that was not begun, or an index out of range, changes nothing. -/
def end_ (w : Stopwatch) (now : Int64) (i : Int) (note : Bytes) : Stopwatch :=
  if i < 0 then w
  else w.modify i.toNat fun l =>
    match l.since with
    | none => l
    | some t =>
      { l with
        spent := l.spent + (now - t), count := l.count + 1, since := none
        note := if note.isEmpty then l.note else note }

/-- Adds a duration measured elsewhere. -/
def add (w : Stopwatch) (name : Bytes) (spent : Int64) : Stopwatch :=
  let (i, w) := w.enter name
  w.modify i fun l => { l with spent := l.spent + spent, count := l.count + 1 }

/-- The durations added up, on 64 bits. -/
def total (w : Stopwatch) : Int64 := w.foldl (fun n l => n + l.spent) 0

/-- Nanoseconds as milliseconds, with decimal places. The count is put on 53 bits before it is divided. -/
def millis (places : Nat) (d : Int64) : Bytes :=
  let whole := Decimal.Binary.ofRatio d.toInt.natAbs 1
  let ratio := Decimal.Binary.ofRatio (whole.mantissa * Nat.pow 2 whole.exponent.toNat)
    (1000000 * Nat.pow 2 (-whole.exponent).toNat)
  Decimal.fixed places (d.toInt < 0) ratio

/-- A name filled up to twelve code points, and milliseconds on nine columns. -/
def lapText (name : Bytes) (d : Int64) : Bytes :=
  bytes "  " ++ name ++ List.replicate (12 - (Utf8.runes name).length) (byte ' ') ++ bytes " " ++
    Bytes.padLeft 9 (millis 2 d) ++ bytes " ms"

/-- A line per phase and one for the total. -/
def summary (w : Stopwatch) : Bytes :=
  bytes "timings:\n" ++
    w.flatMap (fun l =>
      lapText l.name l.spent ++
        (if l.count > 1 then bytes "  x" ++ decimal l.count else []) ++
        (if l.note.isEmpty then [] else bytes "  // " ++ l.note) ++ [10]) ++
    lapText (bytes "total") w.total ++ [10]

end Stopwatch

end FlowBlocks
