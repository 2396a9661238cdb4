import FlowBlocks.Bytes
/-!
Writers: a text that grows by whole writes. A writer may have room for a limited number of writes; after
that every write fails with its error and leaves the text as it is.
-/
namespace FlowBlocks

structure Writer where
  text : Bytes := []
  room : Option Nat := none
  error : Bytes := []
deriving DecidableEq, Repr

namespace Writer

/-- One write: the error, if it fails, and the writer afterwards. -/
def write (w : Writer) (data : Bytes) : Option Bytes × Writer :=
  match w.room with
  | none => (none, { w with text := w.text ++ data })
  | some 0 => (some w.error, w)
  | some (n + 1) => (none, { w with text := w.text ++ data, room := some n })

/-- Writes one piece after the other, up to the first that fails. -/
def writeAll (w : Writer) : List Bytes → Option Bytes × Writer
  | [] => (none, w)
  | piece :: rest =>
    match w.write piece with
    | (some e, w) => (some e, w)
    | (none, w) => w.writeAll rest

end Writer

end FlowBlocks
