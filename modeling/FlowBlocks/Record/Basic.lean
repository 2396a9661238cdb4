import FlowBlocks.Outline.Check
/-!
Records: what is kept of one listing, namely the outline or the failure of each of its bodies and the
choices they were built with.
-/
namespace FlowBlocks

/-- What is kept of one body. An empty error is none. -/
structure BodyRecord where
  name : Bytes := []
  outline : Option Outline := none
  error : Bytes := []
deriving DecidableEq, Repr

/-- What is kept of one listing; `written` is the time in seconds since 1970. -/
structure Record where
  schema : UInt16 := 0
  file : Bytes := []
  graph : Bytes := []
  policy : Bytes := []
  bodies : Option (List BodyRecord) := none
  written : Int64 := 0
deriving DecidableEq, Repr

namespace Record

/-- The version of the stored form. It changes whenever that form does. -/
def currentSchema : UInt16 := 1

/-- The record as it is stored: with the current version, and with a time where it has none. -/
def stamped (now : Int64) (r : Record) : Record :=
  { r with schema := currentSchema, written := if r.written = 0 then now else r.written }

inductive ReadError
  | malformed
  | otherSchema (got : UInt16)
  | badOutline (body : Bytes) (report : Bytes)
deriving DecidableEq, Repr

def ReadError.message : ReadError → Bytes
  | .malformed => bytes "malformed record"
  | .otherSchema got =>
    bytes "blockcache: schema version mismatch: got " ++ decimal got.toNat ++ bytes ", want " ++
      decimal currentSchema.toNat
  | .badOutline body report => bytes "body " ++ body ++ bytes ": " ++ report

/-- The first body whose outline points outside itself. -/
def badOutline? (bodies : List BodyRecord) : Option ReadError :=
  bodies.findSome? fun b =>
    match b.outline with
    | none => none
    | some o => (Outline.rangeReport (some o)).map (.badOutline b.name)

/-- A record that was read, if its version and its outlines are good. -/
def checked (r : Record) : Except ReadError Record :=
  if r.schema ≠ currentSchema then .error (.otherSchema r.schema)
  else match badOutline? (r.bodies.getD []) with
    | some e => .error e
    | none => .ok r

end Record

end FlowBlocks
