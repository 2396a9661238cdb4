import FlowBlocks.Text.Fold
import FlowBlocks.Text.Quoted
/-!
Names for the members of a small set, read regardless of case.
-/
namespace FlowBlocks

/-- A name that stands for no member. -/
structure ChoiceError where
  subject : Bytes
  given : Bytes
  expected : Bytes
deriving DecidableEq, Repr

def ChoiceError.message (e : ChoiceError) : Bytes :=
  bytes "invalid " ++ e.subject ++ bytes ": " ++ quoted e.given ++ bytes " (expected: " ++
    e.expected ++ bytes ")"

/-- The member that `given` names in a table of lowercase names. -/
def choose {α : Type} (subject expected : String) (table : List (String × α)) (given : Bytes) :
    Except ChoiceError α :=
  match table.find? fun (name, _) => isNamed name given with
  | some (_, a) => .ok a
  | none => .error ⟨bytes subject, given, bytes expected⟩

/-- The message of a name that stands for no member, or none. -/
def complaint {α : Type} (r : Except ChoiceError α) : List Bytes :=
  match r with
  | .ok _ => []
  | .error e => [e.message]

end FlowBlocks
