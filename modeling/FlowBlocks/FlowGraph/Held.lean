import FlowBlocks.FlowGraph
/-!
Bodies whose instructions are held by reference. Two references mean the same instruction only if they are
equal, whatever the instructions say. An instruction carries an index, and one of another body or of none may
carry any, so what a body is asked about is first looked for at its index.
-/
namespace FlowBlocks

/-- A body with the references to its instructions, in order, and the index that the instruction behind a
reference carries. -/
structure HeldBody (R : Type) where
  body : Body
  refs : List R
  index : R → Int

namespace HeldBody

variable {R : Type} [DecidableEq R]

/-- Writes a position into the instruction behind a reference. -/
def place (index : R → Int) (entry : R × Nat) (u : R) : Int :=
  if u = entry.1 then entry.2 else index u

/-- Writes its position into every instruction, the first one first. -/
def numbering (index : R → Int) (refs : List R) : R → Int := refs.zipIdx.foldl place index

/-- Makes a body of the instructions behind `refs` and numbers them. -/
def make (name file : Bytes) (instr : R → Instr) (index : R → Int) (refs : List R) (traps : List Trap) :
    Except BodyError (HeldBody R) :=
  (Body.make name file (refs.map instr) traps).map fun body => ⟨body, refs, numbering index refs⟩

def position? (b : HeldBody R) : Option R → Option Nat
  | none => none
  | some u =>
    if 0 ≤ b.index u ∧ b.refs[(b.index u).toNat]? = some u then some (b.index u).toNat else none

/-- The instructions at the positions that `near` gives for the position of an instruction. What is not of
the body has none. -/
def around (b : HeldBody R) (near : Nat → List Nat) (u : Option R) : List R :=
  match b.position? u with
  | none => []
  | some i => (near i).filterMap (b.refs[·]?)

def predsOf (b : HeldBody R) (k : GraphKind) (u : Option R) : List R :=
  b.around (b.body.flowGraph k).preds u

def succsOf (b : HeldBody R) (k : GraphKind) (u : Option R) : List R :=
  b.around (b.body.flowGraph k).succs u

end HeldBody

end FlowBlocks
