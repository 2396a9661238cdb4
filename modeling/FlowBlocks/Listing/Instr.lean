import FlowBlocks.Bytes
/-!
Instructions of a listing by what they do to the flow of control.
-/
namespace FlowBlocks

/-- How an instruction hands control on. -/
inductive Op
  | stmt | nop | cond | jump | switch | ret | throw | unknown
deriving DecidableEq, Repr

namespace Op

def name : Op → Bytes
  | .stmt => bytes "stmt"
  | .nop => bytes "nop"
  | .cond => bytes "if"
  | .jump => bytes "goto"
  | .switch => bytes "switch"
  | .ret => bytes "return"
  | .throw => bytes "throw"
  | .unknown => bytes "unknown"

def ofCode : Nat → Op
  | 0 => .stmt
  | 1 => .nop
  | 2 => .cond
  | 3 => .jump
  | 4 => .switch
  | 5 => .ret
  | 6 => .throw
  | _ => .unknown

/-- Control may go to a label. -/
def branches : Op → Bool
  | .cond | .jump | .switch => true
  | _ => false

/-- Control may go on to the next instruction. -/
def fallsThrough : Op → Bool
  | .jump | .switch | .ret | .throw => false
  | _ => true

end Op

/-- An instruction: its position in the body, the line it was read from (0 if none), the labels that
stand before it, its text without labels, and the labels it may jump to in textual order. -/
structure Instr where
  index : Nat := 0
  line : Nat := 0
  labels : List Bytes := []
  op : Op := .stmt
  text : Bytes := []
  targets : List Bytes := []
deriving DecidableEq, Repr

/-- How messages name the instruction at a position. -/
def position (i : Nat) : Bytes := byte 'u' :: decimal i

namespace Instr

def branches (x : Instr) : Bool := x.op.branches

def fallsThrough (x : Instr) : Bool := x.op.fallsThrough

/-- The first label, or the position where there is none. -/
def name (x : Instr) : Bytes := x.labels.head?.getD (position x.index)

/-- The instruction as it is shown in a block: labels, each with a colon, then the text. -/
def render (x : Instr) : Bytes :=
  x.labels.flatMap (fun l => l ++ bytes ": ") ++ x.text

end Instr

end FlowBlocks
