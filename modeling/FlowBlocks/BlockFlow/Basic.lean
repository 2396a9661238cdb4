import FlowBlocks.Leaders
/-!
Blocks and the flow between them. A block is a non-empty run of neighbouring units; blocks refer to each
other by index.
-/
namespace FlowBlocks

def blockName (i : Nat) : Bytes := byte 'B' :: decimal i

def blockNames (is : List Nat) : Bytes :=
  bytes "[" ++ Bytes.join (bytes " ") (is.map blockName) ++ bytes "]"

/-- A non-empty run of units. -/
structure Run (U : Type) where
  head : U
  rest : List U
deriving DecidableEq, Repr

namespace Run

variable {U : Type}

def units (r : Run U) : List U := r.head :: r.rest

def tail (r : Run U) : U := r.rest.getLast?.getD r.head

def size (r : Run U) : Nat := r.rest.length + 1

end Run

/-- A run with its index among the blocks, the position of its first unit, and its neighbours. -/
structure Block (U : Type) extends Run U where
  index : Nat
  start : Nat
  preds : List Nat := []
  succs : List Nat := []
deriving DecidableEq, Repr

/-- The blocks of a body with its entry blocks, exit blocks, and blocks that have no predecessors
without being entries. -/
structure BlockFlow (U : Type) where
  blocks : List (Block U)
  heads : List Nat
  tails : List Nat
  orphans : List Nat
deriving DecidableEq, Repr

/-- The last of the blocks that hold a unit; with pairwise distinct units, the only one. -/
def ownerIn? {U : Type} [DecidableEq U] (blocks : List (Block U)) (u : U) : Option (Block U) :=
  blocks.reverse.find? fun b => b.units.contains u

namespace BlockFlow

variable {U : Type}

def size (f : BlockFlow U) : Nat := f.blocks.length

def isHead (f : BlockFlow U) (i : Nat) : Bool := f.heads.contains i

def isTail (f : BlockFlow U) (i : Nat) : Bool := f.tails.contains i

def units (f : BlockFlow U) : List U := f.blocks.flatMap fun b => b.units

def owner? [DecidableEq U] (f : BlockFlow U) (u : U) : Option (Block U) := ownerIn? f.blocks u

def block? (f : BlockFlow U) (i : Int) : Option (Block U) :=
  match i with
  | .ofNat n => f.blocks[n]?
  | .negSucc _ => none

def marks (f : BlockFlow U) (b : Block U) : Bytes :=
  (if f.isHead b.index then bytes " head" else []) ++ if f.isTail b.index then bytes " tail" else []

/-- One line per block: name, marks, units and neighbours. -/
def lines (unitName : U → Bytes) (f : BlockFlow U) : List Bytes :=
  f.blocks.map fun b =>
    blockName b.index ++ f.marks b ++ bytes " [" ++
      Bytes.join (bytes ", ") (b.units.map unitName) ++ bytes "] preds=" ++ blockNames b.preds ++
      bytes " succs=" ++ blockNames b.succs ++ [10]

end BlockFlow

end FlowBlocks
