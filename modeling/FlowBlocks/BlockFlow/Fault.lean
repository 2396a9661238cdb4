import FlowBlocks.BlockFlow.Basic
import FlowBlocks.Text.Quoted
/-!
Why a graph cannot be cut into blocks. Every cause is a disagreement between the parts of the graph.
-/
namespace FlowBlocks

/-- The classes of failures. Codes outside the known ones are kept apart. -/
inductive Fault
  | emptyBody | firstNotLeader | headInside | tailInside | danglingEdge | noSuccessors
  | other (code : UInt8)
deriving DecidableEq, Repr

namespace Fault

def ofCode (n : UInt8) : Fault :=
  match n.toNat with
  | 1 => .emptyBody
  | 2 => .firstNotLeader
  | 3 => .headInside
  | 4 => .tailInside
  | 5 => .danglingEdge
  | 6 => .noSuccessors
  | _ => .other n

def code : Fault → UInt8
  | .emptyBody => 1
  | .firstNotLeader => 2
  | .headInside => 3
  | .tailInside => 4
  | .danglingEdge => 5
  | .noSuccessors => 6
  | .other n => n

def isKnown : Fault → Bool
  | .other _ => false
  | _ => true

def message : Fault → Bytes
  | .emptyBody => bytes "body has no units"
  | .firstNotLeader => bytes "first unit is not a leader"
  | .headInside => bytes "head unit is not the first unit of its block"
  | .tailInside => bytes "tail unit is not the last unit of its block"
  | .danglingEdge => bytes "edge endpoint maps to no block"
  | .noSuccessors => bytes "block with no successors is not a tail"
  | .other n => bytes "fault(" ++ decimal n.toNat ++ bytes ")"

end Fault

/-- A failure as it is shown: its class, the unit and block it arose at, and a remark. An empty unit
stands for none. -/
structure FaultReport where
  fault : Fault
  unit : Bytes
  block : Option Nat
  detail : Bytes
deriving DecidableEq, Repr

def FaultReport.message (r : FaultReport) : Bytes :=
  bytes "blockgraph: " ++ r.fault.message ++
    (match r.block with
      | some i => bytes " (" ++ blockName i ++ bytes ")"
      | none => []) ++
    (if r.unit.isEmpty then [] else bytes ": unit " ++ quoted r.unit) ++
    (if r.detail.isEmpty then [] else bytes ": " ++ r.detail)

/-- What exactly does not fit. -/
inductive BuildError (U : Type)
  /-- There are no units. -/
  | emptyBody
  /-- The first unit is not among the leaders. -/
  | firstNotLeader (u : U)
  /-- An entry lies in no block. -/
  | headOutside (u : U)
  /-- An entry lies inside a block that starts at `first`. -/
  | headInside (u : U) (block : Nat) (first : U)
  /-- An exit lies in no block. -/
  | tailOutside (u : U)
  /-- An exit lies inside a block that ends at `last`. -/
  | tailInside (u : U) (block : Nat) (last : U)
  /-- A predecessor of the head of a block lies in no block. -/
  | danglingPred (u : U) (block : Nat) (head : U)
  /-- A jump target of `source` lies in no block. -/
  | danglingTarget (u : U) (block : Nat) (source : U)
  /-- The last unit of a block falls through and has no successor. -/
  | fallsNowhere (tail : U) (block : Nat)
  /-- The unit that the last unit of a block falls to lies in no block. -/
  | danglingFall (u : U) (block : Nat) (tail : U)
  /-- A block without successors is no exit. -/
  | noSuccessors (tail : U) (block : Nat)
deriving DecidableEq, Repr

namespace BuildError

variable {U : Type}

def fault : BuildError U → Fault
  | .emptyBody => .emptyBody
  | .firstNotLeader _ => .firstNotLeader
  | .headOutside _ | .headInside .. => .headInside
  | .tailOutside _ | .tailInside .. => .tailInside
  | .danglingPred .. | .danglingTarget .. | .fallsNowhere .. | .danglingFall .. => .danglingEdge
  | .noSuccessors .. => .noSuccessors

def report (unitName : U → Bytes) (e : BuildError U) : FaultReport :=
  match e with
  | .emptyBody => ⟨e.fault, [], none, []⟩
  | .firstNotLeader u => ⟨e.fault, unitName u, none, bytes "leader set and body disagree"⟩
  | .headOutside u => ⟨e.fault, unitName u, none, bytes "head unit is not part of the body"⟩
  | .headInside u b first => ⟨e.fault, unitName u, some b, bytes "block starts at " ++ unitName first⟩
  | .tailOutside u => ⟨e.fault, unitName u, none, bytes "tail unit is not part of the body"⟩
  | .tailInside u b last => ⟨e.fault, unitName u, some b, bytes "block ends at " ++ unitName last⟩
  | .danglingPred u b head => ⟨e.fault, unitName u, some b, bytes "predecessor of " ++ unitName head⟩
  | .danglingTarget u b src => ⟨e.fault, unitName u, some b, bytes "jump target of " ++ unitName src⟩
  | .fallsNowhere t b => ⟨e.fault, unitName t, some b, bytes "tail falls through to nothing"⟩
  | .danglingFall u b t => ⟨e.fault, unitName u, some b, bytes "fall-through of " ++ unitName t⟩
  | .noSuccessors t b => ⟨e.fault, unitName t, some b, []⟩

end BuildError

end FlowBlocks
