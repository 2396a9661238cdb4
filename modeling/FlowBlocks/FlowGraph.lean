import FlowBlocks.Choice
import FlowBlocks.Listing.Body
/-!
Instruction-level flow graphs. A graph is given by plain functions over any type of units; nothing is
assumed about how its parts fit together. The two graphs of a body have the positions of its
instructions as units: the brief one holds normal edges, the exceptional one also an edge from every
instruction inside a trap to the handler of that trap.
-/
namespace FlowBlocks

/-- A flow graph: the units in textual order, the neighbours of each unit, entries and exits, and how a
unit hands control on. The successors of a unit that falls through start with the unit it falls to. -/
structure FlowGraph (U : Type) where
  units : List U
  preds : U → List U
  succs : U → List U
  heads : List U
  tails : List U
  branches : U → Bool
  falls : U → Bool

inductive GraphKind
  | brief | exceptional
deriving DecidableEq, Repr

namespace GraphKind

def name : GraphKind → Bytes
  | .brief => bytes "brief"
  | .exceptional => bytes "exceptional"

def ofCode? : Nat → Option GraphKind
  | 0 => some .brief
  | 1 => some .exceptional
  | _ => none

def parse : Bytes → Except ChoiceError GraphKind :=
  choose "graph kind" "brief|exceptional"
    [("", .brief), ("brief", .brief), ("exceptional", .exceptional), ("exc", .exceptional)]

end GraphKind

namespace Body

/-- The instruction after position `i`, where control may go on to it. -/
def fallSuccs (b : Body) (i : Nat) (x : Instr) : List Nat :=
  if x.fallsThrough && i + 1 < b.size then [i + 1] else []

/-- The positions an instruction may jump to, in textual order. -/
def jumpSuccs (b : Body) (x : Instr) : List Nat := x.targets.filterMap b.find?

/-- The handlers of the traps around position `i`, in table order. -/
def trapSuccs (ranges : List TrapRange) (i : Nat) : List Nat :=
  (ranges.filter fun r => r.first ≤ i && i < r.past).map TrapRange.handler

/-- The traps that add edges to a graph of kind `k`. -/
def activeTraps (b : Body) : GraphKind → List TrapRange
  | .brief => []
  | .exceptional => b.trapRanges

/-- Successors by position: first the instruction control falls to, then jump targets in textual order,
then handlers in table order, each once. -/
def succTable (b : Body) (k : GraphKind) : List (List Nat) :=
  let ranges := b.activeTraps k
  b.instrs.zipIdx.map fun (x, i) => distinct (b.fallSuccs i x ++ b.jumpSuccs x ++ trapSuccs ranges i)

/-- Adds position `i` behind the predecessors of each of its successors. -/
def addPreds (preds : List (List Nat)) (i : Nat) (succs : List Nat) : List (List Nat) :=
  succs.foldl (fun preds s => preds.modify s (· ++ [i])) preds

/-- Predecessors by position, gathered in one pass over the successors. -/
def predTable (succs : List (List Nat)) : List (List Nat) :=
  succs.zipIdx.foldl (fun preds (ss, i) => addPreds preds i ss) (List.replicate succs.length [])

/-- Positions without a normal successor. -/
def exits (b : Body) : List Nat :=
  (b.instrs.zipIdx.filter fun (x, i) => (b.fallSuccs i x ++ b.jumpSuccs x).isEmpty).map Prod.snd

/-- The first position, and every other one without predecessors that is not left out. -/
def entries (leftOut : List Nat) (preds : List (List Nat)) : List Nat :=
  (preds.zipIdx.filter fun (ps, i) => i == 0 || (!leftOut.contains i && ps.isEmpty)).map Prod.snd

/-- The flow graph of a body. In the exceptional graph a handler is not an entry for want of
predecessors. -/
def flowGraph (b : Body) (k : GraphKind) : FlowGraph Nat :=
  let succs := b.succTable k
  let preds := predTable succs
  let leftOut := match k with
    | .brief => []
    | .exceptional => b.handlers
  { units := List.range b.size
    preds := fun i => preds[i]?.getD []
    succs := fun i => succs[i]?.getD []
    heads := entries leftOut preds
    tails := b.exits
    branches := fun i => (b.instrs[i]?.map Instr.branches).getD false
    falls := fun i => (b.instrs[i]?.map Instr.fallsThrough).getD false }

end Body

end FlowBlocks
