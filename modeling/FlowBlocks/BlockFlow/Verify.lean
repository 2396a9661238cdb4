import FlowBlocks.BlockFlow.Basic
/-!
Checking a finished block flow again, against any flow graph: that the blocks are the units of the graph
in order, that leaders and nothing else open blocks, and that entries and exits are marked.
-/
namespace FlowBlocks

/-- A way in which a block flow and a graph disagree. Blocks are named by index. -/
inductive Violation (U : Type)
  | misplaced (block position : Nat)
  | beyondEnd (block : Nat) (u : U)
  | wrongUnit (block : Nat) (u : U) (position : Nat) (expected : U)
  | wrongOwner (block : Nat) (u : U) (owner : Option Nat)
  | uncovered (covered total : Nat)
  | headNotLeader (block : Nat) (u : U)
  | leaderInside (block : Nat) (u : U)
  | firstNotHead (block : Nat)
  | exitNotTail (block : Nat)
  | entryNotHead (block : Nat)
  | foreignEdge (block other : Nat)
deriving DecidableEq, Repr

def Violation.message {U : Type} (unitName : U → Bytes) : Violation U → Bytes
  | .misplaced b i => blockName b ++ bytes ": stored at position " ++ decimal i
  | .beyondEnd b u => blockName b ++ bytes ": unit " ++ unitName u ++ bytes " beyond the end of the body"
  | .wrongUnit b u i v =>
    blockName b ++ bytes ": unit " ++ unitName u ++ bytes " at body position " ++ decimal i ++
      bytes ", want " ++ unitName v
  | .wrongOwner b u o =>
    blockName b ++ bytes ": unit " ++ unitName u ++ bytes " is owned by " ++
      (o.map blockName).getD (bytes "B?")
  | .uncovered n m => bytes "blocks cover " ++ decimal n ++ bytes " of " ++ decimal m ++ bytes " units"
  | .headNotLeader b u => blockName b ++ bytes ": head " ++ unitName u ++ bytes " is not a leader"
  | .leaderInside b u => blockName b ++ bytes ": leader " ++ unitName u ++ bytes " is not a block head"
  | .firstNotHead b => blockName b ++ bytes ": first block is not a head"
  | .exitNotTail b => blockName b ++ bytes ": no successors and not a tail"
  | .entryNotHead b => blockName b ++ bytes ": no predecessors, not a head and not a handler"
  | .foreignEdge b o => blockName b ++ bytes ": edge to foreign block " ++ blockName o

namespace BlockFlow

variable {U : Type} [DecidableEq U]

/-- Compares the units of one block with what is left of the body from `position` on. Ends with what is
left then. -/
def compareUnits (f : BlockFlow U) (block : Nat) :
    Nat → List U → List U → List (Violation U) × List U
  | _, left, [] => ([], left)
  | _, [], u :: _ => ([.beyondEnd block u], [])
  | position, expected :: left, u :: rest =>
    let owner := (f.owner? u).map (·.index)
    let here :=
      (if expected = u then [] else [.wrongUnit block u position expected]) ++
      (if owner = some block then [] else [.wrongOwner block u owner])
    let (later, left) := compareUnits f block (position + 1) left rest
    (here ++ later, left)

/-- Compares blocks, from index `i` on, with what is left of a body of `total` units. -/
def compareBlocks (f : BlockFlow U) (total : Nat) :
    Nat → List U → List (Block U) → List (Violation U)
  | _, left, [] => if left.isEmpty then [] else [.uncovered (total - left.length) total]
  | i, left, b :: rest =>
    let (found, left') := compareUnits f b.index (total - left.length) left b.units
    (if b.index = i then [] else [.misplaced b.index i]) ++ found ++
      compareBlocks f total (i + 1) left' rest

/-- Leaders open blocks, and nothing else does. -/
def leaderViolations (leaders : List U) (b : Block U) : List (Violation U) :=
  (if leaders.contains b.head then [] else [.headNotLeader b.index b.head]) ++
    (b.rest.filter leaders.contains).map (.leaderInside b.index)

/-- A block without successors is an exit; one without predecessors is an entry or starts with a
handler; edges lead to blocks of the flow. -/
def edgeViolations (f : BlockFlow U) (handlers : List U) (b : Block U) : List (Violation U) :=
  (if b.succs.isEmpty && !f.isTail b.index then [.exitNotTail b.index] else []) ++
  (if b.preds.isEmpty && !f.isHead b.index && !handlers.contains b.head then
    [.entryNotHead b.index] else []) ++
  ((b.preds ++ b.succs).filter (f.size ≤ ·)).map (.foreignEdge b.index)

/-- Everything in which the flow disagrees with a graph, its handlers and a leader rule. -/
def verify (f : BlockFlow U) (rule : LeaderRule U) (g : FlowGraph U) (handlers : List U) :
    List (Violation U) :=
  let leaders := rule g handlers
  compareBlocks f g.units.length 0 g.units f.blocks ++
  f.blocks.flatMap (leaderViolations leaders) ++
  (match f.blocks with
    | [] => []
    | b :: _ => if f.isHead b.index then [] else [.firstNotHead b.index]) ++
  f.blocks.flatMap (f.edgeViolations handlers)

/-- What verification has to say, one violation a line, or nothing. Without a flow or a graph there is
nothing to compare. -/
def verdict (unitName : U → Bytes) (f : Option (BlockFlow U)) (rule : LeaderRule U)
    (g : Option (FlowGraph U)) (handlers : List U) : Option Bytes :=
  match f, g with
  | some f, some g =>
    match f.verify rule g handlers with
    | [] => none
    | found => some (Bytes.join [10] (found.map (Violation.message unitName)))
  | _, _ => some (bytes "verify: nil graph")

end BlockFlow

end FlowBlocks
