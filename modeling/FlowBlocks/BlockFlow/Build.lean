import FlowBlocks.BlockFlow.Fault
/-!
From a flow graph to the flow between its blocks, in three stages: a rule picks leaders, `partition` cuts
the units in front of every leader, and `wire` finds the neighbours of every block. The first
disagreement met ends the construction.
-/
namespace FlowBlocks

variable {U : Type} [DecidableEq U]

/-- Cuts a list in front of every unit that satisfies `isLeader`. -/
def cutAt (isLeader : U → Bool) : List U → List (Run U)
  | [] => []
  | u :: rest =>
    match cutAt isLeader rest with
    | [] => [⟨u, []⟩]
    | r :: rs => if isLeader r.head then ⟨u, []⟩ :: r :: rs else ⟨u, r.units⟩ :: rs

/-- Blocks for runs that follow each other, the first with the given index and start. -/
def placeRuns : Nat → Nat → List (Run U) → List (Block U)
  | _, _, [] => []
  | index, start, r :: rs =>
    { r with index, start } :: placeRuns (index + 1) (start + r.size) rs

/-- The units cut into blocks at the leaders. The first unit has to be a leader. -/
def partition (leaders units : List U) : Except (BuildError U) (List (Block U)) :=
  match units with
  | [] => .error .emptyBody
  | u :: _ =>
    if leaders.contains u then .ok (placeRuns 0 0 (cutAt leaders.contains units))
    else .error (.firstNotLeader u)

def addIndex (seen : List Nat) (i : Nat) : List Nat := if i ∈ seen then seen else seen ++ [i]

/-- The blocks that start with an entry of the graph, in the order of the entries. -/
def headBlocks (g : FlowGraph U) (blocks : List (Block U)) : Except (BuildError U) (List Nat) :=
  g.heads.foldlM (fun seen u =>
    match ownerIn? blocks u with
    | none => .error (.headOutside u)
    | some b => if b.head = u then .ok (addIndex seen b.index) else .error (.headInside u b.index b.head))
    []

/-- The blocks that end with an exit of the graph, in the order of the exits. -/
def tailBlocks (g : FlowGraph U) (blocks : List (Block U)) : Except (BuildError U) (List Nat) :=
  g.tails.foldlM (fun seen u =>
    match ownerIn? blocks u with
    | none => .error (.tailOutside u)
    | some b => if b.tail = u then .ok (addIndex seen b.index) else .error (.tailInside u b.index b.tail))
    []

/-- The blocks of the predecessors of a block's first unit. -/
def wirePreds (g : FlowGraph U) (blocks : List (Block U)) (b : Block U) :
    Except (BuildError U) (List Nat) :=
  (g.preds b.head).mapM fun u =>
    match ownerIn? blocks u with
    | some p => .ok p.index
    | none => .error (.danglingPred u b.index b.head)

/-- The units a branch jumps to: its successors short of the one it falls to. -/
def jumpTargets (g : FlowGraph U) (u : U) : List U :=
  if g.falls u then (g.succs u).drop 1 else g.succs u

/-- The blocks that the branches of a block jump to, in order. -/
def wireJumps (g : FlowGraph U) (blocks : List (Block U)) (b : Block U) :
    Except (BuildError U) (List Nat) :=
  ((b.units.filter g.branches).flatMap fun u => (jumpTargets g u).map (·, u)).mapM fun (t, u) =>
    match ownerIn? blocks t with
    | some s => .ok s.index
    | none => .error (.danglingTarget t b.index u)

/-- The block that the last unit of a block falls to, if it falls through. -/
def wireFall (g : FlowGraph U) (blocks : List (Block U)) (b : Block U) :
    Except (BuildError U) (List Nat) :=
  if g.falls b.tail then
    match g.succs b.tail with
    | [] => .error (.fallsNowhere b.tail b.index)
    | next :: _ =>
      match ownerIn? blocks next with
      | some s => .ok [s.index]
      | none => .error (.danglingFall next b.index b.tail)
  else .ok []

/-- A block with its neighbours. The successor it falls to stands in front of jump targets. -/
def wireBlock (g : FlowGraph U) (blocks : List (Block U)) (tails : List Nat) (b : Block U) :
    Except (BuildError U) (Block U) := do
  let preds ← wirePreds g blocks b
  let jumps ← wireJumps g blocks b
  let fall ← wireFall g blocks b
  let succs := fall ++ jumps
  if succs.isEmpty && !tails.contains b.index then .error (.noSuccessors b.tail b.index)
  else return { b with preds, succs }

/-- Finds the neighbours of every block. A block that starts with the first unit of the body is an entry
even if the graph does not say so, because a body may be one loop. -/
def wire (g : FlowGraph U) (blocks : List (Block U)) : Except (BuildError U) (BlockFlow U) := do
  let first := blocks.head?.map fun b => b.head
  let heads ← headBlocks g blocks
  let heads := (first.bind (ownerIn? blocks)).elim heads fun b => addIndex heads b.index
  let tails ← tailBlocks g blocks
  let wired ← blocks.mapM (wireBlock g blocks tails)
  let again := wired.filter fun b => !b.preds.isEmpty && some b.head = first
  let heads := (again.map (·.index)).foldl addIndex heads
  let orphans := wired.filter fun b => b.preds.isEmpty && !heads.contains b.index
  return ⟨wired, heads, tails, orphans.map (·.index)⟩

/-- The flow between the blocks of a graph, cut by `rule`. -/
def build (rule : LeaderRule U) (g : FlowGraph U) (handlers : List U) :
    Except (BuildError U) (BlockFlow U) :=
  partition (rule g handlers) g.units >>= wire g

end FlowBlocks
