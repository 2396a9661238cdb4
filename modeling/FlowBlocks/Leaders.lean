import FlowBlocks.FlowGraph
/-!
Leaders: the units that open a block. A rule turns a graph and its handler entries into a set of units,
given as a list without repetitions; the set may hold units that are not in the graph.
-/
namespace FlowBlocks

/-- A rule that picks leaders from a graph and the entries of its handlers. -/
abbrev LeaderRule (U : Type) := FlowGraph U → List U → List U

inductive Policy
  | bigBlock | classic
deriving DecidableEq, Repr

namespace Policy

def name : Policy → Bytes
  | .bigBlock => bytes "bigblock"
  | .classic => bytes "classic"

def ofCode? : Nat → Option Policy
  | 0 => some .bigBlock
  | 1 => some .classic
  | _ => none

def parse : Bytes → Except ChoiceError Policy :=
  choose "leader policy" "bigblock|classic"
    [("", .bigBlock), ("bigblock", .bigBlock), ("big", .bigBlock), ("classic", .classic),
      ("basic", .classic)]

end Policy

namespace Leaders

variable {U : Type} [DecidableEq U]

def withPrevious (units : List U) : List (Option U × U) := (none :: units.map some).zip units

def withNext (units : List U) : List (U × Option U) :=
  units.zip ((units.drop 1).map some ++ [none])

/-- Whether a unit cannot simply continue the block of the unit before it: that unit is not its only
predecessor, or the unit is an exit. -/
def opensBig (g : FlowGraph U) (previous : Option U) (u : U) : Bool :=
  match previous with
  | none => true
  | some p => g.preds u != [p] || g.tails.contains u

/-- Handler entries, and units that cannot continue the block before them. Jumps inside a block are
allowed. -/
def bigBlock : LeaderRule U := fun g handlers =>
  distinct (handlers ++
    ((withPrevious g.units).filter fun (p, u) => opensBig g p u).map Prod.snd)

/-- What a unit makes a leader of: itself unless it has exactly one predecessor, its successors if it
branches or has several, and the unit after it if it branches or does not fall through. -/
def marks (g : FlowGraph U) (u : U) (next : Option U) : List U :=
  (if (g.preds u).length != 1 then [u] else []) ++
  (if g.branches u || (g.succs u).length > 1 then g.succs u else []) ++
  (if g.branches u || !g.falls u then next.toList else [])

/-- The textbook rule: the first unit, handler entries, and every `marks`. -/
def classic : LeaderRule U := fun g handlers =>
  distinct (g.units.take 1 ++ handlers ++ (withNext g.units).flatMap fun (u, next) => marks g u next)

end Leaders

def Policy.rule {U : Type} [DecidableEq U] : Policy → LeaderRule U
  | .bigBlock => Leaders.bigBlock
  | .classic => Leaders.classic

end FlowBlocks
