import FlowBlocks.Listing.Instr
import FlowBlocks.Text.Quoted
/-!
Bodies: instructions in order with a table of traps, every label of which is known to resolve.
`Body.make` is the only way bodies come about; its errors are listed by cause.
-/
namespace FlowBlocks

/-- Failures of the instructions from label `first` up to label `past` go to label `handler`. An empty
`past` stands for the end of the body. -/
structure Trap where
  first : Bytes
  past : Bytes
  handler : Bytes
deriving DecidableEq, Repr

structure Body where
  name : Bytes
  file : Bytes
  instrs : List Instr
  traps : List Trap
deriving DecidableEq, Repr

inductive TrapError
  | undefinedFirst (label : Bytes)
  | undefinedPast (label : Bytes)
  | undefinedHandler (label : Bytes)
  | reversed (first past : Bytes)
deriving DecidableEq, Repr

inductive BodyError
  | labelTwice (label : Bytes) (earlier later : Nat)
  | undefinedTarget (at_ : Nat) (label : Bytes)
  | badTrap (number : Nat) (cause : TrapError)
  | fallsOff (last : Nat) (body : Bytes)
deriving DecidableEq, Repr

def TrapError.message : TrapError → Bytes
  | .undefinedFirst l => bytes "undefined begin label " ++ quoted l
  | .undefinedPast l => bytes "undefined end label " ++ quoted l
  | .undefinedHandler l => bytes "undefined handler label " ++ quoted l
  | .reversed a b => bytes "range " ++ a ++ bytes ".." ++ b ++ bytes " is reversed"

def BodyError.message : BodyError → Bytes
  | .labelTwice l i j =>
    bytes "label " ++ quoted l ++ bytes " defined twice (" ++ position i ++ bytes " and " ++
      position j ++ bytes ")"
  | .undefinedTarget i l => position i ++ bytes ": undefined label " ++ quoted l
  | .badTrap n e => bytes "trap " ++ decimal n ++ bytes ": " ++ e.message
  | .fallsOff i b => position i ++ bytes ": control falls off the end of body " ++ b

/-- Every label with the position it stands at, in textual order. -/
def labelSites (instrs : List Instr) : List (Bytes × Nat) :=
  instrs.zipIdx.flatMap fun (x, i) => x.labels.map (·, i)

def siteOf? (sites : List (Bytes × Nat)) (label : Bytes) : Option Nat :=
  (sites.find? (·.1 == label)).map (·.2)

/-- The first label that already stood somewhere in `seen`, with both positions. -/
def repeated? (seen : List (Bytes × Nat)) : List (Bytes × Nat) → Option (Bytes × Nat × Nat)
  | [] => none
  | (l, j) :: rest =>
    match siteOf? seen l with
    | some i => some (l, i, j)
    | none => repeated? (seen ++ [(l, j)]) rest

/-- The positions a trap covers and the position of its handler. -/
structure TrapRange where
  first : Nat
  past : Nat
  handler : Nat
deriving DecidableEq, Repr

/-- Resolves a trap in a body of `size` instructions. -/
def Trap.range (sites : List (Bytes × Nat)) (size : Nat) (t : Trap) : Except TrapError TrapRange :=
  match siteOf? sites t.first with
  | none => .error (.undefinedFirst t.first)
  | some first =>
    match if t.past.isEmpty then some size else siteOf? sites t.past with
    | none => .error (.undefinedPast t.past)
    | some past =>
      match siteOf? sites t.handler with
      | none => .error (.undefinedHandler t.handler)
      | some handler =>
        if first > past then .error (.reversed t.first t.past) else .ok ⟨first, past, handler⟩

/-- The first jump to a label that stands nowhere. -/
def unresolved? (sites : List (Bytes × Nat)) (instrs : List Instr) : Option (Nat × Bytes) :=
  instrs.zipIdx.findSome? fun (x, i) =>
    (x.targets.find? fun l => (siteOf? sites l).isNone).map (i, ·)

/-- The first trap that does not resolve. -/
def badTrap? (sites : List (Bytes × Nat)) (size : Nat) (traps : List Trap) :
    Option (Nat × TrapError) :=
  traps.zipIdx.findSome? fun (t, n) =>
    match t.range sites size with
    | .error e => some (n, e)
    | .ok _ => none

/-- The last instruction where control would go on past it. -/
def fallingEnd? (instrs : List Instr) : Option Nat :=
  match instrs.getLast? with
  | some x => if x.fallsThrough then some (instrs.length - 1) else none
  | none => none

def numbered (instrs : List Instr) : List Instr :=
  instrs.zipIdx.map fun (x, i) => { x with index := i }

namespace Body

/-- Checks labels, jumps, traps and the end of the body, in that order, and numbers the instructions. -/
def make (name file : Bytes) (instrs : List Instr) (traps : List Trap) : Except BodyError Body :=
  let sites := labelSites instrs
  match repeated? [] sites with
  | some (l, i, j) => .error (.labelTwice l i j)
  | none =>
    match unresolved? sites instrs with
    | some (i, l) => .error (.undefinedTarget i l)
    | none =>
      match badTrap? sites instrs.length traps with
      | some (n, e) => .error (.badTrap n e)
      | none =>
        match fallingEnd? instrs with
        | some i => .error (.fallsOff i name)
        | none => .ok ⟨name, file, numbered instrs, traps⟩

def size (b : Body) : Nat := b.instrs.length

def find? (b : Body) (label : Bytes) : Option Nat := siteOf? (labelSites b.instrs) label

/-- The handler position of every trap, in table order. -/
def handlers (b : Body) : List Nat := b.traps.filterMap fun t => b.find? t.handler

def trapRanges (b : Body) : List TrapRange :=
  let sites := labelSites b.instrs
  b.traps.filterMap fun t => (t.range sites b.size).toOption

end Body

end FlowBlocks
