import FlowBlocks.Toml.Parse
/-!
The tables a document stands for. Statements are taken in order; each may add to tables that others made,
within limits: a key is given once. A table that came about only because a longer key runs through it is
implicit, and may be given once more. A key that holds a list may be given again, and the last one counts.
-/
namespace FlowBlocks.Toml

/-- What stands under a name: a value, a table, or a list of tables. -/
inductive Node
  | leaf (v : Value)
  | table (entries : List (Bytes × Node))
  | tables (items : List (List (Bytes × Node)))

/-- A table: names in the order in which they came up. -/
abbrev Table := List (Bytes × Node)

namespace Table

def get? (t : Table) (name : Bytes) : Option Node := (t.find? fun (n, _) => n == name).map Prod.snd

/-- Puts a node under a name, in the place of one that stood there. -/
def set (t : Table) (name : Bytes) (n : Node) : Table :=
  match t with
  | [] => [(name, n)]
  | (m, old) :: rest => if m = name then (m, n) :: rest else (m, old) :: set rest name n

/-- The table at a key; of a list of tables the last. -/
def at? : Key → Table → Option Table
  | [], t => some t
  | name :: rest, t =>
    match t.get? name with
    | some (.table u) => at? rest u
    | some (.tables us) => us.getLast?.bind (at? rest)
    | _ => none

/-- The table with the one at a key changed. Fails where there is none or it cannot be changed. -/
def alter? (f : Table → Option Table) : Key → Table → Option Table
  | [], t => f t
  | name :: rest, t =>
    match t.get? name with
    | some (.table u) => (alter? f rest u).map fun u => t.set name (.table u)
    | some (.tables us) =>
      (us.getLast?.bind (alter? f rest)).map fun u => t.set name (.tables (us.dropLast ++ [u]))
    | _ => none

/-- The table with those along a key made as far as they are missing. Fails where a value is in the
way. -/
def grow? : Key → Table → Option Table
  | [], t => some t
  | name :: rest, t =>
    match t.get? name with
    | none => (grow? rest []).map fun u => t.set name (.table u)
    | some (.table u) => (grow? rest u).map fun u => t.set name (.table u)
    | some (.tables us) =>
      (us.getLast?.bind (grow? rest)).map fun u => t.set name (.tables (us.dropLast ++ [u]))
    | some (.leaf _) => none

/-- How many parts at the start of a key lead to tables that are there. -/
def reach : Key → Table → Nat
  | [], _ => 0
  | name :: rest, t =>
    match t.get? name with
    | some (.table u) => reach rest u + 1
    | some (.tables us) => (us.getLast?.map (reach rest)).getD 0 + 1
    | _ => 0

end Table

mutual

/-- An inline table by itself: each entry under the last part of its key, and of two with the same last
part the later one. -/
def Value.node : Value → Node
  | .table entries => .table (Value.lastParts [] entries)
  | v => .leaf v

def Value.lastParts (t : Table) : List (Key × Value) → Table
  | [] => t
  | (key, v) :: rest => Value.lastParts (t.set (key.getLast?.getD []) v.node) rest

end

/-- What is noted of a key: it names an implicit table, or it holds a list. -/
structure Flags where
  implicit : Bool := false
  list : Bool := false

/-- The notes on keys, part by part. -/
inductive Notes
  | node (flags : Flags) (parts : List (Bytes × Notes))

namespace Notes

def none : Notes := .node {} []

def flags : Notes → Flags
  | .node f _ => f

def parts : Notes → List (Bytes × Notes)
  | .node _ b => b

def child (n : Notes) (part : Bytes) : Notes :=
  ((n.parts.find? fun (p, _) => p == part).map Prod.snd).getD .none

def get (n : Notes) : Key → Flags
  | [] => n.flags
  | part :: rest => (n.child part).get rest

def update (f : Flags → Flags) : Key → Notes → Notes
  | [], n => .node (f n.flags) n.parts
  | part :: rest, n =>
    .node n.flags ((part, update f rest (n.child part)) :: n.parts.filter fun (p, _) => p != part)

end Notes

/-- A document in the making: its tables, what is noted of keys, and the keys given so far, last first. -/
structure Draft where
  root : Table := []
  notes : Notes := .none
  given : List Key := []

namespace Draft

/-- Declares a table implicit, or no longer so. -/
def mark (d : Draft) (key : Key) (implicit : Bool) : Draft :=
  { d with notes := d.notes.update (fun f => { f with implicit }) key }

/-- Notes whether a name holds a list. The empty name stands for the table it is in. -/
def note (d : Draft) (inside : Key) (name : Bytes) (isList : Bool) : Draft :=
  let key := if name.isEmpty && !inside.isEmpty then inside else inside ++ [name]
  { d with notes := d.notes.update (fun f => { f with list := isList }) key }

/-- Gives a name in a table a node. Fails where that table does not exist or the name may not be given
again. A name that held a list takes the new node, one that held an implicit table keeps it. -/
def give (d : Draft) (inside : Key) (name : Bytes) (n : Node) : Option Draft := do
  let key := inside ++ [name]
  let flags := d.notes.get key
  let t ← Table.at? inside d.root
  let again := (t.get? name).isSome
  if again && !flags.list then
    if flags.implicit then return d.mark key false else none
  else
    let root ← Table.alter? (fun t => some (t.set name n)) inside d.root
    let d := { d with root }
    return if again then d.mark key false else d

/-- Makes the tables along a key, as far as they are missing. Made this way they are implicit. -/
def make (d : Draft) (key : Key) : Option Draft := do
  let there := Table.reach key d.root
  let root ← Table.grow? key d.root
  let missing := (List.range (key.length - there)).map fun i => key.take (there + i + 1)
  return missing.foldl (fun d k => d.mark k true) { d with root }

def openTable (d : Draft) (key : Key) : Option Draft := do
  let d ← d.make key.dropLast
  d.give key.dropLast (key.getLast?.getD []) (.table [])

/-- Adds a table to the list of tables at a key. -/
def openItem (d : Draft) (key : Key) : Option Draft := do
  let d ← d.make key.dropLast
  let name := key.getLast?.getD []
  let root ← Table.alter? (fun t =>
    match t.get? name with
    | none => some (t.set name (.tables [[]]))
    | some (.tables items) => some (t.set name (.tables (items ++ [[]])))
    | some _ => none) key.dropLast d.root
  return { d with root }

/-- Opens the tables that all but the last part of a key name, and tells the key of the innermost. -/
def descend : Draft → Key → Key → Option (Draft × Key)
  | d, inside, name :: next :: rest => do
    let key := inside ++ [name]
    descend (← (d.mark key true).openTable key) key (next :: rest)
  | d, inside, _ => some (d, inside)

mutual

/-- What a value does to the draft before it is given to its name: an inline table opens a table and fills
it, and a list marks its name. -/
def prepare (d : Draft) (inside : Key) (name : Bytes) (inList : Bool) : Value → Option Draft
  | .table entries => do
    let key := inside ++ [name]
    let d := d.mark key true
    let d ← if inList then d.openItem key else d.openTable key
    fill d key entries
  | .list items => prepareAll (d.note inside name true) inside name items
  | _ => some d

def prepareAll (d : Draft) (inside : Key) (name : Bytes) : List Value → Option Draft
  | [] => some d
  | v :: rest => do prepareAll (← prepare d inside name true v) inside name rest

def fill (d : Draft) (inside : Key) : List (Key × Value) → Option Draft
  | [] => some d
  | (key, v) :: rest => do
    let (d, inner) ← descend d inside key
    let name := key.getLast?.getD []
    let d := { d with given := (inner ++ [name]) :: d.given }
    let d ← prepare d inner name false v
    let d ← d.give inner name v.node
    let d := d.note inner name (match v with
      | .list _ => true
      | _ => false)
    fill d inside rest

end

/-- Takes a statement in. The second key is the table that entries go to. -/
def add (state : Draft × Key) (st : Statement) : Option (Draft × Key) :=
  let (d, inside) := state
  match st with
  | .entry key v => do return (← fill d inside [(key, v)], inside)
  | .table key => do
    let d := (← d.openTable key).note key [] false
    return ({ d with given := key :: d.given }, key)
  | .item key => do
    let d := (← d.openItem key).note key [] false
    return ({ d with given := key :: d.given }, key)

end Draft

/-- A document: its tables, and the keys given in it in order. -/
structure Document where
  root : Table
  keys : List Key

def Document.read? (source : Bytes) : Option Document := do
  let (d, _) ← (← statements? source).foldlM Draft.add ({}, [])
  return { root := d.root, keys := d.given.reverse }

end FlowBlocks.Toml
