import FlowBlocks.BlockFlow.Basic
/-!
Outlines: a block flow by indices and rendered units alone, so that it can be stored, compared and printed
without the units themselves. Numbers have 32 bits. A list may be missing, which a stored outline keeps
apart from an empty one.
-/
namespace FlowBlocks

/-- A block by its range of units and its neighbours. -/
structure OutlineBlock where
  start : UInt32 := 0
  len : UInt32 := 0
  preds : Option (List UInt32) := none
  succs : Option (List UInt32) := none
deriving DecidableEq, Repr

structure Outline where
  name : Bytes := []
  units : Option (List Bytes) := none
  blocks : Option (List OutlineBlock) := none
  heads : Option (List UInt32) := none
  tails : Option (List UInt32) := none
  orphans : Option (List UInt32) := none
deriving DecidableEq, Repr

/-- A number of a block flow that does not fit into 32 bits; the text says which. -/
structure OutlineError where
  what : Bytes
deriving DecidableEq, Repr

def OutlineError.message (e : OutlineError) : Bytes := e.what ++ bytes ": out of range"

/-- A number on 32 bits. -/
def toWord (what : Bytes) (n : Nat) : Except OutlineError UInt32 :=
  if n < 0x100000000 then .ok n.toUInt32 else .error ⟨what⟩

namespace OutlineBlock

/-- The position past the last unit. -/
def stop (b : OutlineBlock) : Nat := b.start.toNat + b.len.toNat

def predList (b : OutlineBlock) : List UInt32 := b.preds.getD []

def succList (b : OutlineBlock) : List UInt32 := b.succs.getD []

def ofBlock {U : Type} (b : Block U) : Except OutlineError OutlineBlock := do
  let name := blockName b.index
  let start ← toWord (name ++ bytes ": start") b.start
  let len ← toWord (name ++ bytes ": length") b.size
  let preds ← b.preds.mapM (toWord (name ++ bytes ": preds"))
  let succs ← b.succs.mapM (toWord (name ++ bytes ": succs"))
  return ⟨start, len, some preds, some succs⟩

end OutlineBlock

namespace Outline

def unitList (o : Outline) : List Bytes := o.units.getD []

def blockList (o : Outline) : List OutlineBlock := o.blocks.getD []

def headList (o : Outline) : List UInt32 := o.heads.getD []

def tailList (o : Outline) : List UInt32 := o.tails.getD []

def orphanList (o : Outline) : List UInt32 := o.orphans.getD []

/-- The outline of a flow, its units rendered by `render`. A flow without blocks has a name and nothing
else. Orphans are listed only where there are any. -/
def ofFlow {U : Type} (render : U → Bytes) (name : Bytes) (f : BlockFlow U) :
    Except OutlineError Outline :=
  if f.blocks.isEmpty then .ok { name }
  else do
    let blocks ← f.blocks.mapM OutlineBlock.ofBlock
    let heads ← f.heads.mapM (toWord (bytes "heads"))
    let tails ← f.tails.mapM (toWord (bytes "tails"))
    let orphans ← f.orphans.mapM (toWord (bytes "orphans"))
    return { name, units := some (f.units.map render), blocks := some blocks, heads := some heads
             tails := some tails, orphans := if orphans.isEmpty then none else some orphans }

/-- The units of block `i`, if there is such a block and its range lies within the units. -/
def blockUnits? (o : Outline) (i : Int) : Option (List Bytes) :=
  match i with
  | .negSucc _ => none
  | .ofNat n =>
    match o.blockList[n]? with
    | none => none
    | some b =>
      if b.stop ≤ o.unitList.length then some ((o.unitList.drop b.start.toNat).take b.len.toNat)
      else none

end Outline

end FlowBlocks
