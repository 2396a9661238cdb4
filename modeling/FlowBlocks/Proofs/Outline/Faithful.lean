import FlowBlocks.Proofs.BlockFlow.Cut
import FlowBlocks.Proofs.Outline.Abridged
import FlowBlocks.Proofs.Outline.Cover
/-!
Outlines say what their flows say. Below 2^32 units nothing is lost in words of 32 bits: ranges, neighbours,
entries, exits and orphans read back as the numbers of the flow, and the units of a block are those that its
range cuts out of the rendered body.
-/
namespace FlowBlocks

variable {U : Type}

/-- The outline gives the flow's units by their rendering and all else by its numbers, each list in the flow's
order. -/
structure Outline.Depicts (o : Outline) (render : U → Bytes) (f : BlockFlow U) : Prop where
  units : o.unitList = f.units.map render
  ranges : o.blockList.map (fun w => (w.start.toNat, w.len.toNat)) = f.blocks.map fun b => (b.start, b.size)
  preds : o.blockList.map (fun w => w.predList.map UInt32.toNat) = f.blocks.map fun b => b.preds
  succs : o.blockList.map (fun w => w.succList.map UInt32.toNat) = f.blocks.map fun b => b.succs
  heads : o.headList.map UInt32.toNat = f.heads
  tails : o.tailList.map UInt32.toNat = f.tails
  orphans : o.orphanList.map UInt32.toNat = f.orphans

namespace BlockFlow.Formed

variable {isLeader : U → Bool} {units : List U} {f : BlockFlow U} {b : Block U}
  (hf : f.Formed isLeader units) (hfit : units.length < 0x100000000)
include hf hfit

theorem range_abridged (hb : b ∈ f.blocks) :
    b.abridged.start.toNat = b.start ∧ b.abridged.len.toNat = b.size := by
  have hrange := hf.tiling.range_le hb
  exact ⟨toNat_toUInt32 (by omega), toNat_toUInt32 (by omega)⟩

theorem stop_abridged_le (render : U → Bytes) (name : Bytes) {w : OutlineBlock}
    (hw : w ∈ (f.abridged render name).blockList) : w.stop ≤ (f.abridged render name).unitList.length := by
  obtain ⟨b, hb, rfl⟩ := List.mem_map.mp hw
  obtain ⟨hstart, hlen⟩ := hf.range_abridged hfit hb
  have hcover : f.units = units := hf.tiling.covers
  rw [abridged_unitList, List.length_map, hcover, OutlineBlock.stop, hstart, hlen]
  exact hf.tiling.range_le hb

/-- The outline of a flow that was built passes the range check. -/
theorem rangeReport_eq_none (render : U → Bytes) (name : Bytes) :
    Outline.rangeReport (some (f.abridged render name)) = none := by
  obtain ⟨-, -, hindices⟩ := Outline.shapeComplaints_eq_nil_iff.mp (hf.shapeComplaints_eq_nil hfit render name)
  rw [Outline.rangeReport_eq_none, hindices.rangeErrors_eq_nil_iff]
  exact fun w hw => hf.stop_abridged_le hfit render name hw

theorem map_toNat_toUInt32 {is : List Nat} (his : ∀ i ∈ is, i < f.size) :
    (is.map Nat.toUInt32).map UInt32.toNat = is := by
  have hsize := hf.size_lt hfit
  have hword : ∀ i ∈ is, i.toUInt32.toNat = i := fun i hi => toNat_toUInt32 (Nat.lt_trans (his i hi) hsize)
  rw [List.map_map]
  exact (List.map_congr_left hword).trans (List.map_id' is)

theorem depicts (render : U → Bytes) (name : Bytes) : (f.abridged render name).Depicts render f := by
  refine ⟨rfl, ?_, ?_, ?_, hf.map_toNat_toUInt32 hfit hf.heads, hf.map_toNat_toUInt32 hfit hf.tails, ?_⟩
  · rw [abridged_blockList, List.map_map]
    refine List.map_congr_left fun b hb => ?_
    obtain ⟨hstart, hlen⟩ := hf.range_abridged hfit hb
    exact congrArg₂ Prod.mk hstart hlen
  · rw [abridged_blockList, List.map_map]
    exact List.map_congr_left fun b hb => hf.map_toNat_toUInt32 hfit (hf.preds_lt hb)
  · rw [abridged_blockList, List.map_map]
    exact List.map_congr_left fun b hb => hf.map_toNat_toUInt32 hfit (hf.succs_lt hb)
  · rw [abridged_orphanList]
    exact hf.map_toNat_toUInt32 hfit hf.orphans_lt

theorem stretch_abridged (render : U → Bytes) (hb : b ∈ f.blocks) :
    ((f.units.map render).drop b.abridged.start.toNat).take b.abridged.len.toNat = b.units.map render := by
  obtain ⟨hstart, hlen⟩ := hf.range_abridged hfit hb
  have hcover : f.units = units := hf.tiling.covers
  rw [hstart, hlen, ← List.map_drop, ← List.map_take, hcover, ← hf.tiling.stretch hb]

/-- Where the flow has a block the outline has its units, and it has none elsewhere. -/
theorem blockUnits?_abridged (render : U → Bytes) (name : Bytes) (k : Int) :
    (f.abridged render name).blockUnits? k = (f.block? k).map fun b => b.units.map render := by
  cases k with
  | negSucc k => rfl
  | ofNat k =>
      have hblock : (f.abridged render name).blockList[k]? = f.blocks[k]?.map Block.abridged := List.getElem?_map ..
      cases hb : f.blocks[k]? with
      | none =>
          rw [hb] at hblock
          simp [Outline.blockUnits?, BlockFlow.block?, hblock, hb]
      | some b =>
          rw [hb, Option.map_some] at hblock
          have hstop := hf.stop_abridged_le hfit render name (List.mem_of_getElem? hblock)
          rw [Outline.blockUnits?_eq hblock hstop, BlockFlow.block?, hb]
          exact congrArg some (hf.stretch_abridged hfit render (List.mem_of_getElem? hb))

theorem allBlockUnits_abridged (render : U → Bytes) (name : Bytes) :
    (f.abridged render name).allBlockUnits = f.units.map render := by
  rw [Outline.allBlockUnits_eq fun w hw => hf.stop_abridged_le hfit render name hw, abridged_blockList,
    List.flatMap_map, BlockFlow.units, List.map_flatMap]
  exact List.flatMap_congr fun b hb => hf.stretch_abridged hfit render hb

end BlockFlow.Formed

/-- The outline of a flow that was built from distinct units, by any rule and with any rendering. There is
one, it passes the range check, its lists are the flow's, its blocks have the flow's units and together those of
the body, and the full check complains of nothing but edges that are listed at one end only. -/
theorem outline_faithful [DecidableEq U] (unitName : U → Bytes) (name : Bytes) {rule : LeaderRule U}
    {g : FlowGraph U} {handlers : List U} (parent : Nat) (r : Trace.Recorder) {f : BlockFlow U}
    (h : (buildTraced unitName name rule g handlers parent r).1 = .ok f) (hnd : g.units.Nodup)
    (hfit : g.units.length < 2 ^ 32) (render : U → Bytes) (label : Bytes) :
    ∃ o, Outline.ofFlow render label f = .ok o ∧ o.name = label ∧ Outline.rangeReport (some o) = none ∧
      o.Depicts render f ∧ (∀ k, o.blockUnits? k = (f.block? k).map fun b => b.units.map render) ∧
      o.allBlockUnits = o.unitList ∧ o.unitList = g.units.map render ∧
      ∀ c, c ∈ o.complaints ↔
        (∃ b ∈ f.blocks, ∃ d ∈ f.blocks, c = .unmatchedSucc b.index d.index.toUInt32 ∧
          d.index ∈ b.succs ∧ b.index ∉ d.preds) ∨
        ∃ b ∈ f.blocks, ∃ d ∈ f.blocks, c = .unmatchedPred b.index d.index.toUInt32 ∧
          d.index ∈ b.preds ∧ b.index ∉ d.succs := by
  have hbuild : build rule g handlers = .ok f := by rwa [buildTraced_fst] at h
  have hf := build_formed hbuild
  have hcover : f.units = g.units := hf.tiling.covers
  refine ⟨f.abridged render label, hf.ofFlow_eq_ok hfit (build_units_ne_nil hbuild) render label, rfl,
    hf.rangeReport_eq_none hfit render label, hf.depicts hfit render label,
    hf.blockUnits?_abridged hfit render label, hf.allBlockUnits_abridged hfit render label, ?_, ?_⟩
  · rw [BlockFlow.abridged_unitList, hcover]
  · intro c
    exact hf.mem_complaints hfit render label (build_first hbuild hnd)

/-- A loop that is no entry of its graph, and an exit that the graph enters from inside the loop. -/
theorem loop_outline_faithful :
    ∃ f o, (buildTraced position [] (fun _ _ => [7, 9]) (loopGraph [7, 8, 9]) [] 0 {}).1 = .ok f ∧
      Outline.ofFlow position (bytes "f") f = .ok o ∧ Outline.rangeReport (some o) = none ∧
      o.headList.map UInt32.toNat = [0] ∧ o.blockUnits? 0 = some [position 7, position 8] ∧
      o.allBlockUnits = [7, 8, 9].map position ∧ ∀ c, c ∈ o.complaints ↔ c = .unmatchedPred 1 0 := by
  have h : (buildTraced position [] (fun _ _ => [7, 9]) (loopGraph [7, 8, 9]) [] 0 {}).1 =
      .ok ⟨[⟨⟨7, [8]⟩, 0, 0, [0], [0]⟩, ⟨⟨9, []⟩, 1, 2, [0], []⟩], [0], [1], []⟩ := by decide
  obtain ⟨o, hflow, -, hrange, hdepicts, hblock, hall, hunits, hcomplaints⟩ :=
    outline_faithful position [] 0 {} h (by decide) (by decide) position (bytes "f")
  refine ⟨_, o, h, hflow, hrange, hdepicts.heads, hblock 0, hall.trans hunits, fun c => ?_⟩
  rw [hcomplaints]
  simp

end FlowBlocks
