import FlowBlocks.Outline.Check
import FlowBlocks.Proofs.BlockFlow.Built
/-!
Outlines of flows that were built. Below 2^32 units every number fits its word, so there is an outline, and
it lists what the flow lists (`abridged`). Of all that the full check asks, only the matching of edges can
fail on it: `mem_complaints` says which edges are complained of.
-/
namespace FlowBlocks

theorem toNat_toUInt32 {n : Nat} (h : n < 0x100000000) : n.toUInt32.toNat = n :=
  UInt32.toNat_ofNat_of_lt' h

theorem toUInt32_inj {m n : Nat} (hm : m < 0x100000000) (hn : n < 0x100000000) :
    m.toUInt32 = n.toUInt32 ↔ m = n := by
  constructor
  · intro h
    rw [← toNat_toUInt32 hm, h, toNat_toUInt32 hn]
  · rintro rfl
    rfl

variable {U : Type}

/-- A block in words of 32 bits, whether or not its numbers fit. -/
def Block.abridged (b : Block U) : OutlineBlock where
  start := b.start.toUInt32
  len := b.size.toUInt32
  preds := some (b.preds.map Nat.toUInt32)
  succs := some (b.succs.map Nat.toUInt32)

def BlockFlow.abridged (render : U → Bytes) (name : Bytes) (f : BlockFlow U) : Outline where
  name := name
  units := some (f.units.map render)
  blocks := some (f.blocks.map Block.abridged)
  heads := some (f.heads.map Nat.toUInt32)
  tails := some (f.tails.map Nat.toUInt32)
  orphans := if f.orphans.isEmpty then none else some (f.orphans.map Nat.toUInt32)

section

variable (render : U → Bytes) (name : Bytes) (f : BlockFlow U)

theorem BlockFlow.abridged_unitList : (f.abridged render name).unitList = f.units.map render := rfl

theorem BlockFlow.abridged_blockList :
    (f.abridged render name).blockList = f.blocks.map Block.abridged := rfl

theorem BlockFlow.abridged_headList :
    (f.abridged render name).headList = f.heads.map Nat.toUInt32 := rfl

theorem BlockFlow.abridged_tailList :
    (f.abridged render name).tailList = f.tails.map Nat.toUInt32 := rfl

theorem BlockFlow.abridged_orphanList :
    (f.abridged render name).orphanList = f.orphans.map Nat.toUInt32 := by
  unfold Outline.orphanList abridged
  split
  · next h => rw [List.isEmpty_iff.mp h]; rfl
  · rfl

end

section Tiling

variable {isLeader : U → Bool} {units : List U} {blocks : List (Block U)} {b : Block U}

theorem Tiling.range_le (h : Tiling isLeader units blocks) (hb : b ∈ blocks) :
    b.start + b.size ≤ units.length := by
  obtain ⟨before, after, rfl, hlen⟩ := h.split hb
  simp only [List.length_append, Run.length_units]
  omega

theorem length_le_flatMap_units (blocks : List (Block U)) :
    blocks.length ≤ (blocks.flatMap fun b => b.units).length := by
  induction blocks with
  | nil => exact Nat.le_refl 0
  | cons b bs ih =>
      rw [List.length_cons, List.flatMap_cons, List.length_append, Run.length_units, Run.size]
      omega

theorem Placed.tiling_abridged {i s : Nat} (h : Placed i s blocks)
    (hfit : s + (blocks.flatMap fun b => b.units).length < 0x100000000) :
    Outline.tiling i s.toUInt32 (blocks.map Block.abridged) =
      ([], (s + (blocks.flatMap fun b => b.units).length).toUInt32) := by
  induction blocks generalizing i s with
  | nil => rfl
  | cons b bs ih =>
      obtain ⟨-, rfl, hrest⟩ := h
      rw [List.flatMap_cons, List.length_append, Run.length_units, ← Nat.add_assoc] at hfit ⊢
      have hsize : b.size < 0x100000000 := by omega
      have hpos : b.size.toUInt32 ≠ 0 := by
        intro hzero
        have hnat := congrArg UInt32.toNat hzero
        rw [toNat_toUInt32 hsize] at hnat
        exact Nat.succ_ne_zero _ hnat
      have hnext : b.start.toUInt32 + b.size.toUInt32 = (b.start + b.size).toUInt32 :=
        (UInt32.ofNat_add b.start b.size).symm
      have hlater := ih hrest hfit
      simp only [List.map_cons, Outline.tiling, Block.abridged, hnext, if_neg hpos]
      exact congrArg₂ Prod.mk (congrArg Prod.fst hlater) (congrArg Prod.snd hlater)

end Tiling

theorem toWord_eq_ok {n : Nat} (what : Bytes) (h : n < 0x100000000) : toWord what n = .ok n.toUInt32 :=
  if_pos h

theorem mem_map_toUInt32 {is : List Nat} {i : Nat} (his : ∀ j ∈ is, j < 0x100000000)
    (hi : i < 0x100000000) : i.toUInt32 ∈ is.map Nat.toUInt32 ↔ i ∈ is := by
  constructor
  · intro h
    obtain ⟨j, hj, heq⟩ := List.mem_map.mp h
    rw [← (toUInt32_inj (his j hj) hi).mp heq]
    exact hj
  · exact List.mem_map_of_mem

theorem mapM_toWord_eq_ok (what : Bytes) {is : List Nat} (h : ∀ i ∈ is, i < 0x100000000) :
    is.mapM (toWord what) = .ok (is.map Nat.toUInt32) :=
  mapM_eq_ok fun i hi => toWord_eq_ok what (h i hi)

theorem outOfRange_eq_nil {what : Bytes} {n : Nat} {is : List Nat} (hn : n < 0x100000000)
    (h : ∀ i ∈ is, i < n) : Outline.outOfRange what n (is.map Nat.toUInt32) = [] := by
  rw [Outline.outOfRange, List.map_eq_nil_iff, List.filter_eq_nil_iff]
  intro w hw
  obtain ⟨i, hi, rfl⟩ := List.mem_map.mp hw
  have hlt := h i hi
  rw [toNat_toUInt32 (by omega)]
  simpa using hlt

theorem BlockFlow.Formed.mem_zipIdx_abridged {isLeader : U → Bool} {units : List U} {f : BlockFlow U}
    (hf : f.Formed isLeader units) {w : OutlineBlock} {i : Nat} :
    (w, i) ∈ (f.blocks.map Block.abridged).zipIdx ↔ ∃ b ∈ f.blocks, b.abridged = w ∧ b.index = i := by
  rw [List.mem_zipIdx_iff_getElem?, List.getElem?_map, Option.map_eq_some_iff]
  constructor
  · rintro ⟨b, hb, rfl⟩
    exact ⟨b, List.mem_of_getElem? hb, rfl, hf.tiling.index_eq hb⟩
  · rintro ⟨b, hb, rfl, rfl⟩
    exact ⟨b, hf.tiling.getElem?_index hb, rfl⟩

section Formed

variable {isLeader : U → Bool} {units : List U} {f : BlockFlow U} {b d : Block U}
  (hf : f.Formed isLeader units) (hfit : units.length < 0x100000000)
include hf hfit

theorem BlockFlow.Formed.size_lt : f.size < 0x100000000 := by
  have hle := length_le_flatMap_units f.blocks
  rw [hf.tiling.covers] at hle
  exact Nat.lt_of_le_of_lt hle hfit

theorem BlockFlow.Formed.ofBlock_eq_ok (hb : b ∈ f.blocks) : OutlineBlock.ofBlock b = .ok b.abridged := by
  have hrange := hf.tiling.range_le hb
  have hsize := hf.size_lt hfit
  rw [OutlineBlock.ofBlock, toWord_eq_ok _ (by omega), toWord_eq_ok _ (by omega),
    mapM_toWord_eq_ok _ fun i hi => Nat.lt_trans (hf.preds_lt hb i hi) hsize,
    mapM_toWord_eq_ok _ fun i hi => Nat.lt_trans (hf.succs_lt hb i hi) hsize]
  rfl

/-- A flow that was built has an outline. -/
theorem BlockFlow.Formed.ofFlow_eq_ok (hne : units ≠ []) (render : U → Bytes) (name : Bytes) :
    Outline.ofFlow render name f = .ok (f.abridged render name) := by
  have hblocks : f.blocks.isEmpty = false := by
    simpa using hf.tiling.ne_nil hne
  have hsize := hf.size_lt hfit
  rw [Outline.ofFlow, hblocks, mapM_eq_ok fun b hb => hf.ofBlock_eq_ok hfit hb,
    mapM_toWord_eq_ok _ fun i hi => Nat.lt_trans (hf.heads i hi) hsize,
    mapM_toWord_eq_ok _ fun i hi => Nat.lt_trans (hf.tails i hi) hsize,
    mapM_toWord_eq_ok _ fun i hi => Nat.lt_trans (hf.orphans_lt i hi) hsize]
  rw [BlockFlow.abridged, ← List.isEmpty_map (f := Nat.toUInt32)]
  rfl

/-- Tiling and ranges give no cause for complaint. -/
theorem BlockFlow.Formed.shapeComplaints_eq_nil (render : U → Bytes) (name : Bytes) :
    (f.abridged render name).shapeComplaints = [] := by
  have hsize := hf.size_lt hfit
  have hcover : (f.blocks.flatMap fun b => b.units).length = units.length :=
    congrArg List.length hf.tiling.covers
  have htiles : Outline.tiling 0 0 (f.blocks.map Block.abridged) = ([], units.length.toUInt32) := by
    have htiles := hf.tiling.placed.tiling_abridged (by omega)
    rwa [Nat.zero_add, hcover] at htiles
  have hunits : units.length.toUInt32.toNat = (f.units.map render).length := by
    rw [toNat_toUInt32 hfit, List.length_map]
    exact hcover.symm
  have hlen : (f.blocks.map Block.abridged).length = f.size := List.length_map _
  rw [Outline.shapeComplaints, abridged_orphanList]
  simp only [abridged_blockList, abridged_unitList, abridged_headList, abridged_tailList, htiles, hlen,
    if_pos hunits, outOfRange_eq_nil hsize hf.heads, outOfRange_eq_nil hsize hf.tails,
    outOfRange_eq_nil hsize hf.orphans_lt, List.nil_append]
  refine List.flatMap_eq_nil_iff.mpr ?_
  rintro ⟨w, i⟩ hw
  obtain ⟨b, hb, rfl, -⟩ := hf.mem_zipIdx_abridged.mp hw
  exact congrArg₂ (· ++ ·) (outOfRange_eq_nil hsize (hf.preds_lt hb))
    (outOfRange_eq_nil hsize (hf.succs_lt hb))

theorem BlockFlow.Formed.index_fits (hb : b ∈ f.blocks) : b.index < 0x100000000 :=
  Nat.lt_trans (hf.tiling.index_lt hb) (hf.size_lt hfit)

theorem BlockFlow.Formed.predsOf_abridged (render : U → Bytes) (name : Bytes) (hd : d ∈ f.blocks) :
    (f.abridged render name).predsOf d.index.toUInt32 = d.preds.map Nat.toUInt32 := by
  rw [Outline.predsOf, abridged_blockList, toNat_toUInt32 (hf.index_fits hfit hd), List.getElem?_map,
    hf.tiling.getElem?_index hd]
  rfl

theorem BlockFlow.Formed.succsOf_abridged (render : U → Bytes) (name : Bytes) (hd : d ∈ f.blocks) :
    (f.abridged render name).succsOf d.index.toUInt32 = d.succs.map Nat.toUInt32 := by
  rw [Outline.succsOf, abridged_blockList, toNat_toUInt32 (hf.index_fits hfit hd), List.getElem?_map,
    hf.tiling.getElem?_index hd]
  rfl

/-- One list of a block against the lists of the blocks it names. -/
theorem BlockFlow.Formed.mem_unmatched {is : List Nat} {look : Block U → List Nat}
    {lookOf : UInt32 → List UInt32} {c : Outline.Complaint} (complaint : UInt32 → Outline.Complaint)
    (his : ∀ i ∈ is, i < f.size) (hlook : ∀ d ∈ f.blocks, ∀ i ∈ look d, i < f.size)
    (hlookOf : ∀ d ∈ f.blocks, lookOf d.index.toUInt32 = (look d).map Nat.toUInt32) (hb : b ∈ f.blocks) :
    c ∈ ((is.map Nat.toUInt32).filter fun j => !(lookOf j).contains b.index.toUInt32).map complaint ↔
      ∃ d ∈ f.blocks, c = complaint d.index.toUInt32 ∧ d.index ∈ is ∧ b.index ∉ look d := by
  have hsize := hf.size_lt hfit
  have hlisted : ∀ d ∈ f.blocks, (!(lookOf d.index.toUInt32).contains b.index.toUInt32) = true ↔
      b.index ∉ look d := by
    intro d hd
    rw [Bool.not_eq_true', ← Bool.not_eq_true, List.contains_iff_mem, hlookOf d hd,
      mem_map_toUInt32 (fun i hi => Nat.lt_trans (hlook d hd i hi) hsize) (hf.index_fits hfit hb)]
  simp only [List.mem_map, List.mem_filter]
  constructor
  · rintro ⟨_, ⟨⟨i, hi, rfl⟩, hmissing⟩, rfl⟩
    obtain ⟨d, hd, rfl⟩ := hf.exists_block (his i hi)
    exact ⟨d, hd, rfl, hi, (hlisted d hd).mp hmissing⟩
  · rintro ⟨d, hd, rfl, hi, hmissing⟩
    exact ⟨_, ⟨⟨_, hi, rfl⟩, (hlisted d hd).mpr hmissing⟩, rfl⟩

theorem BlockFlow.Formed.orphanComplaints_eq_nil (render : U → Bytes) (name : Bytes) :
    ((f.abridged render name).orphanList.flatMap fun i =>
      (if (f.abridged render name).headList.contains i then [Outline.Complaint.orphanIsHead i] else []) ++
        if ((f.abridged render name).predsOf i).isEmpty then [] else [.orphanHasPreds i]) = [] := by
  refine List.flatMap_eq_nil_iff.mpr fun w hw => ?_
  rw [abridged_orphanList] at hw
  obtain ⟨i, hi, rfl⟩ := List.mem_map.mp hw
  obtain ⟨b, hb, rfl, hnone, hout⟩ := (hf.orphans i).mp hi
  have hnot : (f.abridged render name).headList.contains b.index.toUInt32 = false := by
    rw [← Bool.not_eq_true, List.contains_iff_mem, abridged_headList, mem_map_toUInt32
      (fun i hi => Nat.lt_trans (hf.heads i hi) (hf.size_lt hfit)) (hf.index_fits hfit hb)]
    exact hout
  rw [hnot, hf.predsOf_abridged hfit render name hb, hnone]
  rfl

/-- All that is complained of: successors and predecessors that are not listed at the other end. -/
theorem BlockFlow.Formed.mem_complaints (render : U → Bytes) (name : Bytes) (hfirst : 0 ∈ f.heads)
    {c : Outline.Complaint} :
    c ∈ (f.abridged render name).complaints ↔
      (∃ b ∈ f.blocks, ∃ d ∈ f.blocks, c = .unmatchedSucc b.index d.index.toUInt32 ∧
        d.index ∈ b.succs ∧ b.index ∉ d.preds) ∨
      ∃ b ∈ f.blocks, ∃ d ∈ f.blocks, c = .unmatchedPred b.index d.index.toUInt32 ∧
        d.index ∈ b.preds ∧ b.index ∉ d.succs := by
  have hhead : (f.abridged render name).headList.contains 0 = true :=
    List.contains_iff_mem.mpr (List.mem_map_of_mem hfirst)
  have hsucc : ∀ b ∈ f.blocks, _ := fun b hb =>
    hf.mem_unmatched (c := c) hfit (.unmatchedSucc b.index) (hf.succs_lt hb) (fun _ => hf.preds_lt)
      (fun d hd => hf.predsOf_abridged hfit render name hd) hb
  have hpred : ∀ b ∈ f.blocks, _ := fun b hb =>
    hf.mem_unmatched (c := c) hfit (.unmatchedPred b.index) (hf.preds_lt hb) (fun _ => hf.succs_lt)
      (fun d hd => hf.succsOf_abridged hfit render name hd) hb
  have hcount : (f.abridged render name).blockList.length < 0x100000000 := by
    rw [abridged_blockList, List.length_map]
    exact hf.size_lt hfit
  rw [Outline.complaints, if_pos hcount, hf.shapeComplaints_eq_nil hfit]
  change c ∈ Outline.edgeComplaints _ ↔ _
  rw [Outline.edgeComplaints, hhead, hf.orphanComplaints_eq_nil hfit, List.append_nil, Bool.not_true,
    Bool.and_false, if_neg Bool.false_ne_true, List.append_nil, List.mem_flatMap]
  constructor
  · rintro ⟨⟨w, i⟩, hw, hc⟩
    obtain ⟨b, hb, rfl, rfl⟩ := hf.mem_zipIdx_abridged.mp hw
    rcases List.mem_append.mp hc with hc | hc
    · exact Or.inl ⟨b, hb, (hsucc b hb).mp hc⟩
    · exact Or.inr ⟨b, hb, (hpred b hb).mp hc⟩
  · rintro (⟨b, hb, hc⟩ | ⟨b, hb, hc⟩)
    · exact ⟨_, hf.mem_zipIdx_abridged.mpr ⟨b, hb, rfl, rfl⟩,
        List.mem_append_left _ ((hsucc b hb).mpr hc)⟩
    · exact ⟨_, hf.mem_zipIdx_abridged.mpr ⟨b, hb, rfl, rfl⟩,
        List.mem_append_right _ ((hpred b hb).mpr hc)⟩

end Formed

end FlowBlocks
