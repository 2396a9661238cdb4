import Mathlib.Algebra.BigOperators.Group.List.Basic
import Mathlib.Algebra.GroupWithZero.Nat
import FlowBlocks.Outline.Check
/-!
What the full check says about the cover of an outline. It adds up positions on 32 bits, so an outline that
passes lies end to end only up to multiples of 2^32. It does so in earnest exactly if its blocks have fewer
than 2^32 units together, which is also when it passes the range check; then each unit is in one block.
-/
namespace FlowBlocks

/-- The unit at a position is one of the block's. -/
def OutlineBlock.Holds (b : OutlineBlock) (i : Nat) : Prop := b.start.toNat ≤ i ∧ i < b.stop

namespace Outline

/-- Blocks that are not empty lie end to end from one position to another. Positions do not wrap around. -/
def EndToEnd : Nat → List OutlineBlock → Nat → Prop
  | first, [], last => first = last
  | first, b :: bs, last => b.start.toNat = first ∧ 0 < b.len.toNat ∧ EndToEnd b.stop bs last

/-- How many units the blocks have together. -/
def total (bs : List OutlineBlock) : Nat := (bs.map fun b => b.len.toNat).sum

section Words

variable {i : Nat} {s : UInt32} {b : OutlineBlock} {bs : List OutlineBlock}

theorem total_cons (b : OutlineBlock) (bs : List OutlineBlock) :
    total (b :: bs) = b.len.toNat + total bs := List.sum_cons

theorem tiling_cons_snd (i : Nat) (s : UInt32) (b : OutlineBlock) (bs : List OutlineBlock) :
    (tiling i s (b :: bs)).2 = (tiling (i + 1) (b.start + b.len) bs).2 := rfl

theorem tiling_cons_eq_nil (h : (tiling i s (b :: bs)).1 = []) :
    b.start = s ∧ 0 < b.len.toNat ∧ (tiling (i + 1) (b.start + b.len) bs).1 = [] := by
  change (if b.len = 0 then [Complaint.emptyBlock i] else []) ++
    (if b.start = s then [] else [.wrongStart i b.start s]) ++
      (tiling (i + 1) (b.start + b.len) bs).1 = [] at h
  obtain ⟨hfront, hlater⟩ := List.append_eq_nil_iff.mp h
  obtain ⟨hlen, hstart⟩ := List.append_eq_nil_iff.mp hfront
  refine ⟨?_, ?_, hlater⟩
  · by_contra hne
    rw [if_neg hne] at hstart
    cases hstart
  · rw [Nat.pos_iff_ne_zero]
    intro hzero
    rw [if_pos (UInt32.toNat_inj.mp hzero)] at hlen
    cases hlen

theorem toNat_stop (b : OutlineBlock) : (b.start + b.len).toNat = b.stop % 2 ^ 32 :=
  UInt32.toNat_add b.start b.len

theorem pos_of_tiling (h : (tiling i s bs).1 = []) : ∀ b ∈ bs, 0 < b.len.toNat := by
  induction bs generalizing i s with
  | nil => simp
  | cons b bs ih =>
      obtain ⟨-, hpos, hlater⟩ := tiling_cons_eq_nil h
      intro c hc
      rcases List.mem_cons.mp hc with rfl | hc
      · exact hpos
      · exact ih hlater c hc

/-- The last position is right up to a multiple of 2^32. -/
theorem tiling_snd (h : (tiling i s bs).1 = []) :
    (tiling i s bs).2.toNat = (s.toNat + total bs) % 2 ^ 32 := by
  induction bs generalizing i s with
  | nil => exact (Nat.mod_eq_of_lt s.toNat_lt).symm
  | cons b bs ih =>
      obtain ⟨rfl, -, hlater⟩ := tiling_cons_eq_nil h
      rw [tiling_cons_snd, ih hlater, toNat_stop, Nat.mod_add_mod, total_cons, OutlineBlock.stop,
        Nat.add_assoc]

/-- No block that ends below 2^32 wraps around. -/
theorem endToEnd_of_stops (h : (tiling i s bs).1 = []) (hstop : ∀ b ∈ bs, b.stop < 2 ^ 32) :
    EndToEnd s.toNat bs (tiling i s bs).2.toNat := by
  -- the position `s` is a word; that it does not wrap is what each step takes from `hstop`
  induction bs generalizing i s with
  | nil => rfl
  | cons b bs ih =>
      obtain ⟨rfl, hpos, hlater⟩ := tiling_cons_eq_nil h
      have hrest := ih hlater fun c hc => hstop c (List.mem_cons_of_mem b hc)
      rw [toNat_stop, Nat.mod_eq_of_lt (hstop b List.mem_cons_self)] at hrest
      exact ⟨rfl, hpos, hrest⟩

theorem stop_lt_of_total (h : (tiling i s bs).1 = []) (hfit : s.toNat + total bs < 2 ^ 32) :
    ∀ b ∈ bs, b.stop < 2 ^ 32 := by
  induction bs generalizing i s with
  | nil => simp
  | cons b bs ih =>
      obtain ⟨rfl, -, hlater⟩ := tiling_cons_eq_nil h
      rw [total_cons, ← Nat.add_assoc] at hfit
      have hb : b.stop < 2 ^ 32 := Nat.lt_of_le_of_lt (Nat.le_add_right _ _) hfit
      intro c hc
      rcases List.mem_cons.mp hc with rfl | hc
      · exact hb
      · refine ih hlater ?_ c hc
        rw [toNat_stop, Nat.mod_eq_of_lt hb]
        exact hfit

end Words

namespace EndToEnd

variable {first last : Nat} {b : OutlineBlock} {bs : List OutlineBlock}

theorem last_eq (h : EndToEnd first bs last) : last = first + total bs := by
  induction bs generalizing first with
  | nil => exact h.symm
  | cons b bs ih =>
      obtain ⟨rfl, -, hrest⟩ := h
      rw [ih hrest, total_cons, OutlineBlock.stop, Nat.add_assoc]

theorem bounds (h : EndToEnd first bs last) : ∀ b ∈ bs, first ≤ b.start.toNat ∧ b.stop ≤ last := by
  induction bs generalizing first with
  | nil => simp
  | cons c bs ih =>
      obtain ⟨rfl, hpos, hrest⟩ := h
      have hlast := last_eq hrest
      intro b hb
      rcases List.mem_cons.mp hb with rfl | hb
      · exact ⟨Nat.le_refl _, by omega⟩
      · obtain ⟨hlow, hhigh⟩ := ih hrest b hb
        rw [OutlineBlock.stop] at hlow
        exact ⟨by omega, hhigh⟩

theorem existsUnique_holds (h : EndToEnd first bs last) {i : Nat} (hlow : first ≤ i) (hhigh : i < last) :
    ∃! k : Nat, ∃ b : OutlineBlock, bs[k]? = some b ∧ b.Holds i := by
  induction bs generalizing first with
  | nil =>
      cases h
      omega
  | cons c bs ih =>
      obtain ⟨rfl, -, hrest⟩ := h
      by_cases hi : i < c.stop
      · refine ⟨0, ⟨c, rfl, hlow, hi⟩, ?_⟩
        rintro (_ | k) ⟨b, hb, hholds⟩
        · rfl
        · have := (bounds hrest b (List.mem_of_getElem? hb)).1
          exact absurd hholds.1 (by omega)
      · obtain ⟨k, ⟨b, hb, hholds⟩, honly⟩ := ih hrest (Nat.le_of_not_lt hi)
        refine ⟨k + 1, ⟨b, hb, hholds⟩, ?_⟩
        rintro (_ | l) ⟨b', hb', hholds'⟩
        · cases hb'
          exact absurd hholds'.2 hi
        · rw [honly l ⟨b', hb', hholds'⟩]

/-- The stretches of a list that the blocks stand for, one behind the other. -/
theorem flatMap_stretch {α : Type} {xs : List α} (h : EndToEnd first bs last) (hlast : last = xs.length) :
    (bs.flatMap fun b => (xs.drop b.start.toNat).take b.len.toNat) = xs.drop first := by
  induction bs generalizing first with
  | nil =>
      cases h
      rw [hlast, List.drop_length]
      rfl
  | cons b bs ih =>
      obtain ⟨rfl, -, hrest⟩ := h
      rw [List.flatMap_cons, ih hrest, OutlineBlock.stop, ← List.drop_drop, List.take_append_drop]

end EndToEnd

section Checks

variable {o : Outline}

theorem complaints_eq_nil (h : complaintReport (some o) = none) : o.complaints = [] := by
  rw [complaintReport] at h
  split at h
  · assumption
  · cases h

theorem rangeReport_eq_none : rangeReport (some o) = none ↔ o.rangeErrors = [] := by
  rw [rangeReport]
  split
  · next hnil => simp [hnil]
  · next hne => exact iff_of_false nofun hne

theorem outOfRange_nil_iff {what : Bytes} {n : Nat} {is : List UInt32} :
    outOfRange what n is = [] ↔ ∀ v ∈ is, v.toNat < n := by
  simp [outOfRange, List.filter_eq_nil_iff]

theorem indexError_nil_iff {what : Bytes} {n : Nat} {is : List UInt32} :
    indexError what n is = [] ↔ ∀ v ∈ is, v.toNat < n := by
  unfold indexError
  split
  · next v hv =>
      have hle : n ≤ v.toNat := by simpa using List.find?_some hv
      refine iff_of_false nofun fun h => ?_
      exact absurd (h v (List.mem_of_find?_eq_some hv)) (Nat.not_lt.mpr hle)
  · next hnone =>
      have hall := List.find?_eq_none.mp hnone
      exact iff_of_true rfl fun v hv => by simpa using hall v hv

/-- The indices that an outline lists name blocks of it. -/
structure IndicesFit (o : Outline) : Prop where
  heads : ∀ v ∈ o.headList, v.toNat < o.blockList.length
  tails : ∀ v ∈ o.tailList, v.toNat < o.blockList.length
  orphans : ∀ v ∈ o.orphanList, v.toNat < o.blockList.length
  preds : ∀ b ∈ o.blockList, ∀ v ∈ b.predList, v.toNat < o.blockList.length
  succs : ∀ b ∈ o.blockList, ∀ v ∈ b.succList, v.toNat < o.blockList.length

theorem mem_of_mem_zipIdx {p : OutlineBlock × Nat} (h : p ∈ o.blockList.zipIdx) : p.1 ∈ o.blockList :=
  List.mem_of_getElem? (List.mem_zipIdx_iff_getElem?.mp h)

theorem exists_mem_zipIdx {b : OutlineBlock} (h : b ∈ o.blockList) : ∃ i, (b, i) ∈ o.blockList.zipIdx := by
  obtain ⟨i, hi⟩ := List.mem_iff_getElem?.mp h
  exact ⟨i, List.mem_zipIdx_iff_getElem?.mpr hi⟩

/-- Shape gives no cause for complaint exactly if the positions add up on 32 bits and the indices fit. -/
theorem shapeComplaints_eq_nil_iff :
    o.shapeComplaints = [] ↔
      (tiling 0 0 o.blockList).1 = [] ∧ (tiling 0 0 o.blockList).2.toNat = o.unitList.length ∧
        o.IndicesFit := by
  have hcover : ∀ c : UInt32, (if c.toNat = o.unitList.length then [] else
      [Complaint.wrongCover c o.unitList.length]) = [] ↔ c.toNat = o.unitList.length := by
    intro c
    split <;> simp_all
  change (tiling 0 0 o.blockList).1 ++ _ ++ _ ++ _ ++ _ ++ _ = [] ↔ _
  simp only [List.append_eq_nil_iff, outOfRange_nil_iff, hcover, List.flatMap_eq_nil_iff, and_assoc]
  refine and_congr_right fun _ => and_congr_right fun _ => ?_
  constructor
  · rintro ⟨hheads, htails, horphans, hblocks⟩
    refine ⟨hheads, htails, horphans, ?_, ?_⟩
    · intro b hb
      obtain ⟨i, hi⟩ := exists_mem_zipIdx hb
      exact (hblocks _ hi).1
    · intro b hb
      obtain ⟨i, hi⟩ := exists_mem_zipIdx hb
      exact (hblocks _ hi).2
  · intro h
    refine ⟨h.heads, h.tails, h.orphans, ?_⟩
    intro p hp
    exact ⟨h.preds _ (mem_of_mem_zipIdx hp), h.succs _ (mem_of_mem_zipIdx hp)⟩

/-- What the range check asks: that indices and ranges stay inside. -/
theorem rangeErrors_eq_nil_iff :
    o.rangeErrors = [] ↔ o.IndicesFit ∧ ∀ b ∈ o.blockList, b.stop ≤ o.unitList.length := by
  rw [rangeErrors]
  simp only [List.append_eq_nil_iff, indexError_nil_iff, List.flatMap_eq_nil_iff]
  constructor
  · rintro ⟨⟨⟨hblocks, hheads⟩, htails⟩, horphans⟩
    refine ⟨⟨hheads, htails, horphans, ?_, ?_⟩, ?_⟩
    · intro b hb
      obtain ⟨i, hi⟩ := exists_mem_zipIdx hb
      exact (hblocks _ hi).1.2
    · intro b hb
      obtain ⟨i, hi⟩ := exists_mem_zipIdx hb
      exact (hblocks _ hi).2
    · intro b hb
      obtain ⟨i, hi⟩ := exists_mem_zipIdx hb
      by_contra hgt
      have hnil := (hblocks _ hi).1.1
      rw [if_pos (Nat.lt_of_not_le hgt)] at hnil
      cases hnil
  · rintro ⟨h, hstop⟩
    refine ⟨⟨⟨?_, h.heads⟩, h.tails⟩, h.orphans⟩
    intro p hp
    have hmem := mem_of_mem_zipIdx hp
    exact ⟨⟨if_neg (Nat.not_lt.mpr (hstop _ hmem)), h.preds _ hmem⟩, h.succs _ hmem⟩

theorem IndicesFit.rangeErrors_eq_nil_iff (h : o.IndicesFit) :
    o.rangeErrors = [] ↔ ∀ b ∈ o.blockList, b.stop ≤ o.unitList.length := by
  rw [Outline.rangeErrors_eq_nil_iff, and_iff_right h]

/-- The units of each block, one block after the other. -/
def allBlockUnits (o : Outline) : List Bytes :=
  (List.range o.blockList.length).flatMap fun k => (o.blockUnits? (Int.ofNat k)).getD []

theorem blockUnits?_eq {k : Nat} {b : OutlineBlock} (hb : o.blockList[k]? = some b)
    (hstop : b.stop ≤ o.unitList.length) :
    o.blockUnits? (Int.ofNat k) = some ((o.unitList.drop b.start.toNat).take b.len.toNat) := by
  simp only [blockUnits?, hb, if_pos hstop]

theorem allBlockUnits_eq (h : ∀ b ∈ o.blockList, b.stop ≤ o.unitList.length) :
    o.allBlockUnits = o.blockList.flatMap fun b => (o.unitList.drop b.start.toNat).take b.len.toNat := by
  have hrange : List.range o.blockList.length = o.blockList.zipIdx.map Prod.snd := by
    rw [List.zipIdx_map_snd, List.range_eq_range']
  have hfirst : o.blockList.zipIdx.map Prod.fst = o.blockList := List.zipIdx_map_fst 0 o.blockList
  conv_rhs => rw [← hfirst]
  rw [allBlockUnits, hrange, List.flatMap_map, List.flatMap_map]
  refine List.flatMap_congr fun p hp => ?_
  have hp' := List.mem_zipIdx_iff_getElem?.mp hp
  rw [blockUnits?_eq hp' (h _ (List.mem_of_getElem? hp'))]
  rfl

end Checks

end Outline

/-- What the full check is worth. In an outline that passes it no block is empty, and the blocks have as many
units together as are listed, up to a multiple of 2^32. They lie end to end exactly if they have fewer than
2^32 units together, and exactly if the outline passes the range check as well. Then every unit is in one
block, and the units of the blocks one after the other are those listed. -/
theorem accepted_endToEnd_iff {o : Outline} (h : Outline.complaintReport (some o) = none) :
    (∀ b ∈ o.blockList, 0 < b.len.toNat) ∧
      Outline.total o.blockList % 2 ^ 32 = o.unitList.length ∧
      (Outline.EndToEnd 0 o.blockList o.unitList.length ↔ Outline.total o.blockList < 2 ^ 32) ∧
      (Outline.EndToEnd 0 o.blockList o.unitList.length ↔ Outline.rangeReport (some o) = none) ∧
      (Outline.EndToEnd 0 o.blockList o.unitList.length →
        (∀ i < o.unitList.length, ∃! k : Nat, ∃ b, o.blockList[k]? = some b ∧ b.Holds i) ∧
          o.allBlockUnits = o.unitList) := by
  have hshape : o.shapeComplaints = [] := by
    have hnil := Outline.complaints_eq_nil h
    rw [Outline.complaints] at hnil
    split at hnil
    · split at hnil
      · assumption
      · next hne => exact absurd hnil hne
    · cases hnil
  obtain ⟨htiles, hcover, hindices⟩ := Outline.shapeComplaints_eq_nil_iff.mp hshape
  have hmod : Outline.total o.blockList % 2 ^ 32 = o.unitList.length := by
    have hlast := Outline.tiling_snd htiles
    rw [hcover] at hlast
    simpa using hlast.symm
  have hfits : o.unitList.length < 2 ^ 32 := by
    rw [← hmod]
    exact Nat.mod_lt _ (by decide)
  have hend : (∀ b ∈ o.blockList, b.stop < 2 ^ 32) →
      Outline.EndToEnd 0 o.blockList o.unitList.length := by
    intro hstop
    have hchain := Outline.endToEnd_of_stops htiles hstop
    rwa [hcover] at hchain
  refine ⟨Outline.pos_of_tiling htiles, hmod, ⟨?_, ?_⟩, ⟨?_, ?_⟩, ?_⟩
  · intro hchain
    have hlast := hchain.last_eq
    omega
  · intro htotal
    exact hend (Outline.stop_lt_of_total htiles (by simpa using htotal))
  · intro hchain
    rw [Outline.rangeReport_eq_none, hindices.rangeErrors_eq_nil_iff]
    intro b hb
    exact (hchain.bounds b hb).2
  · intro hrange
    rw [Outline.rangeReport_eq_none, hindices.rangeErrors_eq_nil_iff] at hrange
    exact hend fun b hb => Nat.lt_of_le_of_lt (hrange b hb) hfits
  · intro hchain
    refine ⟨fun i hi => hchain.existsUnique_holds (Nat.zero_le i) hi, ?_⟩
    rw [Outline.allBlockUnits_eq fun b hb => (hchain.bounds b hb).2, hchain.flatMap_stretch rfl]
    rfl

/-- Two blocks, the second where the first ends, counted on 32 bits. -/
def pairOutline (units : List Bytes) (first second : UInt32) : Outline where
  name := bytes "f"
  units := some units
  blocks := some [⟨0, first, some [], some []⟩, ⟨first, second, some [], some []⟩]
  heads := some [0]
  tails := some []

theorem pairOutline_endToEnd_iff :
    (Outline.complaintReport (some (pairOutline [bytes "nop", bytes "return"] 1 1)) = none ∧
      Outline.rangeReport (some (pairOutline [bytes "nop", bytes "return"] 1 1)) = none ∧
      (pairOutline [bytes "nop", bytes "return"] 1 1).allBlockUnits = [bytes "nop", bytes "return"]) ∧
    Outline.complaintReport (some (pairOutline [bytes "return"] 0xFFFFFFFF 2)) = none ∧
      Outline.total (pairOutline [bytes "return"] 0xFFFFFFFF 2).blockList % 2 ^ 32 = 1 ∧
      ¬Outline.EndToEnd 0 (pairOutline [bytes "return"] 0xFFFFFFFF 2).blockList 1 := by
  have hplain : Outline.complaintReport (some (pairOutline [bytes "nop", bytes "return"] 1 1)) = none := by
    decide +kernel
  have hwrapped : Outline.complaintReport (some (pairOutline [bytes "return"] 0xFFFFFFFF 2)) = none := by
    decide +kernel
  obtain ⟨-, -, htotal, hrange, hunits⟩ := accepted_endToEnd_iff hplain
  have hchain := htotal.mpr (by decide +kernel)
  refine ⟨⟨hplain, hrange.mp hchain, (hunits hchain).2⟩, hwrapped, ?_⟩
  obtain ⟨-, hmod, htotal', -, -⟩ := accepted_endToEnd_iff hwrapped
  exact ⟨hmod, fun hchain' => absurd (htotal'.mp hchain') (by decide +kernel)⟩

/-- The full check passes an outline that the range check refuses, and whose blocks do not give its units. -/
theorem wrapped_outline_accepted :
    Outline.complaintReport (some (pairOutline [bytes "return"] 0xFFFFFFFF 2)) = none ∧
      Outline.rangeReport (some (pairOutline [bytes "return"] 0xFFFFFFFF 2)) =
        some (bytes "blockgraph: snapshot f: B0 covers units [0,4294967295) of 1" ++ [10] ++
          bytes "blockgraph: snapshot f: B1 covers units [4294967295,4294967297) of 1") ∧
      (pairOutline [bytes "return"] 0xFFFFFFFF 2).allBlockUnits ≠ [bytes "return"] := by
  decide +kernel

end FlowBlocks
