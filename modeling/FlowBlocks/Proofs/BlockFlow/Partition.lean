import Mathlib.Data.List.Flatten
import Mathlib.Data.List.Nodup
import Mathlib.Data.List.Pairwise
import FlowBlocks.BlockFlow.Build
/-!
Cutting units into blocks. `Tiling` says what a cut at the leaders is; `partition` yields one, and every
list of blocks of the same shape is one too. In a tiling of pairwise distinct units each unit has one
owner. The second half is about positions `0, 1, …, n - 1` as units, where a block is an interval and
neighbouring blocks touch.
-/
namespace FlowBlocks

namespace Run

variable {U : Type}

@[simp] theorem head_mem (r : Run U) : r.head ∈ r.units := List.mem_cons_self

@[simp] theorem length_units (r : Run U) : r.units.length = r.size := rfl

theorem units_ne_nil (r : Run U) : r.units ≠ [] := List.cons_ne_nil _ _

theorem tail_eq_getLast (r : Run U) : r.tail = r.units.getLast r.units_ne_nil := by
  obtain ⟨u, us⟩ := r
  cases us with
  | nil => rfl
  | cons v vs => simp [tail, units, List.getLast?_eq_some_getLast]

@[simp] theorem tail_mem (r : Run U) : r.tail ∈ r.units := by
  rw [tail_eq_getLast]
  exact List.getLast_mem _

end Run

variable {U : Type}

/-- Blocks that follow each other, the first with index `i` and its first unit at position `s`. -/
def Placed : Nat → Nat → List (Block U) → Prop
  | _, _, [] => True
  | i, s, b :: bs => b.index = i ∧ b.start = s ∧ Placed (i + 1) (s + b.size) bs

/-- A cut of `units` into blocks: the blocks in order are the units, they are numbered and placed one
after the other, and exactly their first units are leaders. -/
structure Tiling (isLeader : U → Bool) (units : List U) (blocks : List (Block U)) : Prop where
  covers : blocks.flatMap (fun b => b.units) = units
  placed : Placed 0 0 blocks
  opens : ∀ b ∈ blocks, isLeader b.head = true
  within : ∀ b ∈ blocks, ∀ u ∈ b.rest, isLeader u = false

theorem placed_placeRuns (i s : Nat) (rs : List (Run U)) : Placed i s (placeRuns i s rs) := by
  induction rs generalizing i s with
  | nil => trivial
  | cons r rs ih => exact ⟨rfl, rfl, ih _ _⟩

theorem placeRuns_runs (i s : Nat) (rs : List (Run U)) :
    (placeRuns i s rs).map Block.toRun = rs := by
  induction rs generalizing i s with
  | nil => rfl
  | cons r rs ih => rw [placeRuns, List.map_cons, ih]

theorem flatMap_units_eq (blocks : List (Block U)) :
    blocks.flatMap (fun b => b.units) = (blocks.map Block.toRun).flatMap Run.units := by
  rw [List.flatMap_map]

theorem cutAt_units (p : U → Bool) (us : List U) : (cutAt p us).flatMap Run.units = us := by
  induction us with
  | nil => rfl
  | cons u us ih =>
      rw [cutAt]
      split
      · next h =>
          rw [h] at ih
          rw [← ih]
          rfl
      · next r rs h =>
          rw [h] at ih
          split <;> rw [← ih] <;> rfl

theorem cutAt_within (p : U → Bool) (us : List U) : ∀ r ∈ cutAt p us, ∀ u ∈ r.rest, p u = false := by
  induction us with
  | nil => simp [cutAt]
  | cons u us ih =>
      rw [cutAt]
      split
      · simp
      · next r rs h =>
          rw [h] at ih
          have hr := ih r List.mem_cons_self
          have hrs := fun q (hq : q ∈ rs) => ih q (List.mem_cons_of_mem r hq)
          split
          · simpa using ⟨hr, hrs⟩
          · next hp =>
              intro q hq v hv
              rcases List.mem_cons.mp hq with rfl | hq
              · rcases List.mem_cons.mp hv with rfl | hv
                · simpa using hp
                · exact hr v hv
              · exact hrs q hq v hv

/-- All runs but the first open with a leader, whatever the first unit is. -/
theorem cutAt_opens (p : U → Bool) (us : List U) : ∀ r ∈ (cutAt p us).tail, p r.head = true := by
  induction us with
  | nil => simp [cutAt]
  | cons u us ih =>
      rw [cutAt]
      split
      · simp
      · next r rs h =>
          rw [h] at ih
          split
          · next hp =>
              intro q hq
              rcases List.mem_cons.mp hq with rfl | hq
              · exact hp
              · exact ih q hq
          · exact ih

theorem cutAt_head (p : U → Bool) (u : U) (us : List U) :
    ∃ rest rs, cutAt p (u :: us) = ⟨u, rest⟩ :: rs := by
  rw [cutAt]
  split
  · exact ⟨_, _, rfl⟩
  · split <;> exact ⟨_, _, rfl⟩

section Partition

variable [DecidableEq U] {leaders units : List U}

theorem tiling_of_leader {u : U} {us : List U} (h : leaders.contains u = true) :
    Tiling leaders.contains (u :: us) (placeRuns 0 0 (cutAt leaders.contains (u :: us))) := by
  have runs := placeRuns_runs 0 0 (cutAt leaders.contains (u :: us))
  have lift : ∀ b ∈ placeRuns 0 0 (cutAt leaders.contains (u :: us)),
      b.toRun ∈ cutAt leaders.contains (u :: us) := by
    intro b hb
    rw [← runs]
    exact List.mem_map_of_mem hb
  refine ⟨?_, placed_placeRuns _ _ _, ?_, ?_⟩
  · rw [flatMap_units_eq, runs, cutAt_units]
  · intro b hb
    have opens := cutAt_opens leaders.contains (u :: us)
    obtain ⟨rest, rs, hcut⟩ := cutAt_head leaders.contains u us
    have hr := lift b hb
    rw [hcut] at hr opens
    rcases List.mem_cons.mp hr with hr | hr
    · rw [hr]
      exact h
    · exact opens _ hr
  · intro b hb
    exact cutAt_within _ _ _ (lift b hb)

/-- A body with a leader in front is cut, and the blocks tile it. -/
theorem partition_tiles (hne : units ≠ []) (hfirst : ∀ u, units.head? = some u → u ∈ leaders) :
    ∃ blocks, partition leaders units = .ok blocks ∧ Tiling leaders.contains units blocks := by
  cases units with
  | nil => exact absurd rfl hne
  | cons u us =>
      have hu : leaders.contains u = true := List.contains_iff_mem.mpr (hfirst u rfl)
      exact ⟨_, by rw [partition, if_pos hu], tiling_of_leader hu⟩

end Partition

section Owner

variable {isLeader : U → Bool} {units : List U} {blocks : List (Block U)}

theorem Placed.getElem? {i s k : Nat} {b : Block U} (h : Placed i s blocks) (hb : blocks[k]? = some b) :
    b.index = i + k ∧ b.start = s + ((blocks.take k).flatMap fun b => b.units).length := by
  induction blocks generalizing i s k with
  | nil => simp at hb
  | cons c cs ih =>
      obtain ⟨hi, hs, hrest⟩ := h
      cases k with
      | zero =>
          cases hb
          simp [hi, hs]
      | succ k =>
          obtain ⟨hi', hs'⟩ := ih hrest hb
          refine ⟨by omega, ?_⟩
          rw [hs', List.take_succ_cons, List.flatMap_cons, List.length_append, Run.length_units]
          omega

theorem Tiling.index_eq (h : Tiling isLeader units blocks) {k : Nat} {b : Block U}
    (hb : blocks[k]? = some b) : b.index = k := by
  simpa using (h.placed.getElem? hb).1

theorem Tiling.getElem?_index (h : Tiling isLeader units blocks) {b : Block U} (hb : b ∈ blocks) :
    blocks[b.index]? = some b := by
  obtain ⟨k, hk⟩ := List.getElem?_of_mem hb
  rw [h.index_eq hk, hk]

theorem Tiling.index_lt (h : Tiling isLeader units blocks) {b : Block U} (hb : b ∈ blocks) :
    b.index < blocks.length :=
  (List.getElem?_eq_some_iff.mp (h.getElem?_index hb)).1

theorem Tiling.ext_index (h : Tiling isLeader units blocks) {b c : Block U} (hb : b ∈ blocks)
    (hc : c ∈ blocks) (he : b.index = c.index) : b = c := by
  have h' := h.getElem?_index hb
  rw [he, h.getElem?_index hc] at h'
  exact (Option.some.inj h').symm

theorem Tiling.exists_block (h : Tiling isLeader units blocks) {i : Nat} (hi : i < blocks.length) :
    ∃ b ∈ blocks, b.index = i :=
  ⟨_, List.getElem_mem hi, h.index_eq (List.getElem?_eq_getElem hi)⟩

theorem Tiling.start_eq (h : Tiling isLeader units blocks) {b : Block U} (hb : b ∈ blocks) :
    b.start = ((blocks.take b.index).flatMap fun b => b.units).length := by
  simpa using (h.placed.getElem? (h.getElem?_index hb)).2

theorem Tiling.stop_eq (h : Tiling isLeader units blocks) {b : Block U} (hb : b ∈ blocks) :
    b.start + b.size = ((blocks.take (b.index + 1)).flatMap fun b => b.units).length := by
  rw [List.take_add_one, h.getElem?_index hb, List.flatMap_append, List.length_append, ← h.start_eq hb,
    Option.toList_some, List.flatMap_singleton, Run.length_units]

/-- Blocks stand in the order of their indices and do not overlap. -/
theorem Tiling.stop_le_start (h : Tiling isLeader units blocks) {b c : Block U} (hb : b ∈ blocks)
    (hc : c ∈ blocks) (hlt : b.index < c.index) : b.start + b.size ≤ c.start := by
  have hfewer : (blocks.take (b.index + 1)).Sublist (blocks.take c.index) :=
    List.take_sublist_take_left hlt
  rw [h.stop_eq hb, h.start_eq hc]
  exact (hfewer.flatMap fun b => b.units).length_le

theorem Tiling.map_index (h : Tiling isLeader units blocks) :
    blocks.map (fun b => b.index) = List.range blocks.length := by
  apply List.ext_getElem
  · simp
  · intro i hi _
    rw [List.getElem_map, List.getElem_range]
    exact h.index_eq (List.getElem?_eq_getElem _)

/-- A block is the stretch of units at its start. -/
theorem Tiling.split (h : Tiling isLeader units blocks) {b : Block U} (hb : b ∈ blocks) :
    ∃ before after, units = before ++ (b.units ++ after) ∧ before.length = b.start := by
  obtain ⟨k, hk⟩ := List.getElem?_of_mem hb
  obtain ⟨hlt, hget⟩ := List.getElem?_eq_some_iff.mp hk
  refine ⟨(blocks.take k).flatMap fun b => b.units, (blocks.drop (k + 1)).flatMap fun b => b.units,
    ?_, ?_⟩
  · have hcut : blocks = blocks.take k ++ b :: blocks.drop (k + 1) := by
      rw [← hget, ← List.drop_eq_getElem_cons hlt, List.take_append_drop]
    calc units = blocks.flatMap fun b => b.units := h.covers.symm
      _ = (blocks.take k ++ b :: blocks.drop (k + 1)).flatMap fun b => b.units := by rw [← hcut]
      _ = _ := by rw [List.flatMap_append, List.flatMap_cons]
  · have hs := (h.placed.getElem? hk).2
    omega

theorem Tiling.mem_units (h : Tiling isLeader units blocks) {u : U} :
    u ∈ units ↔ ∃ b ∈ blocks, u ∈ b.units := by
  rw [← h.covers, List.mem_flatMap]

theorem Tiling.ne_nil (h : Tiling isLeader units blocks) (hne : units ≠ []) : blocks ≠ [] := by
  rintro rfl
  exact hne h.covers.symm

/-- In a tiling of distinct units two blocks that share a unit are one. -/
theorem Tiling.unique (h : Tiling isLeader units blocks) (hnd : units.Nodup) {u : U} {b c : Block U}
    (hb : b ∈ blocks) (hc : c ∈ blocks) (hub : u ∈ b.units) (huc : u ∈ c.units) : b = c := by
  rw [← h.covers, List.nodup_flatMap] at hnd
  have symm : Std.Symm (Function.onFun List.Disjoint fun b : Block U => b.units) :=
    ⟨fun _ _ hd _ hc hb => hd hb hc⟩
  by_contra hne
  exact hnd.2.forall hb hc hne hub huc

theorem Tiling.ownerIn?_eq_some_iff [DecidableEq U] (h : Tiling isLeader units blocks)
    (hnd : units.Nodup) {u : U} {b : Block U} :
    ownerIn? blocks u = some b ↔ b ∈ blocks ∧ u ∈ b.units := by
  constructor
  · intro ho
    have hmem := List.mem_of_find?_eq_some ho
    have hu := List.find?_some ho
    exact ⟨List.mem_reverse.mp hmem, List.contains_iff_mem.mp hu⟩
  · rintro ⟨hb, hu⟩
    cases ho : ownerIn? blocks u with
    | none =>
        have := List.find?_eq_none.mp ho b (List.mem_reverse.mpr hb)
        exact absurd (List.contains_iff_mem.mpr hu) this
    | some c =>
        have hc := List.mem_reverse.mp (List.mem_of_find?_eq_some ho)
        have huc := List.find?_some ho
        rw [h.unique hnd hb hc hu (List.contains_iff_mem.mp huc)]

theorem Tiling.exists_owner [DecidableEq U] (h : Tiling isLeader units blocks) (hnd : units.Nodup)
    {u : U} (hu : u ∈ units) : ∃ b ∈ blocks, u ∈ b.units ∧ ownerIn? blocks u = some b := by
  obtain ⟨b, hb, hub⟩ := h.mem_units.mp hu
  exact ⟨b, hb, hub, (h.ownerIn?_eq_some_iff hnd).mpr ⟨hb, hub⟩⟩

/-- Blocks of the same runs at the same places are as good a tiling. -/
theorem Tiling.map (h : Tiling isLeader units blocks) {f : Block U → Block U}
    (hrun : ∀ b, (f b).toRun = b.toRun) (hindex : ∀ b, (f b).index = b.index)
    (hstart : ∀ b, (f b).start = b.start) : Tiling isLeader units (blocks.map f) := by
  have placed : ∀ (bs : List (Block U)) (i s : Nat), Placed i s bs → Placed i s (bs.map f) := by
    intro bs
    induction bs with
    | nil => exact fun _ _ _ => trivial
    | cons b bs ih =>
        rintro i s ⟨hi, hs, hrest⟩
        refine ⟨(hindex b).trans hi, (hstart b).trans hs, ?_⟩
        rw [hrun b]
        exact ih _ _ hrest
  refine ⟨?_, placed _ _ _ h.placed, ?_, ?_⟩
  · rw [List.flatMap_map]
    simpa only [hrun] using h.covers
  · simpa only [List.forall_mem_map, hrun] using h.opens
  · simpa only [List.forall_mem_map, hrun] using h.within

end Owner

section Positions

variable {isLeader : Nat → Bool} {n : Nat} {blocks : List (Block Nat)} {b c : Block Nat} {u : Nat}

theorem Tiling.units_eq_range' (h : Tiling isLeader (List.range n) blocks) (hb : b ∈ blocks) :
    b.units = List.range' b.start b.size := by
  obtain ⟨before, after, heq, hlen⟩ := h.split hb
  have hdrop : (List.range n).drop b.start = b.units ++ after := by
    rw [heq, ← hlen, List.drop_left]
  have htake : ((List.range n).drop b.start).take b.size = b.units := by
    rw [hdrop, ← Run.length_units, List.take_left]
  have hstop : b.start + b.size ≤ n := by
    have := congrArg List.length heq
    simp only [List.length_range, List.length_append, Run.length_units, hlen] at this
    omega
  rw [← htake, List.range_eq_range', List.drop_range', List.take_range'_of_length_ge (by omega)]
  simp

/-- On positions a block is an interval. -/
theorem Tiling.mem_block (h : Tiling isLeader (List.range n) blocks) (hb : b ∈ blocks) :
    u ∈ b.units ↔ b.start ≤ u ∧ u < b.start + b.size := by
  rw [h.units_eq_range' hb, List.mem_range'_1]

theorem Tiling.lt_of_mem (h : Tiling isLeader (List.range n) blocks) (hb : b ∈ blocks)
    (hu : u ∈ b.units) : u < n :=
  List.mem_range.mp (h.mem_units.mpr ⟨b, hb, hu⟩)

theorem Tiling.head_eq_start (h : Tiling isLeader (List.range n) blocks) (hb : b ∈ blocks) :
    b.head = b.start := by
  have hu := h.units_eq_range' hb
  rw [Run.size, List.range'_succ] at hu
  exact (List.cons.inj hu).1

theorem Tiling.stop_le (h : Tiling isLeader (List.range n) blocks) (hb : b ∈ blocks) :
    b.start + b.size ≤ n := by
  have hlast : b.start + b.rest.length ∈ b.units := by
    rw [h.mem_block hb, Run.size]
    omega
  have := h.lt_of_mem hb hlast
  rw [Run.size]
  omega

theorem Tiling.tail_succ (h : Tiling isLeader (List.range n) blocks) (hb : b ∈ blocks) :
    b.tail + 1 = b.start + b.size := by
  have hlast : b.tail = b.start + b.rest.length := by
    rw [Run.tail_eq_getLast, List.getLast_eq_getElem]
    simp only [h.units_eq_range' hb, List.getElem_range', List.length_range', Run.size]
    omega
  rw [hlast, Run.size]
  omega

/-- Past its first unit a block has no leader. -/
theorem Tiling.not_leader (h : Tiling isLeader (List.range n) blocks) (hb : b ∈ blocks)
    (hu : u ∈ b.units) (hne : u ≠ b.head) : isLeader u = false := by
  rcases List.mem_cons.mp hu with rfl | hrest
  · exact absurd rfl hne
  · exact h.within b hb u hrest

theorem Tiling.head_of_leader (h : Tiling isLeader (List.range n) blocks) (hb : b ∈ blocks)
    (hu : u ∈ b.units) (hl : isLeader u = true) : u = b.head := by
  by_contra hne
  rw [h.not_leader hb hu hne] at hl
  cases hl

/-- The position after one of a block lies in the block unless a leader stands there. -/
theorem Tiling.succ_mem (h : Tiling isLeader (List.range n) blocks) (hb : b ∈ blocks)
    (hu : u ∈ b.units) (hn : u + 1 < n) : u + 1 ∈ b.units ↔ isLeader (u + 1) = false := by
  have hhead := h.head_eq_start hb
  have hlow := ((h.mem_block hb).mp hu).1
  constructor
  · intro hmem
    exact h.not_leader hb hmem (by omega)
  · intro hl
    obtain ⟨c, hc, huc⟩ := h.mem_units.mp (List.mem_range.mpr hn)
    have hne : u + 1 ≠ c.head := by
      intro he
      rw [he, h.opens c hc] at hl
      cases hl
    have hcu : u ∈ c.units := by
      have := (h.mem_block hc).mp huc
      rw [h.head_eq_start hc] at hne
      exact (h.mem_block hc).mpr (by omega)
    rw [h.unique List.nodup_range hb hc hu hcu]
    exact huc

/-- The first block starts at the first position. -/
theorem Tiling.first_block (h : Tiling isLeader (List.range n) blocks) (hn : 0 < n) :
    ∃ b ∈ blocks, b.index = 0 ∧ b.head = 0 ∧ blocks.head? = some b := by
  cases blocks with
  | nil =>
      have := congrArg List.length h.covers
      simp at this
      omega
  | cons b bs =>
      obtain ⟨hi, hs, -⟩ := h.placed
      exact ⟨b, List.mem_cons_self, hi, (h.head_eq_start List.mem_cons_self).trans hs, rfl⟩

theorem Tiling.index_zero (h : Tiling isLeader (List.range n) blocks) (hn : 0 < n) (hb : b ∈ blocks) :
    b.index = 0 ↔ b.head = 0 := by
  obtain ⟨first, hfirst, hi, hh, -⟩ := h.first_block hn
  constructor
  · intro he
    rw [h.ext_index hb hfirst (he.trans hi.symm), hh]
  · intro he
    have hmem : b.head ∈ first.units := by
      rw [he, ← hh]
      exact first.head_mem
    rw [h.unique List.nodup_range hb hfirst b.head_mem hmem, hi]

theorem Tiling.index_le (h : Tiling isLeader (List.range n) blocks) (hb : b ∈ blocks) (hc : c ∈ blocks)
    {v : Nat} (hu : u ∈ b.units) (hv : v ∈ c.units) (hle : u ≤ v) : b.index ≤ c.index := by
  by_contra hlt
  have hstop := h.stop_le_start hc hb (Nat.lt_of_not_le hlt)
  have hin := (h.mem_block hb).mp hu
  have hin' := (h.mem_block hc).mp hv
  omega

theorem Tiling.head_of_next (h : Tiling isLeader (List.range n) blocks) (hb : b ∈ blocks)
    (hc : c ∈ blocks) (hnext : c.index = b.index + 1) : c.head = b.tail + 1 := by
  rw [h.head_eq_start hc, h.tail_succ hb, h.stop_eq hb, h.start_eq hc, hnext]

theorem Tiling.exists_next (h : Tiling isLeader (List.range n) blocks) (hb : b ∈ blocks)
    (hlt : b.tail + 1 < n) : ∃ c ∈ blocks, c.index = b.index + 1 ∧ c.head = b.tail + 1 := by
  obtain ⟨d, hd, hmem⟩ := h.mem_units.mp (List.mem_range.mpr hlt)
  have hlater : b.index < d.index := by
    refine Nat.lt_of_le_of_ne (h.index_le hb hd b.tail_mem hmem (Nat.le_succ _)) fun hsame => ?_
    rw [← h.ext_index hb hd hsame] at hmem
    have hin := (h.mem_block hb).mp hmem
    have htail := h.tail_succ hb
    omega
  obtain ⟨c, hc, hindex⟩ := h.exists_block (Nat.lt_of_le_of_lt hlater (h.index_lt hd))
  exact ⟨c, hc, hindex, h.head_of_next hb hc hindex⟩

theorem Tiling.exists_previous (h : Tiling isLeader (List.range n) blocks) (hc : c ∈ blocks)
    (hne : c.index ≠ 0) : ∃ b ∈ blocks, c.index = b.index + 1 ∧ c.head = b.tail + 1 := by
  have hcount := h.index_lt hc
  obtain ⟨b, hb, hindex⟩ := h.exists_block (Nat.lt_of_le_of_lt (Nat.pred_le _) hcount)
  have hnext : c.index = b.index + 1 := by
    rw [hindex, Nat.pred_eq_sub_one]
    omega
  exact ⟨b, hb, hnext, h.head_of_next hb hc hnext⟩

end Positions

end FlowBlocks
