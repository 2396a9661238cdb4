import Mathlib.Algebra.GroupWithZero.Nat
import Mathlib.Data.Int.Basic
import FlowBlocks.Proofs.BlockFlow.Construct
/-!
Edges counted. The predecessors of a block are read off its first unit, its successors off every unit that
branches and off its last. `count_preds_add` says by how much the two scans differ: handler edges out of
units that do not branch are seen from the target only, jumps to the next unit from the source only.
-/
namespace FlowBlocks

theorem sum_map_toNat_add {α : Type} (p q : α → Bool) (xs : List α) :
    (xs.map fun x => (p x).toNat + (q x).toNat).sum = xs.countP p + xs.countP q := by
  induction xs with
  | nil => rfl
  | cons x xs ih =>
      rw [List.map_cons, List.sum_cons, ih, List.countP_cons, List.countP_cons]
      cases p x <;> cases q x <;> simp <;> omega

/-- The units that satisfy `p` are counted apart by a second test. -/
theorem countP_split {α : Type} (p q : α → Bool) (xs : List α) :
    xs.countP p = xs.countP (fun x => p x && q x) + xs.countP fun x => p x && !q x := by
  rw [List.countP_eq_countP_filter_add xs p q, List.countP_filter, List.countP_filter]

theorem count_eq_toNat {α : Type} [DecidableEq α] {xs : List α} (h : xs.Nodup) (x : α) :
    xs.count x = (xs.contains x).toNat := by
  rw [h.count]
  by_cases hx : x ∈ xs
  · rw [if_pos hx, List.contains_iff_mem.mpr hx]
    rfl
  · rw [if_neg hx, Bool.eq_false_iff.mpr fun hc => hx (List.contains_iff_mem.mp hc)]
    rfl

section Regular

variable {g : FlowGraph Nat} {n : Nat} {handlers leaders : List Nat} {blocks : List (Block Nat)}
  {b c : Block Nat} {u v : Nat}

theorem Tiling.units_nodup (ht : Tiling leaders.contains (List.range n) blocks) (hb : b ∈ blocks) :
    b.units.Nodup := by
  rw [ht.units_eq_range' hb]
  exact List.nodup_range'

theorem Tiling.mem_rest (ht : Tiling leaders.contains (List.range n) blocks) (hb : b ∈ blocks) :
    u ∈ b.rest ↔ u ∈ b.units ∧ u ≠ b.head := by
  have hnd := ht.units_nodup hb
  rw [Run.units, List.mem_cons]
  constructor
  · intro hu
    refine ⟨Or.inr hu, ?_⟩
    rintro rfl
    exact (List.nodup_cons.mp hnd).1 hu
  · rintro ⟨rfl | hu, hne⟩
    · exact absurd rfl hne
    · exact hu

theorem blockOf_eq_iff (hg : g.Regular n handlers)
    (ht : Tiling leaders.contains (List.range n) blocks) (hb : b ∈ blocks) (hu : u < n) :
    blockOf blocks u = b.index ↔ u ∈ b.units := by
  have ht' : Tiling leaders.contains g.units blocks := by rw [hg.units]; exact ht
  constructor
  · intro he
    obtain ⟨c, hc, huc, -, hof⟩ := owner_of_mem ht' hg.units_nodup (hg.mem_units.mpr hu)
    rw [ht.ext_index hb hc (he.symm.trans hof)]
    exact huc
  · exact blockOf_eq ht' hg.units_nodup hb

theorem filter_blockOf (hg : g.Regular n handlers)
    (ht : Tiling leaders.contains (List.range n) blocks) (hb : b ∈ blocks) :
    (List.range n).filter (fun u => blockOf blocks u == b.index) = b.units := by
  obtain ⟨before, after, hcut, -⟩ := ht.split hb
  have hnd : (before ++ (b.units ++ after)).Nodup := hcut ▸ List.nodup_range
  have hinside : ∀ u ∈ before ++ (b.units ++ after), (blockOf blocks u == b.index) = true ↔ u ∈ b.units := by
    intro u hu
    rw [← hcut] at hu
    rw [beq_iff_eq]
    exact blockOf_eq_iff hg ht hb (List.mem_range.mp hu)
  obtain ⟨-, hrest, hdis⟩ := List.nodup_append.mp hnd
  obtain ⟨-, -, hdis'⟩ := List.nodup_append.mp hrest
  have hbefore : before.filter (fun u => blockOf blocks u == b.index) = [] := by
    refine List.filter_eq_nil_iff.mpr fun u hu hc => ?_
    have hmem := (hinside u (List.mem_append_left _ hu)).mp hc
    exact hdis u hu u (List.mem_append_left _ hmem) rfl
  have hafter : after.filter (fun u => blockOf blocks u == b.index) = [] := by
    refine List.filter_eq_nil_iff.mpr fun u hu hc => ?_
    have hmem := (hinside u (List.mem_append_right _ (List.mem_append_right _ hu))).mp hc
    exact hdis' u hmem u hu rfl
  have hself : b.units.filter (fun u => blockOf blocks u == b.index) = b.units :=
    List.filter_eq_self.mpr fun u hu =>
      (hinside u (List.mem_append_right _ (List.mem_append_left _ hu))).mpr hu
  rw [hcut, List.filter_append, List.filter_append, hbefore, hafter, hself, List.nil_append,
    List.append_nil]

/-- The edges into a block, as its first unit sees them. -/
theorem count_blockPreds (hg : g.Regular n handlers)
    (ht : Tiling leaders.contains (List.range n) blocks) (hb : b ∈ blocks) (c : Block Nat) :
    (blockPreds g blocks c).count b.index = b.units.countP fun u => (g.succs u).contains c.head := by
  calc (blockPreds g blocks c).count b.index
      = ((List.range n).filter fun u => (g.succs u).contains c.head).countP
          (fun u => blockOf blocks u == b.index) := by
        rw [blockPreds, hg.preds, List.count, List.countP_map]
        rfl
    _ = ((List.range n).filter fun u => blockOf blocks u == b.index).countP
          fun u => (g.succs u).contains c.head := by
        rw [List.countP_filter, List.countP_filter]
        exact List.countP_congr fun u _ => by rw [Bool.and_comm]
    _ = _ := by rw [filter_blockOf hg ht hb]

theorem jumpTargets_nodup (hg : g.Regular n handlers) (u : Nat) : (jumpTargets g u).Nodup := by
  unfold jumpTargets
  split
  · exact (hg.succs_nodup u).sublist (List.drop_sublist 1 _)
  · exact hg.succs_nodup u

/-- Every successor is a jump target, except the next position where control falls through to it. -/
theorem mem_jumpTargets (hg : g.Regular n handlers) (hu : u < n) :
    v ∈ jumpTargets g u ↔ v ∈ g.succs u ∧ ¬(g.falls u = true ∧ v = u + 1) := by
  unfold jumpTargets
  by_cases hf : g.falls u = true
  · obtain ⟨-, rest, hs⟩ := hg.falls u hu hf
    have hnd := hg.succs_nodup u
    rw [hs] at hnd
    rw [if_pos hf, hs, List.drop_succ_cons, List.drop_zero, List.mem_cons]
    constructor
    · intro hv
      refine ⟨Or.inr hv, ?_⟩
      rintro ⟨-, rfl⟩
      exact (List.nodup_cons.mp hnd).1 hv
    · rintro ⟨rfl | hv, hne⟩
      · exact absurd ⟨hf, rfl⟩ hne
      · exact hv
  · rw [if_neg hf]
    exact ⟨fun hv => ⟨hv, fun hc => hf hc.1⟩, And.left⟩

/-- A unit leads on to the next position of its block. -/
theorem SingleEntry.next_mem_succs (hg : g.Regular n handlers) (hs : SingleEntry g n handlers leaders)
    (ht : Tiling leaders.contains (List.range n) blocks) (hb : b ∈ blocks) (hv : u + 1 ∈ b.rest) :
    u + 1 ∈ g.succs u := by
  obtain ⟨hmem, hne⟩ := (ht.mem_rest hb).mp hv
  have hlt : u + 1 < n := ht.lt_of_mem hb hmem
  have hl : u + 1 ∉ leaders := by
    intro hl
    exact hne (ht.head_of_leader hb hmem (List.contains_iff_mem.mpr hl))
  apply hg.mem_preds.mp
  rw [hs.only u hlt hl]
  exact List.mem_singleton.mpr rfl

theorem count_jumpTargets_head (hg : g.Regular n handlers)
    (ht : Tiling leaders.contains (List.range n) blocks) (hb : b ∈ blocks) (u : Nat) :
    (jumpTargets g u).countP (fun v => (blockOf blocks v == b.index) && (v == b.head)) =
      ((jumpTargets g u).contains b.head).toNat := by
  rw [← count_eq_toNat (jumpTargets_nodup hg u)]
  refine List.countP_congr fun v hv => ?_
  have hlt := (hg.succs_lt u v (jumpTargets_sub hv)).2
  rw [Bool.and_eq_true, beq_iff_eq, beq_iff_eq, blockOf_eq_iff hg ht hb hlt]
  refine ⟨And.right, fun he => ⟨?_, he⟩⟩
  rw [he]
  exact b.head_mem

theorem count_jumpTargets_rest (hg : g.Regular n handlers) (hs : SingleEntry g n handlers leaders)
    (ht : Tiling leaders.contains (List.range n) blocks) (hb : b ∈ blocks) (hu : u < n) :
    (jumpTargets g u).countP (fun v => (blockOf blocks v == b.index) && !(v == b.head)) =
      (!g.falls u && b.rest.contains (u + 1)).toNat := by
  -- single entry: an inner target can only be the next position
  have hcongr : (jumpTargets g u).countP (fun v => (blockOf blocks v == b.index) && !(v == b.head)) =
      (jumpTargets g u).countP (fun v => v == u + 1 && b.rest.contains (u + 1)) := by
    refine List.countP_congr fun v hv => ?_
    have hlt := (hg.succs_lt u v (jumpTargets_sub hv)).2
    rw [Bool.and_eq_true, Bool.and_eq_true, Bool.not_eq_true', beq_iff_eq, beq_eq_false_iff_ne,
      beq_iff_eq, List.contains_iff_mem, blockOf_eq_iff hg ht hb hlt, ← ht.mem_rest hb]
    constructor
    · intro hr
      obtain ⟨hmem, hne⟩ := (ht.mem_rest hb).mp hr
      have hl : v ∉ leaders := fun hl =>
        hne (ht.head_of_leader hb hmem (List.contains_iff_mem.mpr hl))
      have hnext := hs.inner_edge hg (jumpTargets_sub hv) hl
      exact ⟨hnext, hnext ▸ hr⟩
    · rintro ⟨rfl, hr⟩
      exact hr
  rw [hcongr]
  cases hr : b.rest.contains (u + 1) with
  | false =>
      rw [Bool.and_false]
      exact List.countP_eq_zero.mpr fun v _ => by simp
  | true =>
      have hnext := hs.next_mem_succs hg ht hb (List.contains_iff_mem.mp hr)
      simp only [Bool.and_true]
      refine (count_eq_toNat (jumpTargets_nodup hg u) (u + 1)).trans (congrArg Bool.toNat ?_)
      rw [Bool.eq_iff_iff, List.contains_iff_mem, mem_jumpTargets hg hu, Bool.not_eq_true']
      constructor
      · intro hm
        exact Bool.eq_false_iff.mpr fun hf => hm.2 ⟨hf, rfl⟩
      · intro hf
        exact ⟨hnext, fun hc => Bool.eq_false_iff.mp hf hc.1⟩

/-- The jump targets of a unit inside a block: the first unit of the block, if it is one, and the position
after the jump, if it lies further inside. -/
theorem count_jumpTargets (hg : g.Regular n handlers) (hs : SingleEntry g n handlers leaders)
    (ht : Tiling leaders.contains (List.range n) blocks) (hb : b ∈ blocks) (hu : u < n) :
    (jumpTargets g u).countP (fun v => blockOf blocks v == b.index) =
      ((jumpTargets g u).contains b.head).toNat + (!g.falls u && b.rest.contains (u + 1)).toNat := by
  rw [countP_split _ fun v => v == b.head, count_jumpTargets_head hg ht hb,
    count_jumpTargets_rest hg hs ht hb hu]

theorem count_blockJumps (hg : g.Regular n handlers) (hs : SingleEntry g n handlers leaders)
    (ht : Tiling leaders.contains (List.range n) blocks) (hb : b ∈ blocks) (hc : c ∈ blocks) :
    (blockJumps g blocks b).count c.index =
      b.units.countP (fun u => (jumpTargets g u).contains c.head && g.branches u) +
      b.units.countP fun u => (!g.falls u && c.rest.contains (u + 1)) && g.branches u := by
  have heach : ∀ u ∈ b.units.filter g.branches,
      ((jumpTargets g u).map (blockOf blocks)).count c.index =
        ((jumpTargets g u).contains c.head).toNat + (!g.falls u && c.rest.contains (u + 1)).toNat := by
    intro u hu
    have hlt := ht.lt_of_mem hb (List.mem_filter.mp hu).1
    rw [List.count, List.countP_map]
    exact count_jumpTargets hg hs ht hc hlt
  rw [blockJumps, List.count_flatMap, ← List.countP_filter, ← List.countP_filter, ← sum_map_toNat_add]
  exact congrArg List.sum (List.map_congr_left heach)

/-- Only the last unit of a block can have the first of a block after it. -/
theorem Tiling.eq_tail_of_next (ht : Tiling leaders.contains (List.range n) blocks) (hb : b ∈ blocks)
    (hc : c ∈ blocks) (hu : u ∈ b.units) (he : c.head = u + 1) : u = b.tail := by
  by_contra hne
  have htail := ht.tail_succ hb
  have hstart := ht.head_eq_start hb
  have hmem := (ht.mem_block hb).mp hu
  have hnext : u + 1 ∈ b.units := (ht.mem_block hb).mpr (by omega)
  have hhead := ht.head_of_leader hb hnext (he ▸ ht.opens c hc)
  omega

theorem countP_next_head (ht : Tiling leaders.contains (List.range n) blocks) (hb : b ∈ blocks)
    (hc : c ∈ blocks) (p : Nat → Bool) :
    b.units.countP (fun u => p u && (c.head == u + 1)) = (p b.tail && (c.head == b.tail + 1)).toNat := by
  have hcongr : b.units.countP (fun u => p u && (c.head == u + 1)) =
      b.units.countP fun u => u == b.tail && (p b.tail && (c.head == b.tail + 1)) := by
    refine List.countP_congr fun u hu => ?_
    rw [Bool.and_eq_true, Bool.and_eq_true, Bool.and_eq_true, beq_iff_eq, beq_iff_eq, beq_iff_eq]
    constructor
    · rintro ⟨hp, he⟩
      have htail := ht.eq_tail_of_next hb hc hu he
      exact ⟨htail, htail ▸ hp, htail ▸ he⟩
    · rintro ⟨rfl, hp, he⟩
      exact ⟨hp, he⟩
  rw [hcongr]
  cases p b.tail && (c.head == b.tail + 1) with
  | false => simp
  | true =>
      simp only [Bool.and_true]
      refine (count_eq_toNat (ht.units_nodup hb) b.tail).trans ?_
      rw [List.contains_iff_mem.mpr b.tail_mem]

/-- The position after a block opens a block. -/
theorem Tiling.leader_after (ht : Tiling leaders.contains (List.range n) blocks) (hb : b ∈ blocks)
    (hlt : b.tail + 1 < n) : leaders.contains (b.tail + 1) = true := by
  by_contra hl
  have hmem := (ht.succ_mem hb b.tail_mem hlt).mpr (Bool.eq_false_iff.mpr hl)
  have hin := (ht.mem_block hb).mp hmem
  have htail := ht.tail_succ hb
  omega

theorem count_blockFall (hg : g.Regular n handlers)
    (ht : Tiling leaders.contains (List.range n) blocks) (hb : b ∈ blocks) (hc : c ∈ blocks) :
    (blockFall g blocks b).count c.index = b.units.countP fun u => g.falls u && (c.head == u + 1) := by
  have hlt : b.tail < n := ht.lt_of_mem hb b.tail_mem
  rw [countP_next_head ht hb hc, blockFall]
  by_cases hf : g.falls b.tail = true
  · obtain ⟨hnext, rest, hsucc⟩ := hg.falls b.tail hlt hf
    have hiff : (blockOf blocks (b.tail + 1) == c.index) = (c.head == b.tail + 1) := by
      rw [Bool.eq_iff_iff, beq_iff_eq, beq_iff_eq, blockOf_eq_iff hg ht hc hnext]
      constructor
      · intro hm
        exact (ht.head_of_leader hc hm (ht.leader_after hb hnext)).symm
      · intro he
        rw [← he]
        exact c.head_mem
    rw [if_pos hf, hsucc, hf, List.take_succ_cons, List.take_zero, List.map_singleton, List.count_singleton,
      hiff, Bool.true_and]
    cases c.head == b.tail + 1 <;> rfl
  · rw [if_neg hf, Bool.eq_false_iff.mpr hf]
    rfl

/-- Both scans together. On the left stand the edges seen from the target and the jumps to the next unit,
on the right the edges seen from the source and the handler edges out of units that do not branch. -/
theorem count_preds_add (hg : g.Regular n handlers) (hs : SingleEntry g n handlers leaders)
    (ht : Tiling leaders.contains (List.range n) blocks) (hb : b ∈ blocks) (hc : c ∈ blocks) :
    (blockPreds g blocks c).count b.index +
        b.units.countP (fun u => (!g.falls u && c.rest.contains (u + 1)) && g.branches u) =
      (blockSuccs g blocks b).count c.index +
        b.units.countP fun u => !g.branches u && (g.succs u).contains c.head &&
          !(g.falls u && (c.head == u + 1)) := by
  have hlt : ∀ u ∈ b.units, u < n := fun u hu => ht.lt_of_mem hb hu
  have hfall : b.units.countP (fun u => (g.succs u).contains c.head && (g.falls u && (c.head == u + 1))) =
      (blockFall g blocks b).count c.index := by
    rw [count_blockFall hg ht hb hc]
    refine List.countP_congr fun u hu => ?_
    rw [Bool.and_eq_true]
    refine ⟨And.right, fun h => ⟨?_, h⟩⟩
    rw [Bool.and_eq_true, beq_iff_eq] at h
    obtain ⟨-, rest, hsucc⟩ := hg.falls u (hlt u hu) h.1
    rw [hsucc, h.2]
    exact List.contains_iff_mem.mpr List.mem_cons_self
  have hjump : b.units.countP (fun u => ((g.succs u).contains c.head &&
      !(g.falls u && (c.head == u + 1))) && g.branches u) =
        b.units.countP fun u => (jumpTargets g u).contains c.head && g.branches u := by
    refine List.countP_congr fun u hu => ?_
    rw [Bool.and_eq_true, Bool.and_eq_true, Bool.and_eq_true, List.contains_iff_mem,
      List.contains_iff_mem, mem_jumpTargets hg (hlt u hu)]
    cases g.falls u <;> simp
  have hplain : b.units.countP (fun u => ((g.succs u).contains c.head &&
      !(g.falls u && (c.head == u + 1))) && !g.branches u) =
        b.units.countP fun u => !g.branches u && (g.succs u).contains c.head &&
          !(g.falls u && (c.head == u + 1)) := by
    refine List.countP_congr fun u _ => ?_
    rw [Bool.and_comm, Bool.and_assoc]
  rw [count_blockPreds hg ht hb, blockSuccs, List.count_append, count_blockJumps hg hs ht hb hc,
    countP_split _ fun u => g.falls u && (c.head == u + 1), hfall,
    countP_split _ g.branches, hjump, hplain]
  omega

/-- No unit of another block has a position past the head of `c` after it. -/
theorem countP_next_rest_apart (ht : Tiling leaders.contains (List.range n) blocks) (hb : b ∈ blocks)
    (hc : c ∈ blocks) (hne : b.index ≠ c.index) (p q : Nat → Bool) :
    b.units.countP (fun u => (p u && c.rest.contains (u + 1)) && q u) = 0 := by
  refine List.countP_eq_zero.mpr fun u hu hcond => ?_
  simp only [Bool.and_eq_true, List.contains_iff_mem] at hcond
  obtain ⟨hmem, hhead⟩ := (ht.mem_rest hc).mp hcond.1.2
  have hstart := ht.head_eq_start hc
  have hin := (ht.mem_block hc).mp hmem
  have huc : u ∈ c.units := (ht.mem_block hc).mpr (by omega)
  exact hne (congrArg Block.index (ht.unique List.nodup_range hb hc hu huc))

/-- Counting the positions past the head of a block by the unit before them. -/
theorem countP_next_rest (ht : Tiling leaders.contains (List.range n) blocks) (hb : b ∈ blocks)
    (p : Nat → Bool) :
    b.units.countP (fun u => b.rest.contains (u + 1) && p u) = b.rest.countP fun u => p (u - 1) := by
  have hunits := ht.units_eq_range' hb
  have hrest : b.rest = List.range' (b.start + 1) b.rest.length := by
    rw [Run.size, List.range'_succ] at hunits
    exact (List.cons.inj hunits).2
  have hnext : b.units.map (· + 1) = b.rest ++ [b.tail + 1] := by
    have hshift : b.units.map (· + 1) = List.range' (b.start + 1) b.size := by
      rw [hunits, Nat.add_comm b.start 1, ← List.map_add_range']
      exact List.map_congr_left fun u _ => Nat.add_comm u 1
    rw [hshift, ht.tail_succ hb, Run.size, List.range'_concat, ← hrest]
    congr 2
    omega
  have hout : b.tail + 1 ∉ b.rest := by
    intro hm
    have := (ht.mem_block hb).mp ((ht.mem_rest hb).mp hm).1
    have := ht.tail_succ hb
    omega
  calc b.units.countP (fun u => b.rest.contains (u + 1) && p u)
      = (b.units.map (· + 1)).countP fun v => b.rest.contains v && p (v - 1) := by
        rw [List.countP_map]
        rfl
    _ = b.rest.countP fun u => p (u - 1) := by
        rw [hnext, List.countP_append, List.countP_singleton,
          if_neg (fun h => hout (List.contains_iff_mem.mp (Bool.and_eq_true_iff.mp h).1)), Nat.add_zero]
        refine List.countP_congr fun u hu => ?_
        rw [List.contains_iff_mem.mpr hu, Bool.true_and]

/-- Between two blocks only handler edges out of units that do not branch are lost. -/
theorem count_preds_apart (hg : g.Regular n handlers) (hs : SingleEntry g n handlers leaders)
    (ht : Tiling leaders.contains (List.range n) blocks) (hb : b ∈ blocks) (hc : c ∈ blocks)
    (hne : b.index ≠ c.index) :
    (blockPreds g blocks c).count b.index = (blockSuccs g blocks b).count c.index +
      b.units.countP fun u => !g.branches u && (g.succs u).contains c.head &&
        !(g.falls u && (c.head == u + 1)) := by
  rw [← count_preds_add hg hs ht hb hc, countP_next_rest_apart ht hb hc hne, Nat.add_zero]

theorem count_preds_self (hg : g.Regular n handlers) (hs : SingleEntry g n handlers leaders)
    (ht : Tiling leaders.contains (List.range n) blocks) (hb : b ∈ blocks) :
    (blockPreds g blocks b).count b.index +
        b.rest.countP (fun u => !g.falls (u - 1) && g.branches (u - 1)) =
      (blockSuccs g blocks b).count b.index +
        b.units.countP fun u => !g.branches u && (g.succs u).contains b.head := by
  have hphantom : b.units.countP (fun u => (!g.falls u && b.rest.contains (u + 1)) && g.branches u) =
      b.rest.countP fun u => !g.falls (u - 1) && g.branches (u - 1) := by
    rw [← countP_next_rest ht hb fun u => !g.falls u && g.branches u]
    refine List.countP_congr fun u _ => ?_
    rw [Bool.and_comm (!g.falls u), Bool.and_assoc]
  have hlost : b.units.countP (fun u => !g.branches u && (g.succs u).contains b.head &&
      !(g.falls u && (b.head == u + 1))) =
        b.units.countP fun u => !g.branches u && (g.succs u).contains b.head := by
    refine List.countP_congr fun u hu => ?_
    have hin := (ht.mem_block hb).mp hu
    have hstart := ht.head_eq_start hb
    have hne : (b.head == u + 1) = false := beq_eq_false_iff_ne.mpr (by omega)
    rw [hne, Bool.and_false, Bool.not_false, Bool.and_true]
  rw [← hphantom, count_preds_add hg hs ht hb hb, hlost]

end Regular

/-- The instruction at a position never goes on to the next one but jumps: a goto or a switch. -/
def Body.leaps (b : Body) (i : Nat) : Bool :=
  (b.instrs[i]?).any fun x => x.op == .jump || x.op == .switch

theorem Body.leaps_eq {b : Body} (k : GraphKind) {i : Nat} (hi : i < b.size) :
    b.leaps i = (!(b.flowGraph k).falls i && (b.flowGraph k).branches i) := by
  obtain ⟨x, hx⟩ := exists_getElem? hi
  rw [falls_eq hx, branches_eq hx, leaps, hx, Option.any_some, Instr.fallsThrough, Instr.branches]
  cases x.op <;> rfl

/-- In the brief graph both blocks of a pair see the same edges. -/
theorem count_preds_brief {body : Body} (hsound : body.Sound) {leaders : List Nat}
    {blocks : List (Block Nat)} {b c : Block Nat}
    (hs : SingleEntry (body.flowGraph .brief) body.size body.handlers leaders)
    (ht : Tiling leaders.contains (List.range body.size) blocks) (hb : b ∈ blocks) (hc : c ∈ blocks)
    (hne : b.index ≠ c.index) :
    (blockPreds (body.flowGraph .brief) blocks c).count b.index =
      (blockSuccs (body.flowGraph .brief) blocks b).count c.index := by
  rw [count_preds_apart (Body.flowGraph_regular hsound _) hs ht hb hc hne, Nat.add_eq_left,
    List.countP_eq_zero]
  intro u _ hlost
  simp only [Bool.and_eq_true, Bool.not_eq_true', List.contains_iff_mem] at hlost
  obtain ⟨⟨hbr, hmem⟩, hfall⟩ := hlost
  obtain ⟨hf, he⟩ := Body.mem_plain_succs_brief hsound hmem hbr
  rw [hf, he] at hfall
  simp at hfall

/-- How often two blocks of a body that was read name each other. Apart from each other, they differ by
the handler edges out of units that do not branch; in the brief graph there are none. A block names itself
once more as a successor for every unit inside it that stands after a goto or a switch. -/
theorem edge_accounting {file src : Bytes} {bodies : List Body}
    (hparse : Listing.parse file src = .ok bodies) {body : Body} (hbody : body ∈ bodies)
    (hsize : body.size ≠ 0) (k : GraphKind) (p : Policy) :
    ∃ f, build p.rule (body.flowGraph k) body.handlers = .ok f ∧ ∀ b ∈ f.blocks,
      (∀ c ∈ f.blocks, b.index ≠ c.index →
        (c.preds.count b.index : Int) - b.succs.count c.index =
            b.units.countP (fun u => !(body.flowGraph k).branches u &&
              ((body.flowGraph k).succs u).contains c.head &&
              !((body.flowGraph k).falls u && (c.head == u + 1))) ∧
          (k = .brief → c.preds.count b.index = b.succs.count c.index)) ∧
      (b.succs.count b.index : Int) - b.preds.count b.index +
          b.units.countP (fun u => !(body.flowGraph k).branches u &&
            ((body.flowGraph k).succs u).contains b.head) =
        b.rest.countP fun u => body.leaps (u - 1) := by
  have hsound := Listing.parse_sound hparse body hbody
  have hg := Body.flowGraph_regular hsound k
  have hs := p.singleEntry hg
  obtain ⟨blocks, ht, hbuild⟩ := build_of_regular hg hs (Nat.pos_of_ne_zero hsize)
  refine ⟨_, hbuild, fun b' hb' => ?_⟩
  obtain ⟨b, hb, rfl⟩ := List.mem_map.mp hb'
  simp only [wired_toRun, wired_index, wired_preds, wired_succs]
  refine ⟨fun c' hc' hne => ?_, ?_⟩
  · obtain ⟨c, hc, rfl⟩ := List.mem_map.mp hc'
    simp only [wired_toRun, wired_index, wired_preds] at hne ⊢
    refine ⟨?_, ?_⟩
    · have happart := count_preds_apart hg hs ht hb hc hne
      omega
    · rintro rfl
      exact count_preds_brief hsound hs ht hb hc hne
  · have hself := count_preds_self hg hs ht hb
    have hleaps : b.rest.countP (fun u => body.leaps (u - 1)) = b.rest.countP fun u =>
        !(body.flowGraph k).falls (u - 1) && (body.flowGraph k).branches (u - 1) := by
      refine List.countP_congr fun u hu => ?_
      have hlt := List.mem_range.mp (ht.mem_units.mpr ⟨b, hb, ((ht.mem_rest hb).mp hu).1⟩)
      rw [Body.leaps_eq k (by omega)]
    omega

/-- A switch whose first case stays in its block, with a handler around it. -/
theorem edge_accounting_switch :
    ∃ body f, Listing.parse (bytes "m.bbl")
        (bytes "a: x = 1\nswitch x b default c\nb: y = 2\nc: goto c\nh: return\n.trap a c h\n") = .ok [body] ∧
      body.size = 5 ∧ build Policy.bigBlock.rule (body.flowGraph .exceptional) body.handlers = .ok f ∧
      f.blocks.map (fun b => (b.units, b.preds, b.succs)) =
        [([0, 1, 2], [], [1, 0, 1, 2]), ([3], [0, 0, 1], [1]), ([4], [0, 0, 0], [])] ∧
      ∀ b ∈ f.blocks,
        (∀ c ∈ f.blocks, b.index ≠ c.index → (c.preds.count b.index : Int) - b.succs.count c.index =
          b.units.countP fun u => !(body.flowGraph .exceptional).branches u &&
            ((body.flowGraph .exceptional).succs u).contains c.head &&
            !((body.flowGraph .exceptional).falls u && (c.head == u + 1))) ∧
        (b.succs.count b.index : Int) - b.preds.count b.index +
            b.units.countP (fun u => !(body.flowGraph .exceptional).branches u &&
              ((body.flowGraph .exceptional).succs u).contains b.head) =
          b.rest.countP fun u => body.leaps (u - 1) := by
  obtain ⟨body, hparse, hsize, hblocks⟩ : ∃ body, Listing.parse (bytes "m.bbl")
      (bytes "a: x = 1\nswitch x b default c\nb: y = 2\nc: goto c\nh: return\n.trap a c h\n") = .ok [body] ∧
      body.size = 5 ∧ (build Policy.bigBlock.rule (body.flowGraph .exceptional) body.handlers).map
        (·.blocks.map fun b => (b.units, b.preds, b.succs)) =
        .ok [([0, 1, 2], [], [1, 0, 1, 2]), ([3], [0, 0, 1], [1]), ([4], [0, 0, 0], [])] :=
    eq_ok_singleton (by decide +kernel)
  obtain ⟨f, hbuild, hcount⟩ :=
    edge_accounting hparse List.mem_cons_self (by omega) .exceptional .bigBlock
  rw [hbuild] at hblocks
  exact ⟨body, f, hparse, hsize, hbuild, Except.ok.inj hblocks, fun b hb =>
    ⟨fun c hc hne => ((hcount b hb).1 c hc hne).1, (hcount b hb).2⟩⟩

end FlowBlocks
