import FlowBlocks.BlockFlow.Verify
import FlowBlocks.Proofs.BlockFlow.Traced
import FlowBlocks.Proofs.BlockFlow.Wiring
import FlowBlocks.Proofs.Leaders
/-!
Construction from parsed bodies. A regular graph with single-entry leaders is consistent with the cut at
these leaders, so it is built, and what is built passes verification. A body without instructions is the
only one that cannot be built.
-/
namespace FlowBlocks

section Regular

variable {g : FlowGraph Nat} {n : Nat} {handlers leaders : List Nat} {blocks : List (Block Nat)}
  {b : Block Nat} {u v : Nat}

theorem SingleEntry.leader_of_no_preds (hs : SingleEntry g n handlers leaders) (hu : u < n)
    (h : u = 0 ∨ g.preds u = []) : u ∈ leaders := by
  rcases h with rfl | hp
  · exact hs.first hu
  · cases u with
    | zero => exact hs.first hu
    | succ u =>
        by_contra hl
        rw [hs.only u hu hl] at hp
        cases hp

/-- An edge inside a block that does not lead to its first unit leads to the next position. -/
theorem SingleEntry.inner_edge (hg : g.Regular n handlers) (hs : SingleEntry g n handlers leaders)
    (hv : v ∈ g.succs u) (hl : v ∉ leaders) : v = u + 1 := by
  have hlt := (hg.succs_lt u v hv).2
  cases v with
  | zero => exact absurd (hs.first hlt) hl
  | succ v =>
      have hu := hg.mem_preds.mpr hv
      rw [hs.only v hlt hl] at hu
      rw [List.mem_singleton.mp hu]

theorem jumpTargets_sub (h : v ∈ jumpTargets g u) : v ∈ g.succs u := by
  unfold jumpTargets at h
  split at h
  · exact List.mem_of_mem_drop h
  · exact h

theorem consistent_of_regular (hg : g.Regular n handlers) (hs : SingleEntry g n handlers leaders)
    (ht : Tiling leaders.contains (List.range n) blocks) : Consistent g blocks where
  heads := by
    intro u hu
    obtain ⟨hlt, hp⟩ := hg.heads_only u hu
    obtain ⟨b, hb, hub⟩ := ht.mem_units.mp (List.mem_range.mpr hlt)
    have hl := List.contains_iff_mem.mpr (hs.leader_of_no_preds hlt hp)
    exact ⟨b, hb, (ht.head_of_leader hb hub hl).symm⟩
  tails := by
    intro u hu
    obtain ⟨hlt, -, -⟩ := (hg.tails u).mp hu
    obtain ⟨b, hb, hub⟩ := ht.mem_units.mp (List.mem_range.mpr hlt)
    refine ⟨b, hb, ?_⟩
    by_contra hne
    -- an exit that is not last has a position of the block after it, which would be a leader
    have hmem := (ht.mem_block hb).mp hub
    have hstop := ht.stop_le hb
    have htail := ht.tail_succ hb
    have hnext : u + 1 ∈ b.units := (ht.mem_block hb).mpr (by omega)
    have hnl := (ht.succ_mem hb hub (by omega)).mp hnext
    rw [List.contains_iff_mem.mpr (hs.exit u hu (by omega))] at hnl
    cases hnl
  preds := by
    intro b _ u hu
    exact hg.mem_units.mpr (hg.succs_lt u _ (hg.mem_preds.mp hu)).1
  jumps := by
    intro b _ u _ _ t ht
    exact hg.mem_units.mpr (hg.succs_lt u t (jumpTargets_sub ht)).2
  falls := by
    intro b hb hf
    have hlt : b.tail < n := ht.lt_of_mem hb b.tail_mem
    obtain ⟨hnext, rest, hsucc⟩ := hg.falls b.tail hlt hf
    exact ⟨_, rest, hsucc, hg.mem_units.mpr hnext⟩
  exits := by
    intro b hb hnil
    have hlt : b.tail < n := ht.lt_of_mem hb b.tail_mem
    obtain ⟨hfall, hjump⟩ := List.append_eq_nil_iff.mp hnil
    have hf : g.falls b.tail = false := by
      by_contra hf
      have hf' : g.falls b.tail = true := by simpa using hf
      obtain ⟨-, rest, hsucc⟩ := hg.falls b.tail hlt hf'
      rw [blockFall, if_pos hf', hsucc] at hfall
      cases hfall
    refine (hg.tails b.tail).mpr ⟨hlt, ?_, hf⟩
    by_contra hb'
    have hbr : g.branches b.tail = true := by simpa using hb'
    have hnone := List.flatMap_eq_nil_iff.mp hjump b.tail (List.mem_filter.mpr ⟨b.tail_mem, hbr⟩)
    have hne := hg.jumps b.tail hlt hbr hf
    rw [jumpTargets, hf] at hnone
    exact hne (List.map_eq_nil_iff.mp hnone)

theorem build_of_partition {rule : LeaderRule Nat} (hg : g.Regular n handlers)
    (hs : SingleEntry g n handlers (rule g handlers)) (hn : 0 < n)
    (hpart : partition (rule g handlers) (List.range n) = .ok blocks)
    (ht : Tiling (rule g handlers).contains (List.range n) blocks) :
    build rule g handlers = .ok (assemble g blocks) := by
  have hne : g.units ≠ [] := by
    rw [hg.units]
    simpa using Nat.ne_of_gt hn
  have ht' : Tiling (rule g handlers).contains g.units blocks := by rw [hg.units]; exact ht
  rw [build, hg.units, hpart]
  exact wire_eq_ok ht' hg.units_nodup hne (consistent_of_regular hg hs ht)

theorem SingleEntry.partition_tiles (hs : SingleEntry g n handlers leaders) (hn : 0 < n) :
    ∃ blocks, partition leaders (List.range n) = .ok blocks ∧
      Tiling leaders.contains (List.range n) blocks := by
  apply FlowBlocks.partition_tiles
  · simpa using Nat.ne_of_gt hn
  · intro u hu
    cases n with
    | zero => cases hn
    | succ n =>
        rw [List.range_succ_eq_map] at hu
        cases hu
        exact hs.first hn

/-- A regular graph with units is built from the tiling its leaders cut. -/
theorem build_of_regular {rule : LeaderRule Nat} (hg : g.Regular n handlers)
    (hs : SingleEntry g n handlers (rule g handlers)) (hn : 0 < n) :
    ∃ blocks, Tiling (rule g handlers).contains (List.range n) blocks ∧
      build rule g handlers = .ok (assemble g blocks) := by
  obtain ⟨blocks, hpart, ht⟩ := hs.partition_tiles hn
  exact ⟨blocks, ht, build_of_partition hg hs hn hpart ht⟩

end Regular

section Verify

variable {U : Type} [DecidableEq U]

theorem compareUnits_eq {f : BlockFlow U} {block : Nat} {us : List U}
    (h : ∀ u ∈ us, (f.owner? u).map (·.index) = some block) (position : Nat) (left : List U) :
    f.compareUnits block position (us ++ left) us = ([], left) := by
  induction us generalizing position with
  | nil => cases left <;> rfl
  | cons u us ih =>
      rw [List.cons_append, BlockFlow.compareUnits, h u List.mem_cons_self,
        ih (fun v hv => h v (List.mem_cons_of_mem u hv))]
      simp

theorem compareBlocks_eq_nil {f : BlockFlow U} {bs : List (Block U)} {i s : Nat} (total : Nat)
    (placed : Placed i s bs) (owned : ∀ b ∈ bs, ∀ u ∈ b.units, (f.owner? u).map (·.index) = some b.index) :
    f.compareBlocks total i (bs.flatMap fun b => b.units) bs = [] := by
  induction bs generalizing i s with
  | nil => rfl
  | cons b bs ih =>
      obtain ⟨hi, -, hrest⟩ := placed
      rw [List.flatMap_cons, BlockFlow.compareBlocks, compareUnits_eq (owned b List.mem_cons_self)]
      have hlater := ih hrest fun c hc => owned c (List.mem_cons_of_mem b hc)
      simp only [if_pos hi, List.nil_append]
      exact hlater

theorem leaderViolations_eq_nil {leaders units : List U} {blocks : List (Block U)}
    (ht : Tiling leaders.contains units blocks) {b : Block U} (hb : b ∈ blocks) :
    BlockFlow.leaderViolations leaders b = [] := by
  rw [BlockFlow.leaderViolations, if_pos (ht.opens b hb), List.nil_append]
  have hnone : b.rest.filter leaders.contains = [] :=
    List.filter_eq_nil_iff.mpr fun u hu => by
      rw [ht.within b hb u hu]
      exact Bool.false_ne_true
  rw [hnone]
  rfl

theorem blockOf_lt {isLeader : U → Bool} {units : List U} {blocks : List (Block U)}
    (ht : Tiling isLeader units blocks) (hne : blocks ≠ []) (u : U) :
    blockOf blocks u < blocks.length := by
  rw [blockOf]
  cases ho : ownerIn? blocks u with
  | none => simpa using List.length_pos_iff.mpr hne
  | some b => exact ht.index_lt (List.mem_reverse.mp (List.mem_of_find?_eq_some ho))

theorem wired_tiling {isLeader : U → Bool} {units : List U} {blocks : List (Block U)}
    (ht : Tiling isLeader units blocks) (g : FlowGraph U) :
    Tiling isLeader units (blocks.map (wired g blocks)) :=
  ht.map (fun _ => rfl) (fun _ => rfl) (fun _ => rfl)

/-- Edges of the assembled flow lead to its blocks. -/
theorem blockEdges_lt {isLeader : U → Bool} {units : List U} {blocks : List (Block U)}
    (ht : Tiling isLeader units blocks) (hne : blocks ≠ []) (g : FlowGraph U) (b : Block U) :
    ∀ i ∈ blockPreds g blocks b ++ blockSuccs g blocks b, i < blocks.length := by
  intro i hi
  rcases List.mem_append.mp hi with hi | hi
  · obtain ⟨u, -, rfl⟩ := List.mem_map.mp hi
    exact blockOf_lt ht hne u
  · rcases List.mem_append.mp hi with hi | hi
    · unfold blockFall at hi
      split at hi
      · obtain ⟨u, -, rfl⟩ := List.mem_map.mp hi
        exact blockOf_lt ht hne u
      · exact absurd hi List.not_mem_nil
    · obtain ⟨u, -, hu⟩ := List.mem_flatMap.mp hi
      obtain ⟨v, -, rfl⟩ := List.mem_map.mp hu
      exact blockOf_lt ht hne v

end Verify

section Construct

variable {g : FlowGraph Nat} {n : Nat} {handlers : List Nat} {blocks : List (Block Nat)}

theorem edgeViolations_eq_nil {leaders : List Nat} (hg : g.Regular n handlers)
    (hs : SingleEntry g n handlers leaders) (ht : Tiling leaders.contains (List.range n) blocks)
    {b : Block Nat} (hb : b ∈ blocks) :
    (assemble g blocks).edgeViolations handlers (wired g blocks b) = [] := by
  have ht' : Tiling leaders.contains g.units blocks := by rw [hg.units]; exact ht
  have hexit : ((blockSuccs g blocks b).isEmpty && !(assemble g blocks).isTail b.index) = false := by
    cases hnil : (blockSuccs g blocks b).isEmpty with
    | false => rfl
    | true =>
        have htail := (consistent_of_regular hg hs ht).exits b hb (List.isEmpty_iff.mp hnil)
        have hof := blockOf_eq ht' hg.units_nodup hb b.tail_mem
        have hmem : b.index ∈ (assemble g blocks).tails :=
          mem_distinct.mpr (List.mem_map.mpr ⟨b.tail, htail, hof⟩)
        simpa [BlockFlow.isTail] using hmem
  have hentry : ((blockPreds g blocks b).isEmpty && !(assemble g blocks).isHead b.index &&
      !handlers.contains b.head) = false := by
    by_contra hc
    simp only [Bool.not_eq_false, Bool.and_eq_true, List.isEmpty_iff, Bool.not_eq_true',
      BlockFlow.isHead, List.contains_eq_mem, decide_eq_false_iff_not] at hc
    obtain ⟨⟨hp, hhead⟩, hh⟩ := hc
    have hlt : b.head < n := ht.lt_of_mem hb b.head_mem
    have hmem := hg.heads_all b.head hlt (List.map_eq_nil_iff.mp hp) hh
    refine hhead (mem_addIndex.mpr (Or.inl (mem_distinct.mpr (List.mem_map.mpr ⟨b.head, hmem, ?_⟩))))
    exact blockOf_eq ht' hg.units_nodup hb b.head_mem
  have hforeign : ((blockPreds g blocks b ++ blockSuccs g blocks b).filter
      ((assemble g blocks).size ≤ ·)) = [] := by
    refine List.filter_eq_nil_iff.mpr fun i hi => ?_
    have hlt := blockEdges_lt ht (List.ne_nil_of_mem hb) g b i hi
    simpa [BlockFlow.size, assemble] using hlt
  change (if ((blockSuccs g blocks b).isEmpty && !(assemble g blocks).isTail b.index) = true then _ else _)
    ++ (if ((blockPreds g blocks b).isEmpty && !(assemble g blocks).isHead b.index &&
      !handlers.contains b.head) = true then _ else _) ++
    ((blockPreds g blocks b ++ blockSuccs g blocks b).filter ((assemble g blocks).size ≤ ·)).map _ = _
  rw [hexit, hentry, hforeign]
  rfl

/-- What is built from a regular graph agrees with the graph in every respect that is verified. -/
theorem verify_assemble {rule : LeaderRule Nat} (hg : g.Regular n handlers)
    (hs : SingleEntry g n handlers (rule g handlers))
    (ht : Tiling (rule g handlers).contains (List.range n) blocks) :
    (assemble g blocks).verify rule g handlers = [] := by
  have hw := wired_tiling ht g
  have howned : ∀ b ∈ (assemble g blocks).blocks, ∀ u ∈ b.units,
      ((assemble g blocks).owner? u).map (·.index) = some b.index := by
    intro b hb u hu
    have ho := (hw.ownerIn?_eq_some_iff List.nodup_range).mpr ⟨hb, hu⟩
    change (ownerIn? (blocks.map (wired g blocks)) u).map (·.index) = _
    rw [ho]
    rfl
  have hcompare : (assemble g blocks).compareBlocks g.units.length 0 g.units
      (assemble g blocks).blocks = [] := by
    have hcov : g.units = (assemble g blocks).blocks.flatMap fun b => b.units :=
      hg.units.trans hw.covers.symm
    rw [hcov]
    exact compareBlocks_eq_nil _ hw.placed howned
  have hleaders : (assemble g blocks).blocks.flatMap
      (BlockFlow.leaderViolations (rule g handlers)) = [] :=
    List.flatMap_eq_nil_iff.mpr fun b hb => leaderViolations_eq_nil hw hb
  have hedges : (assemble g blocks).blocks.flatMap
      ((assemble g blocks).edgeViolations handlers) = [] := by
    refine List.flatMap_eq_nil_iff.mpr fun c hc => ?_
    obtain ⟨b, hb, rfl⟩ := List.mem_map.mp hc
    exact edgeViolations_eq_nil hg hs ht hb
  rw [BlockFlow.verify, hcompare, hleaders, hedges]
  simp only [List.nil_append, List.append_nil]
  cases hbs : (assemble g blocks).blocks with
  | nil => rfl
  | cons b bs =>
      have hindex : b.index = 0 := (hbs ▸ hw.placed : Placed 0 0 (b :: bs)).1
      have hhead : b.index ∈ (assemble g blocks).heads := mem_addIndex.mpr (Or.inr hindex)
      simpa [BlockFlow.isHead] using hhead

theorem build_empty {b : Body} (h : b.size = 0) (k : GraphKind) (rule : LeaderRule Nat) :
    build rule (b.flowGraph k) b.handlers = .error .emptyBody := by
  have hunits : (b.flowGraph k).units = [] := by
    change List.range b.size = []
    rw [h]
    rfl
  rw [build, hunits]
  rfl

end Construct

/-- Every body of a listing that is read, as either graph and under either policy: with instructions it
is built and passes verification, without any it fails as an empty body, and there is no other way to
fail. -/
theorem parsed_body_construction {file src : Bytes} {bodies : List Body}
    (hparse : Listing.parse file src = .ok bodies) {b : Body} (hb : b ∈ bodies) (k : GraphKind)
    (p : Policy) (unitName : Nat → Bytes) (name : Bytes) (parent : Nat) (r : Trace.Recorder) :
    (b.size ≠ 0 → ∃ f,
      (buildTraced unitName name p.rule (b.flowGraph k) b.handlers parent r).1 = .ok f ∧
        f.verify p.rule (b.flowGraph k) b.handlers = []) ∧
    (b.size = 0 → ∃ e,
      (buildTraced unitName name p.rule (b.flowGraph k) b.handlers parent r).1 = .error e ∧
        e.fault = .emptyBody) ∧
    ∀ e, (buildTraced unitName name p.rule (b.flowGraph k) b.handlers parent r).1 = .error e →
      e.fault = .emptyBody := by
  have hg := Body.flowGraph_regular (Listing.parse_sound hparse b hb) k
  have hs := p.singleEntry hg
  rw [buildTraced_fst]
  by_cases hsize : b.size = 0
  · rw [build_empty hsize]
    refine ⟨fun hne => absurd hsize hne, fun _ => ⟨_, rfl, rfl⟩, ?_⟩
    rintro e ⟨⟩
    rfl
  · obtain ⟨blocks, ht, hbuild⟩ := build_of_regular hg hs (Nat.pos_of_ne_zero hsize)
    rw [hbuild]
    exact ⟨fun _ => ⟨_, rfl, verify_assemble hg hs ht⟩, fun h => absurd h hsize, nofun⟩

/-- A loop with a handler behind its exit and a jump to the next instruction, and a body without
instructions. -/
theorem trapped_loop_construction :
    ∃ loop void, Listing.parse (bytes "m.bbl")
        (bytes "top: if p goto out\ngoto out\nout: return\nh: goto top\n.trap top out h\n.body e\n") =
          .ok [loop, void] ∧ loop.size = 4 ∧ void.size = 0 ∧
      (∀ k (p : Policy), ∃ f, (buildTraced position loop.name p.rule (loop.flowGraph k) loop.handlers 0
        {}).1 = .ok f ∧ f.verify p.rule (loop.flowGraph k) loop.handlers = []) ∧
      ∀ k (p : Policy), ∃ e, (buildTraced position void.name p.rule (void.flowGraph k) void.handlers 0
        {}).1 = .error e ∧ e.fault = .emptyBody := by
  obtain ⟨bodies, hparse, hsizes⟩ := map_eq_ok.mp (by decide +kernel :
    (Listing.parse (bytes "m.bbl")
      (bytes "top: if p goto out\ngoto out\nout: return\nh: goto top\n.trap top out h\n.body e\n")).map
        (·.map Body.size) = .ok [4, 0])
  obtain ⟨loop, void, rfl⟩ : ∃ loop void, bodies = [loop, void] := by
    have hlen := congrArg List.length hsizes
    rw [List.length_map] at hlen
    exact List.length_eq_two.mp hlen
  obtain ⟨hloop, hvoid⟩ : loop.size = 4 ∧ void.size = 0 := by simpa using hsizes
  refine ⟨loop, void, hparse, hloop, hvoid, fun k p => ?_, fun k p => ?_⟩
  · exact (parsed_body_construction hparse (by simp) k p position loop.name 0 {}).1 (by omega)
  · exact (parsed_body_construction hparse (by simp) k p position void.name 0 {}).2.1 hvoid

end FlowBlocks
