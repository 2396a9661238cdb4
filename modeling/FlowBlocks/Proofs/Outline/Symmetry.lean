import FlowBlocks.Proofs.BlockFlow.Reach
import FlowBlocks.Proofs.BlockFlow.Straight
import FlowBlocks.Proofs.Outline.Abridged
/-!
Which edges of a body's outline stand at one end only. Successors are read off the units that branch and off
the last unit, predecessors off the first unit. So a jump to the next position inside a block makes the
block a successor of itself, and a handler edge out of a unit that does not branch is a predecessor only.
-/
namespace FlowBlocks

section Regular

variable {g : FlowGraph Nat} {n : Nat} {handlers leaders : List Nat} {blocks : List (Block Nat)}
  {b c : Block Nat} {u : Nat}

/-- Past the head of a block every position follows one of the same block. -/
theorem Tiling.exists_before (ht : Tiling leaders.contains (List.range n) blocks) (hb : b ∈ blocks)
    (hu : u ∈ b.rest) : ∃ v ∈ b.units, u = v + 1 := by
  obtain ⟨hmem, hhead⟩ := (ht.mem_rest hb).mp hu
  have hstart := ht.head_eq_start hb
  have hin := (ht.mem_block hb).mp hmem
  exact ⟨u - 1, (ht.mem_block hb).mpr (by omega), by omega⟩

/-- A block is listed as a successor for a jump to its head, for a fall to its head, and by itself for a
jump to the next position inside. -/
theorem mem_blockSuccs (hg : g.Regular n handlers) (hs : SingleEntry g n handlers leaders)
    (ht : Tiling leaders.contains (List.range n) blocks) (hb : b ∈ blocks) (hc : c ∈ blocks) :
    c.index ∈ blockSuccs g blocks b ↔
      (∃ u ∈ b.units, c.head ∈ g.succs u ∧
        (g.branches u = true ∨ g.falls u = true ∧ c.head = u + 1)) ∨
      b.index = c.index ∧ ∃ u ∈ b.rest, g.falls (u - 1) = false ∧ g.branches (u - 1) = true := by
  have hlt : ∀ u ∈ b.units, u < n := fun u hu => ht.lt_of_mem hb hu
  rw [← List.count_pos_iff, blockSuccs, List.count_append, count_blockFall hg ht hb hc,
    count_blockJumps hg hs ht hb hc, Nat.add_pos_iff_pos_or_pos, Nat.add_pos_iff_pos_or_pos]
  simp only [List.countP_pos_iff, Bool.and_eq_true, Bool.not_eq_true', List.contains_iff_mem, beq_iff_eq]
  constructor
  · rintro (⟨u, hu, hf, he⟩ | ⟨u, hu, hj, hbr⟩ | ⟨u, hu, ⟨hf, hr⟩, hbr⟩)
    · obtain ⟨-, rest, hsucc⟩ := hg.falls u (hlt u hu) hf
      refine Or.inl ⟨u, hu, ?_, Or.inr ⟨hf, he⟩⟩
      rw [hsucc, he]
      exact List.mem_cons_self
    · exact Or.inl ⟨u, hu, jumpTargets_sub hj, Or.inl hbr⟩
    · obtain ⟨v, hv, hnext⟩ := ht.exists_before hc hr
      rw [← Nat.succ.inj hnext] at hv
      obtain rfl : b = c := ht.unique List.nodup_range hb hc hu hv
      exact Or.inr ⟨rfl, u + 1, hr, hf, hbr⟩
  · rintro (⟨u, hu, hmem, hway⟩ | ⟨hindex, u, hu, hf, hbr⟩)
    · by_cases hfall : g.falls u = true ∧ c.head = u + 1
      · exact Or.inl ⟨u, hu, hfall⟩
      · exact Or.inr (Or.inl ⟨u, hu, (mem_jumpTargets hg (hlt u hu)).mpr ⟨hmem, hfall⟩,
          hway.resolve_right hfall⟩)
    · obtain rfl := ht.ext_index hb hc hindex
      obtain ⟨v, hv, rfl⟩ := ht.exists_before hb hu
      exact Or.inr (Or.inr ⟨v, hv, ⟨hf, hu⟩, hbr⟩)

theorem unmatchedSucc_iff (hg : g.Regular n handlers) (hs : SingleEntry g n handlers leaders)
    (ht : Tiling leaders.contains (List.range n) blocks) (hb : b ∈ (assemble g blocks).blocks)
    (hc : c ∈ (assemble g blocks).blocks) :
    c.index ∈ b.succs ∧ b.index ∉ c.preds ↔
      b.index = c.index ∧ (∃ u ∈ b.rest, g.falls (u - 1) = false ∧ g.branches (u - 1) = true) ∧
        ∀ u ∈ b.units, c.head ∉ g.succs u := by
  obtain ⟨b', hb', rfl⟩ := List.mem_map.mp hb
  obtain ⟨c', hc', rfl⟩ := List.mem_map.mp hc
  simp only [wired_toRun, wired_index, wired_preds, wired_succs]
  rw [mem_blockSuccs hg hs ht hb' hc', mem_blockPreds hg ht hb']
  constructor
  · rintro ⟨⟨u, hu, hmem, -⟩ | ⟨hindex, hleap⟩, hnone⟩
    · exact absurd ⟨u, hu, hmem⟩ hnone
    · exact ⟨hindex, hleap, fun u hu hmem => hnone ⟨u, hu, hmem⟩⟩
  · rintro ⟨hindex, hleap, hnone⟩
    refine ⟨Or.inr ⟨hindex, hleap⟩, ?_⟩
    rintro ⟨u, hu, hmem⟩
    exact hnone u hu hmem

theorem unmatchedPred_iff (hg : g.Regular n handlers) (hs : SingleEntry g n handlers leaders)
    (ht : Tiling leaders.contains (List.range n) blocks) (hb : b ∈ (assemble g blocks).blocks)
    (hc : c ∈ (assemble g blocks).blocks) :
    b.index ∈ c.preds ∧ c.index ∉ b.succs ↔
      (∃ u ∈ b.units, c.head ∈ g.succs u) ∧
      (∀ u ∈ b.units, c.head ∈ g.succs u →
        g.branches u = false ∧ ¬(g.falls u = true ∧ c.head = u + 1)) ∧
      (b.index = c.index → ¬∃ u ∈ b.rest, g.falls (u - 1) = false ∧ g.branches (u - 1) = true) := by
  obtain ⟨b', hb', rfl⟩ := List.mem_map.mp hb
  obtain ⟨c', hc', rfl⟩ := List.mem_map.mp hc
  simp only [wired_toRun, wired_index, wired_preds, wired_succs]
  rw [mem_blockSuccs hg hs ht hb' hc', mem_blockPreds hg ht hb', not_or, not_and]
  refine and_congr Iff.rfl (and_congr ?_ Iff.rfl)
  constructor
  · intro h u hu hmem
    exact ⟨Bool.eq_false_iff.mpr fun hbr => h ⟨u, hu, hmem, Or.inl hbr⟩,
      fun hfall => h ⟨u, hu, hmem, Or.inr hfall⟩⟩
  · rintro h ⟨u, hu, hmem, hbr | hfall⟩
    · exact Bool.eq_false_iff.mp (h u hu hmem).1 hbr
    · exact (h u hu hmem).2 hfall

/-- Under the classic rule nothing stands behind a branch in its block. -/
theorem Leaders.classic_branches_eq_false (hg : g.Regular n handlers)
    (ht : Tiling (classic g handlers).contains (List.range n) blocks) (hb : b ∈ blocks)
    (hu : u ∈ b.rest) : g.branches (u - 1) = false := by
  obtain ⟨v, -, rfl⟩ := ht.exists_before hb hu
  exact (straight_of_rest hg ht hb hu).plain

end Regular

section Body

variable {body : Body} {leaders : List Nat} {blocks : List (Block Nat)} {b : Block Nat}

theorem exists_leap_iff (k : GraphKind) (ht : Tiling leaders.contains (List.range body.size) blocks)
    (hb : b ∈ blocks) : (∃ u ∈ b.rest, body.leaps (u - 1) = true) ↔
      ∃ u ∈ b.rest, (body.flowGraph k).falls (u - 1) = false ∧
        (body.flowGraph k).branches (u - 1) = true := by
  refine exists_congr fun u => and_congr_right fun hu => ?_
  have hlt := ht.lt_of_mem hb ((ht.mem_rest hb).mp hu).1
  rw [Body.leaps_eq k (by omega), Bool.and_eq_true, Bool.not_eq_true']

theorem mem_complaints_assemble (hsound : body.Sound) {k : GraphKind}
    (hs : SingleEntry (body.flowGraph k) body.size body.handlers leaders)
    (ht : Tiling leaders.contains (List.range body.size) blocks)
    (hf : (assemble (body.flowGraph k) blocks).Formed leaders.contains (List.range body.size))
    (hfit : body.size < 0x100000000) (hfirst : 0 ∈ (assemble (body.flowGraph k) blocks).heads)
    (render : Nat → Bytes) (name : Bytes) {c : Outline.Complaint} :
    c ∈ ((assemble (body.flowGraph k) blocks).abridged render name).complaints ↔
      (∃ b ∈ (assemble (body.flowGraph k) blocks).blocks,
        c = .unmatchedSucc b.index b.index.toUInt32 ∧ (∃ u ∈ b.rest, body.leaps (u - 1) = true) ∧
        ∀ u ∈ b.units, b.head ∉ (body.flowGraph k).succs u) ∨
      ∃ b ∈ (assemble (body.flowGraph k) blocks).blocks,
        ∃ d ∈ (assemble (body.flowGraph k) blocks).blocks,
          c = .unmatchedPred d.index b.index.toUInt32 ∧
          (∃ u ∈ b.units, d.head ∈ (body.flowGraph k).succs u) ∧
          (∀ u ∈ b.units, d.head ∈ (body.flowGraph k).succs u → (body.flowGraph k).branches u = false ∧
            ¬((body.flowGraph k).falls u = true ∧ d.head = u + 1)) ∧
          (b.index = d.index → ¬∃ u ∈ b.rest, body.leaps (u - 1) = true) := by
  have hg := Body.flowGraph_regular hsound k
  have hfits : (List.range body.size).length < 0x100000000 := by rwa [List.length_range]
  rw [hf.mem_complaints hfits render name hfirst]
  constructor
  · rintro (⟨b, hb, d, hd, rfl, hmiss⟩ | ⟨d, hd, b, hb, rfl, hmiss⟩)
    · obtain ⟨hindex, hleap, hnone⟩ := (unmatchedSucc_iff hg hs ht hb hd).mp hmiss
      obtain rfl := hf.tiling.ext_index hb hd hindex
      exact Or.inl ⟨b, hb, rfl, (exists_leap_iff k hf.tiling hb).mpr hleap, hnone⟩
    · rw [unmatchedPred_iff hg hs ht hb hd, ← exists_leap_iff k hf.tiling hb] at hmiss
      exact Or.inr ⟨b, hb, d, hd, rfl, hmiss⟩
  · rintro (⟨b, hb, rfl, hleap, hnone⟩ | ⟨b, hb, d, hd, rfl, hmiss⟩)
    · rw [exists_leap_iff k hf.tiling hb] at hleap
      exact Or.inl ⟨b, hb, b, hb, rfl, (unmatchedSucc_iff hg hs ht hb hb).mpr ⟨rfl, hleap, hnone⟩⟩
    · rw [exists_leap_iff k hf.tiling hb, ← unmatchedPred_iff hg hs ht hb hd] at hmiss
      exact Or.inr ⟨d, hd, b, hb, rfl, hmiss⟩

end Body

/-- What the full check says of the outline of a body that was read. It complains of edges only: that a
block leads to itself which no unit of it does, where a goto or a switch stands right before a unit inside;
and that a block is entered from another which only handler edges out of units that do not branch link to
it. The brief graph has no such handler edges, and the classic rule leaves nothing behind a goto. -/
theorem outline_complaints_iff {file src : Bytes} {bodies : List Body}
    (hparse : Listing.parse file src = .ok bodies) {body : Body} (hbody : body ∈ bodies)
    (hsize : body.size ≠ 0) (hfit : body.size < 0x100000000) (k : GraphKind) (p : Policy)
    (render : Nat → Bytes) (name : Bytes) :
    ∃ f o, build p.rule (body.flowGraph k) body.handlers = .ok f ∧
      Outline.ofFlow render name f = .ok o ∧
      (∀ c, c ∈ o.complaints ↔
        (∃ b ∈ f.blocks, c = .unmatchedSucc b.index b.index.toUInt32 ∧
          (∃ u ∈ b.rest, body.leaps (u - 1) = true) ∧
          ∀ u ∈ b.units, b.head ∉ (body.flowGraph k).succs u) ∨
        ∃ b ∈ f.blocks, ∃ d ∈ f.blocks, c = .unmatchedPred d.index b.index.toUInt32 ∧
          (∃ u ∈ b.units, d.head ∈ (body.flowGraph k).succs u) ∧
          (∀ u ∈ b.units, d.head ∈ (body.flowGraph k).succs u → (body.flowGraph k).branches u = false ∧
            ¬((body.flowGraph k).falls u = true ∧ d.head = u + 1)) ∧
          (b.index = d.index → ¬∃ u ∈ b.rest, body.leaps (u - 1) = true)) ∧
      (k = .brief → ∀ d b, .unmatchedPred d b ∉ o.complaints) ∧
      (p = .classic → ∀ b d, .unmatchedSucc b d ∉ o.complaints) ∧
      (k = .brief → p = .classic → Outline.complaintReport (some o) = none) := by
  have hsound := Listing.parse_sound hparse body hbody
  have hg := Body.flowGraph_regular hsound k
  have hs := p.singleEntry hg
  obtain ⟨blocks, ht, hbuild⟩ := build_of_regular hg hs (Nat.pos_of_ne_zero hsize)
  have hf := build_formed hbuild
  rw [hg.units] at hf
  have hfits : (List.range body.size).length < 0x100000000 := by rwa [List.length_range]
  have hne : List.range body.size ≠ [] := by simpa using hsize
  have hiff : ∀ c, _ := fun c => mem_complaints_assemble (c := c) hsound hs ht hf hfit
    (build_first hbuild hg.units_nodup) render name
  have hbrief : k = .brief → ∀ d b,
      .unmatchedPred d b ∉ ((assemble (body.flowGraph k) blocks).abridged render name).complaints := by
    rintro rfl d b hc
    rcases (hiff _).mp hc with ⟨_, _, heq, _⟩ | ⟨b, _, d, _, _, ⟨u, hu, hmem⟩, hplain, _⟩
    · cases heq
    · obtain ⟨hbr, hfall⟩ := hplain u hu hmem
      exact hfall (Body.mem_plain_succs_brief hsound hmem hbr)
  have hclassic : p = .classic → ∀ b d,
      .unmatchedSucc b d ∉ ((assemble (body.flowGraph k) blocks).abridged render name).complaints := by
    rintro rfl b d hc
    rcases (hiff _).mp hc with ⟨b, hb, _, hleap, _⟩ | ⟨_, _, _, _, heq, _⟩
    · obtain ⟨u, hu, -, hbr⟩ := (exists_leap_iff k hf.tiling hb).mp hleap
      rw [Leaders.classic_branches_eq_false hg hf.tiling hb hu] at hbr
      cases hbr
    · cases heq
  refine ⟨_, _, hbuild, hf.ofFlow_eq_ok hfits hne render name, hiff, hbrief, hclassic, ?_⟩
  intro hk hp
  have hnil : ((assemble (body.flowGraph k) blocks).abridged render name).complaints = [] := by
    refine List.eq_nil_iff_forall_not_mem.mpr fun c hc => ?_
    rcases (hiff c).mp hc with ⟨b, -, rfl, -⟩ | ⟨b, -, d, -, rfl, -⟩
    · exact hclassic hp _ _ hc
    · exact hbrief hk _ _ hc
  rw [Outline.complaintReport, hnil]

/-- A goto to the next position, in the brief graph: both stand in the first block, which names itself as a successor
and not as a predecessor, and the check complains of just that. -/
theorem jump_to_next_complaints :
    ∃ body f o, Listing.parse (bytes "m.bbl") (bytes "goto a\na: x = 1\nreturn\n") = .ok [body] ∧
      body.size = 3 ∧ build Policy.bigBlock.rule (body.flowGraph .brief) body.handlers = .ok f ∧
      f.blocks = [⟨⟨0, [1]⟩, 0, 0, [], [1, 0]⟩, ⟨⟨2, []⟩, 1, 2, [0], []⟩] ∧
      Outline.ofFlow position body.name f = .ok o ∧ ∀ c, c ∈ o.complaints ↔ c = .unmatchedSucc 0 0 := by
  obtain ⟨body, hparse, hsize, hleap, hfirst, hsecond, hblocks⟩ : ∃ body,
      Listing.parse (bytes "m.bbl") (bytes "goto a\na: x = 1\nreturn\n") = .ok [body] ∧
      body.size = 3 ∧ body.leaps 0 = true ∧ (body.flowGraph .brief).succs 0 = [1] ∧
      (body.flowGraph .brief).succs 1 = [2] ∧
      (build Policy.bigBlock.rule (body.flowGraph .brief) body.handlers).map (·.blocks) =
        .ok [⟨⟨0, [1]⟩, 0, 0, [], [1, 0]⟩, ⟨⟨2, []⟩, 1, 2, [0], []⟩] :=
    eq_ok_singleton (by decide +kernel)
  obtain ⟨f, o, hbuild, hflow, hiff, hbrief, -⟩ := outline_complaints_iff hparse List.mem_cons_self
    (by omega) (by omega) .brief .bigBlock position body.name
  rw [hbuild] at hblocks
  replace hblocks : f.blocks = _ := Except.ok.inj hblocks
  refine ⟨body, f, o, hparse, hsize, hbuild, hblocks, hflow, fun c => ⟨fun hc => ?_, ?_⟩⟩
  · rcases (hiff c).mp hc with ⟨b, hb, rfl, ⟨u, hu, -⟩, -⟩ | ⟨b, -, d, -, rfl, -⟩
    · rw [hblocks] at hb
      rcases List.mem_pair.mp hb with rfl | rfl
      · rfl
      · cases hu
    · exact absurd hc (hbrief rfl _ _)
  · rintro rfl
    have hunits : ∀ u ∈ [0, 1], 0 ∉ (body.flowGraph .brief).succs u := by simp [hfirst, hsecond]
    exact (hiff _).mpr (.inl ⟨⟨⟨0, [1]⟩, 0, 0, [], [1, 0]⟩, hblocks ▸ List.mem_cons_self, rfl,
      ⟨1, List.mem_cons_self, hleap⟩, hunits⟩)

theorem exists_report {src message : Bytes} {k : GraphKind} {p : Policy}
    (h : (Listing.parse (bytes "m.bbl") src).map (·.map fun body =>
      (build p.rule (body.flowGraph k) body.handlers).map fun f =>
        (Outline.ofFlow position body.name f).map fun o => Outline.complaintReport (some o)) =
          .ok [.ok (.ok (some message))]) :
    ∃ body f o, Listing.parse (bytes "m.bbl") src = .ok [body] ∧
      build p.rule (body.flowGraph k) body.handlers = .ok f ∧ Outline.ofFlow position body.name f = .ok o ∧
      Outline.complaintReport (some o) = some message := by
  obtain ⟨bodies, hparse, hreports⟩ := map_eq_ok.mp h
  obtain ⟨body, rfl, hreport⟩ := List.map_eq_singleton_iff.mp hreports
  obtain ⟨f, hbuild, hreport⟩ := map_eq_ok.mp hreport
  obtain ⟨o, hflow, hreport⟩ := map_eq_ok.mp hreport
  exact ⟨body, f, o, hparse, hbuild, hflow, hreport⟩

/-- The check fails on both kinds of edges: a goto to the next position, and a return with a handler. -/
theorem outline_edges_unmatched :
    (∃ body f o, Listing.parse (bytes "m.bbl") (bytes "goto a\na: x = 1\nreturn\n") = .ok [body] ∧
      build Policy.bigBlock.rule (body.flowGraph .brief) body.handlers = .ok f ∧
      Outline.ofFlow position body.name f = .ok o ∧
      Outline.complaintReport (some o) = some (bytes "B0 -> B0 has no matching pred")) ∧
    ∃ body f o, Listing.parse (bytes "m.bbl") (bytes "a: return\nh: return\n.trap a h h\n") = .ok [body] ∧
      build Policy.classic.rule (body.flowGraph .exceptional) body.handlers = .ok f ∧
      Outline.ofFlow position body.name f = .ok o ∧
      Outline.complaintReport (some o) = some (bytes "B1 <- B0 has no matching succ") :=
  ⟨exists_report (by decide +kernel), exists_report (by decide +kernel)⟩

end FlowBlocks
