import FlowBlocks.Proofs.BlockFlow.Edges
/-!
Blocks are entered at the top. An edge leads to the head of a block or on from the position before it in the
same block, and inside a block every unit leads to the next one, which nothing else leads to. Both follow from
`SingleEntry`, so neither leader rule is looked at again.
-/
namespace FlowBlocks

section Regular

variable {g : FlowGraph Nat} {n : Nat} {handlers leaders : List Nat} {blocks : List (Block Nat)}
  {b : Block Nat} {u t : Nat}

theorem Tiling.not_mem_leaders (ht : Tiling leaders.contains (List.range n) blocks) (hb : b ∈ blocks)
    (hu : u ∈ b.units) (hne : u ≠ b.head) : u ∉ leaders := by
  intro hl
  have hin := ht.not_leader hb hu hne
  rw [List.contains_iff_mem.mpr hl] at hin
  cases hin

/-- Two units that follow each other in a block are neighbouring positions. -/
theorem Tiling.consecutive (ht : Tiling leaders.contains (List.range n) blocks) (hb : b ∈ blocks)
    (h : [u, t] <:+: b.units) : t = u + 1 ∧ t ∈ b.rest := by
  obtain ⟨before, after, heq⟩ := h
  have hnext : t = u + 1 := by
    rw [ht.units_eq_range' hb, List.append_assoc] at heq
    obtain ⟨k, -, -, hpair⟩ := List.range'_eq_append_iff.mp heq.symm
    obtain ⟨hu, -, hlater⟩ := List.range'_eq_cons_iff.mp hpair.symm
    obtain ⟨hv, -⟩ := List.range'_eq_cons_iff.mp hlater.symm
    omega
  refine ⟨hnext, (ht.mem_rest hb).mpr ⟨?_, ?_⟩⟩
  · rw [← heq]
    simp
  · have hu : u ∈ b.units := by
      rw [← heq]
      simp
    have hlow := ((ht.mem_block hb).mp hu).1
    have hstart := ht.head_eq_start hb
    omega

/-- An edge that does not lead to the head of a block comes from the position before, in that block. -/
theorem SingleEntry.edge_inside (hg : g.Regular n handlers) (hs : SingleEntry g n handlers leaders)
    (ht : Tiling leaders.contains (List.range n) blocks) (hb : b ∈ blocks) (hmem : t ∈ b.units)
    (hedge : t ∈ g.succs u) (hne : t ≠ b.head) : t = u + 1 ∧ u ∈ b.units := by
  have hnext := hs.inner_edge hg hedge (ht.not_mem_leaders hb hmem hne)
  refine ⟨hnext, (ht.mem_block hb).mpr ?_⟩
  have hin := (ht.mem_block hb).mp hmem
  have hstart := ht.head_eq_start hb
  omega

/-- The second of two consecutive units follows the first and nothing else. -/
theorem SingleEntry.consecutive_edge (hg : g.Regular n handlers) (hs : SingleEntry g n handlers leaders)
    (ht : Tiling leaders.contains (List.range n) blocks) (hb : b ∈ blocks) (h : [u, t] <:+: b.units) :
    t ∈ g.succs u ∧ g.preds t = [u] := by
  obtain ⟨rfl, hrest⟩ := ht.consecutive hb h
  obtain ⟨hmem, hne⟩ := (ht.mem_rest hb).mp hrest
  have hlt := ht.lt_of_mem hb hmem
  exact ⟨hs.next_mem_succs hg ht hb hrest, hs.only u hlt (ht.not_mem_leaders hb hmem hne)⟩

end Regular

/-- In the blocks of every body that is read, as either graph and under either policy: an edge leads to the
head of the block of its target, or its source stands right before the target in the same block; and of two
consecutive units of a block the second is a successor of the first and has it as its only predecessor. -/
theorem blocks_entered_at_head {file src : Bytes} {bodies : List Body}
    (hparse : Listing.parse file src = .ok bodies) {body : Body} (hbody : body ∈ bodies)
    (hsize : body.size ≠ 0) (k : GraphKind) (p : Policy) :
    ∃ f, build p.rule (body.flowGraph k) body.handlers = .ok f ∧
      (∀ u t, t ∈ (body.flowGraph k).succs u → ∃ b, f.owner? t = some b ∧
        (t = b.head ∨ t = u + 1 ∧ f.owner? u = some b)) ∧
      ∀ b ∈ f.blocks, ∀ u t, [u, t] <:+: b.units →
        t ∈ (body.flowGraph k).succs u ∧ (body.flowGraph k).preds t = [u] := by
  have hg := Body.flowGraph_regular (Listing.parse_sound hparse body hbody) k
  have hs := p.singleEntry hg
  obtain ⟨blocks, hcut, hbuild⟩ := build_of_regular hg hs (Nat.pos_of_ne_zero hsize)
  have ht := wired_tiling hcut (body.flowGraph k)
  have howner : ∀ {u : Nat} {b : Block Nat}, (assemble (body.flowGraph k) blocks).owner? u = some b ↔
      b ∈ (assemble (body.flowGraph k) blocks).blocks ∧ u ∈ b.units :=
    ht.ownerIn?_eq_some_iff List.nodup_range
  refine ⟨_, hbuild, ?_, ?_⟩
  · intro u t hedge
    obtain ⟨b, hb, hmem⟩ := ht.mem_units.mp (List.mem_range.mpr (hg.succs_lt u t hedge).2)
    refine ⟨b, howner.mpr ⟨hb, hmem⟩, ?_⟩
    by_cases hhead : t = b.head
    · exact Or.inl hhead
    · obtain ⟨hnext, hu⟩ := hs.edge_inside hg ht hb hmem hedge hhead
      exact Or.inr ⟨hnext, howner.mpr ⟨hb, hu⟩⟩
  · intro b hb u t hpair
    exact hs.consecutive_edge hg ht hb hpair

/-- A block with a jump to the next unit inside it and a handler edge out of its middle. -/
theorem inner_jump_entered_at_head :
    ∃ body, Listing.parse (bytes "m.bbl")
        (bytes "a: x = 1\ngoto b\nb: y = 2\nh: return\n.trap a b h\n") = .ok [body] ∧ body.size = 4 ∧
      ∃ f, build Policy.bigBlock.rule (body.flowGraph .exceptional) body.handlers = .ok f ∧
        (∀ u t, t ∈ (body.flowGraph .exceptional).succs u → ∃ b, f.owner? t = some b ∧
          (t = b.head ∨ t = u + 1 ∧ f.owner? u = some b)) ∧
        ∀ b ∈ f.blocks, ∀ u t, [u, t] <:+: b.units →
          t ∈ (body.flowGraph .exceptional).succs u ∧ (body.flowGraph .exceptional).preds t = [u] := by
  obtain ⟨body, hparse, hsize⟩ : ∃ body, Listing.parse (bytes "m.bbl")
      (bytes "a: x = 1\ngoto b\nb: y = 2\nh: return\n.trap a b h\n") = .ok [body] ∧ body.size = 4 :=
    eq_ok_singleton (by decide +kernel)
  exact ⟨body, hparse, hsize,
    blocks_entered_at_head hparse List.mem_cons_self (by omega) .exceptional .bigBlock⟩

end FlowBlocks
