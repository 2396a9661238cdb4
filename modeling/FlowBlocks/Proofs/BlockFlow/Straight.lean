import FlowBlocks.Proofs.BlockFlow.Entry
import FlowBlocks.Proofs.Leaders.Compared
/-!
Classic blocks are the maximal straight-line runs. Inside a block control goes straight on from unit to unit;
from the last unit of a block to the first of the next it does not, so no two neighbours could be one block.
Both are `Leaders.not_mem_classic`, read once inside a block and once at its head.
-/
namespace FlowBlocks

namespace Leaders

variable {g : FlowGraph Nat} {n : Nat} {handlers : List Nat} {blocks : List (Block Nat)}
  {b c : Block Nat} {u t : Nat}

theorem straight_of_rest (hg : g.Regular n handlers)
    (ht : Tiling (classic g handlers).contains (List.range n) blocks) (hb : b ∈ blocks)
    (hu : u + 1 ∈ b.rest) : g.Straight handlers u (u + 1) := by
  obtain ⟨hmem, hne⟩ := (ht.mem_rest hb).mp hu
  exact (not_mem_classic hg (ht.lt_of_mem hb hmem)).mp (ht.not_mem_leaders hb hmem hne)

theorem straight_inside (hg : g.Regular n handlers)
    (ht : Tiling (classic g handlers).contains (List.range n) blocks) (hb : b ∈ blocks)
    (h : [u, t] <:+: b.units) : g.Straight handlers u t := by
  obtain ⟨rfl, hrest⟩ := ht.consecutive hb h
  exact straight_of_rest hg ht hb hrest

theorem not_straight_across (hg : g.Regular n handlers)
    (ht : Tiling (classic g handlers).contains (List.range n) blocks) (hc : c ∈ blocks)
    (hnext : c.head = u + 1) : ¬g.Straight handlers u c.head := by
  have hlt := ht.lt_of_mem hc c.head_mem
  have hleader := List.contains_iff_mem.mp (ht.opens c hc)
  rw [hnext] at hlt hleader ⊢
  intro hs
  exact (not_mem_classic hg hlt).mpr hs hleader

end Leaders

/-- The classic blocks of a body that was read are its maximal straight-line runs. A unit that is not the last
of its block does not branch, leads to the next unit of the block alone, is all that leads there, and that
unit is no handler; one of these fails between the last unit of a block and the first unit of the next. -/
theorem classic_blocks_maximal {file src : Bytes} {bodies : List Body}
    (hparse : Listing.parse file src = .ok bodies) {body : Body} (hbody : body ∈ bodies)
    (hsize : body.size ≠ 0) (k : GraphKind) :
    ∃ f, build Policy.classic.rule (body.flowGraph k) body.handlers = .ok f ∧
      (∀ b ∈ f.blocks, ∀ u t, [u, t] <:+: b.units → (body.flowGraph k).Straight body.handlers u t) ∧
      ∀ c ∈ f.blocks, c.index ≠ 0 → ∃ b ∈ f.blocks, c.index = b.index + 1 ∧ c.head = b.tail + 1 ∧
        ¬(body.flowGraph k).Straight body.handlers b.tail c.head := by
  have hg := Body.flowGraph_regular (Listing.parse_sound hparse body hbody) k
  obtain ⟨blocks, hcut, hbuild⟩ :=
    build_of_regular hg (Policy.classic.singleEntry hg) (Nat.pos_of_ne_zero hsize)
  have ht := wired_tiling hcut (body.flowGraph k)
  refine ⟨_, hbuild, ?_, ?_⟩
  · intro b hb u t hpair
    exact Leaders.straight_inside hg ht hb hpair
  · intro c hc hne
    obtain ⟨b, hb, hindex, hnext⟩ := ht.exists_previous hc hne
    exact ⟨b, hb, hindex, hnext, Leaders.not_straight_across hg ht hc hnext⟩

/-- A run up to a conditional jump, one up to a goto to the next unit, and a trap that parts a statement from
the return behind it. -/
theorem trapped_branches_maximal :
    ∃ body f, Listing.parse (bytes "m.bbl")
        (bytes "x = 1\ny = 2\nif p goto c\nz = 3\ngoto c\nc: w = 4\nreturn\nh: throw e\n.trap c h h\n") =
          .ok [body] ∧ body.size = 8 ∧
      build Policy.classic.rule (body.flowGraph .exceptional) body.handlers = .ok f ∧
      f.blocks.map (fun b => b.units) = [[0, 1, 2], [3, 4], [5], [6], [7]] ∧
      (∀ b ∈ f.blocks, ∀ u t, [u, t] <:+: b.units →
        (body.flowGraph .exceptional).Straight body.handlers u t) ∧
      ∀ c ∈ f.blocks, c.index ≠ 0 → ∃ b ∈ f.blocks, c.index = b.index + 1 ∧ c.head = b.tail + 1 ∧
        ¬(body.flowGraph .exceptional).Straight body.handlers b.tail c.head := by
  obtain ⟨body, hparse, hsize, hblocks⟩ : ∃ body, Listing.parse (bytes "m.bbl")
      (bytes "x = 1\ny = 2\nif p goto c\nz = 3\ngoto c\nc: w = 4\nreturn\nh: throw e\n.trap c h h\n") =
        .ok [body] ∧ body.size = 8 ∧
      (build Policy.classic.rule (body.flowGraph .exceptional) body.handlers).map (·.blocks.map fun b => b.units) =
        .ok [[0, 1, 2], [3, 4], [5], [6], [7]] :=
    eq_ok_singleton (by decide +kernel)
  obtain ⟨f, hbuild, hinside, hacross⟩ :=
    classic_blocks_maximal hparse List.mem_cons_self (by omega) .exceptional
  rw [hbuild] at hblocks
  exact ⟨body, f, hparse, hsize, hbuild, Except.ok.inj hblocks, hinside, hacross⟩

end FlowBlocks
