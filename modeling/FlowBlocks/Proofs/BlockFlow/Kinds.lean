import Mathlib.Data.List.Flatten
import FlowBlocks.Proofs.BlockFlow.Built
import FlowBlocks.Proofs.BlockFlow.Construct
import FlowBlocks.Proofs.FlowGraph.Extension
/-!
One body, two graphs. Edges to handlers lead to units that open a block in any case, so with big blocks they
move no cut: the exceptional graph has the blocks of the brief one, with more successors, and more predecessors
in front of handlers only. Under the classic rule they only add cuts.
-/
namespace FlowBlocks

section Leaders

variable {g g' : FlowGraph Nat} {n : Nat} {handlers : List Nat} {u v : Nat}

theorem FlowGraph.Widens.mem_bigBlock (hw : g'.Widens g handlers) (hg : g.Regular n handlers)
    (hg' : g'.Regular n handlers) :
    u ∈ Leaders.bigBlock g' handlers ↔ u ∈ Leaders.bigBlock g handlers := by
  rw [Leaders.mem_bigBlock hg', Leaders.mem_bigBlock hg, hw.tails]
  by_cases hu : u ∈ handlers
  · simp [hu]
  · rw [hw.preds_eq u hu]

theorem FlowGraph.Widens.mem_succs (hw : g'.Widens g handlers) (h : v ∈ g.succs u) : v ∈ g'.succs u := by
  obtain ⟨added, hadded⟩ := hw.succs u
  rw [hadded]
  exact List.mem_append_left _ h

/-- Whatever a unit marks in the narrower graph is a handler or marked in the wider one. -/
theorem FlowGraph.Widens.mem_marks (hw : g'.Widens g handlers) {next : Option Nat}
    (h : v ∈ Leaders.marks g u next) : v ∈ handlers ∨ v ∈ Leaders.marks g' u next := by
  rw [Leaders.mem_marks] at h
  rw [Leaders.mem_marks, hw.branches, hw.falls]
  rcases h with ⟨rfl, hlen⟩ | ⟨hsucc, hmany⟩ | hnext
  · by_cases hv : v ∈ handlers
    · exact Or.inl hv
    · rw [hw.preds_eq v hv]
      exact Or.inr (Or.inl ⟨rfl, hlen⟩)
  · refine Or.inr (Or.inr (Or.inl ⟨hw.mem_succs hsucc, hmany.imp_right fun hlen => ?_⟩))
    obtain ⟨added, hadded⟩ := hw.succs u
    rw [hadded, List.length_append]
    omega
  · exact Or.inr (Or.inr (Or.inr hnext))

theorem FlowGraph.Widens.classic_sub (hw : g'.Widens g handlers) (hg : g.Regular n handlers)
    (hg' : g'.Regular n handlers) (h : v ∈ Leaders.classic g handlers) :
    v ∈ Leaders.classic g' handlers := by
  rw [Leaders.mem_classic hg] at h
  rw [Leaders.mem_classic hg']
  rcases h with h | h | ⟨u, hu, hmark⟩
  · exact Or.inl h
  · exact Or.inr (Or.inl h)
  · rcases hw.mem_marks hmark with hv | hmark
    · exact Or.inr (Or.inl hv)
    · exact Or.inr (Or.inr ⟨u, hu, hmark⟩)

end Leaders

section Cuts

theorem partition_congr {U : Type} [DecidableEq U] {leaders leaders' : List U}
    (h : ∀ u, u ∈ leaders' ↔ u ∈ leaders) (units : List U) :
    partition leaders' units = partition leaders units := by
  have hcontains : leaders'.contains = leaders.contains := by
    funext u
    rw [Bool.eq_iff_iff, List.contains_iff_mem, List.contains_iff_mem]
    exact h u
  cases units with
  | nil => rfl
  | cons u us => rw [partition, partition, hcontains]

variable {isLeader isLeader' : Nat → Bool} {n : Nat} {blocks blocks' : List (Block Nat)}

/-- With more leaders every block lies in a block of the cut with fewer. -/
theorem Tiling.exists_within (ht : Tiling isLeader (List.range n) blocks)
    (ht' : Tiling isLeader' (List.range n) blocks')
    (hsub : ∀ u, isLeader u = true → isLeader' u = true) {c : Block Nat} (hc : c ∈ blocks') :
    ∃ b ∈ blocks, ∀ u ∈ c.units, u ∈ b.units := by
  obtain ⟨b, hb, hhead⟩ := ht.mem_units.mp (ht'.mem_units.mpr ⟨c, hc, c.head_mem⟩)
  refine ⟨b, hb, fun u hu => ?_⟩
  have hstart := ht'.head_eq_start hc
  have hu' := (ht'.mem_block hc).mp hu
  have hhead' := (ht.mem_block hb).mp hhead
  by_contra hout
  -- the first position past `b` is a leader inside `c`, and not its first unit
  have hpast : b.start + b.size ≤ u := by
    by_contra hlt
    exact hout ((ht.mem_block hb).mpr (by omega))
  have htail := ht.tail_succ hb
  have hstop := ht'.stop_le hc
  have hleader : isLeader (b.tail + 1) = true := by
    by_contra hl
    have hmem := (ht.succ_mem hb b.tail_mem (by omega)).mpr (by simpa using hl)
    have := (ht.mem_block hb).mp hmem
    omega
  have hinside : b.tail + 1 ∈ c.units := (ht'.mem_block hc).mpr (by omega)
  have := ht'.head_of_leader hc hinside (hsub _ hleader)
  omega

end Cuts

section Edges

variable {g g' : FlowGraph Nat} {n : Nat} {handlers : List Nat} {b : Block Nat}

theorem FlowGraph.Widens.succs_sublist (hw : g'.Widens g handlers) (u : Nat) :
    (g.succs u).Sublist (g'.succs u) := by
  obtain ⟨added, hadded⟩ := hw.succs u
  rw [hadded]
  exact List.sublist_append_left _ _

theorem FlowGraph.Widens.jumpTargets_sublist (hw : g'.Widens g handlers) (u : Nat) :
    (jumpTargets g u).Sublist (jumpTargets g' u) := by
  rw [jumpTargets, jumpTargets, hw.falls]
  split
  · exact (hw.succs_sublist u).drop 1
  · exact hw.succs_sublist u

/-- A block falls to where it falls in the narrower graph: the added successors stand behind. -/
theorem FlowGraph.Widens.blockFall_eq (hw : g'.Widens g handlers) (hg : g.Regular n handlers)
    (blocks : List (Block Nat)) (htail : b.tail < n) : blockFall g' blocks b = blockFall g blocks b := by
  rw [blockFall, blockFall, hw.falls]
  split
  · next hf =>
      obtain ⟨added, hadded⟩ := hw.succs b.tail
      obtain ⟨-, rest, hsucc⟩ := hg.falls b.tail htail hf
      rw [hadded, hsucc]
      rfl
  · rfl

theorem FlowGraph.Widens.blockSuccs_sublist (hw : g'.Widens g handlers) (hg : g.Regular n handlers)
    (blocks : List (Block Nat)) (htail : b.tail < n) :
    (blockSuccs g blocks b).Sublist (blockSuccs g' blocks b) := by
  rw [blockSuccs, blockSuccs, hw.blockFall_eq hg blocks htail]
  apply List.Sublist.append_left
  rw [blockJumps, blockJumps, hw.branches]
  apply List.Sublist.flatMap_right
  intro u _
  exact (hw.jumpTargets_sublist u).map _

end Edges

/-- The two graphs of a body that was read. With big blocks they have the same leaders, the same blocks at the
same places and the same exit blocks; only blocks that open with a handler may differ in their predecessors,
and the successors of a block in the brief graph stand in the same order among those in the exceptional one.
Under the classic rule every block of the exceptional graph lies within one block of the brief graph. -/
theorem graph_kinds_compared {file src : Bytes} {bodies : List Body}
    (hparse : Listing.parse file src = .ok bodies) {body : Body} (hbody : body ∈ bodies)
    (hsize : body.size ≠ 0) :
    (∃ f f', build Policy.bigBlock.rule (body.flowGraph .brief) body.handlers = .ok f ∧
      build Policy.bigBlock.rule (body.flowGraph .exceptional) body.handlers = .ok f' ∧
      (∀ u, u ∈ Policy.bigBlock.rule (body.flowGraph .exceptional) body.handlers ↔
        u ∈ Policy.bigBlock.rule (body.flowGraph .brief) body.handlers) ∧
      f'.blocks.map Block.bare = f.blocks.map Block.bare ∧ f'.tails = f.tails ∧
      ∀ b ∈ f.blocks, ∀ b' ∈ f'.blocks, b'.index = b.index →
        (b.head ∉ body.handlers → b'.preds = b.preds) ∧ b.succs.Sublist b'.succs) ∧
    ∃ f f', build Policy.classic.rule (body.flowGraph .brief) body.handlers = .ok f ∧
      build Policy.classic.rule (body.flowGraph .exceptional) body.handlers = .ok f' ∧
      ∀ b' ∈ f'.blocks, ∃ b ∈ f.blocks, ∀ u ∈ b'.units, u ∈ b.units := by
  have hsound := Listing.parse_sound hparse body hbody
  have hg := Body.flowGraph_regular hsound .brief
  have hg' := Body.flowGraph_regular hsound .exceptional
  have hw := body.exceptional_widens
  have hn := Nat.pos_of_ne_zero hsize
  constructor
  · have hleaders : ∀ u, u ∈ Policy.bigBlock.rule (body.flowGraph .exceptional) body.handlers ↔
        u ∈ Policy.bigBlock.rule (body.flowGraph .brief) body.handlers := fun u => hw.mem_bigBlock hg hg'
    have hs := Policy.bigBlock.singleEntry hg
    have hs' := Policy.bigBlock.singleEntry hg'
    obtain ⟨blocks, hpart, ht⟩ := hs.partition_tiles hn
    obtain ⟨blocks', hpart', ht'⟩ := hs'.partition_tiles hn
    rw [partition_congr hleaders, hpart] at hpart'
    cases hpart'
    refine ⟨_, _, build_of_partition hg hs hn hpart ht,
      build_of_partition hg' hs' hn ((partition_congr hleaders _).trans hpart) ht', hleaders, ?_, ?_, ?_⟩
    · rw [assemble, assemble, List.map_map, List.map_map]
      rfl
    · rfl
    · intro b hb b' hb' hindex
      obtain ⟨c, hc, rfl⟩ := List.mem_map.mp hb
      obtain ⟨c', hc', rfl⟩ := List.mem_map.mp hb'
      cases ht.ext_index hc' hc hindex
      have htail : c.tail < body.size := List.mem_range.mp (ht.mem_units.mpr ⟨c, hc, c.tail_mem⟩)
      refine ⟨fun hhead => ?_, hw.blockSuccs_sublist hg blocks htail⟩
      exact congrArg (List.map (blockOf blocks)) (hw.preds_eq c.head hhead)
  · have hs := Policy.classic.singleEntry hg
    have hs' := Policy.classic.singleEntry hg'
    obtain ⟨blocks, ht, hbuild⟩ := build_of_regular hg hs hn
    obtain ⟨blocks', ht', hbuild'⟩ := build_of_regular hg' hs' hn
    refine ⟨_, _, hbuild, hbuild', fun b' hb' => ?_⟩
    refine (wired_tiling ht _).exists_within (wired_tiling ht' _) (fun u hu => ?_) hb'
    rw [List.contains_iff_mem] at hu ⊢
    exact hw.classic_sub hg hg' hu

/-- A trap around a loop with a jump out of its middle; the handler stands behind the exit and leads back. -/
theorem trapped_loop_kinds :
    ∃ body, Listing.parse (bytes "m.bbl")
        (bytes "a: x = 1\nif p goto c\ny = 2\ngoto a\nc: return\nh: goto a\n.trap a c h\n") = .ok [body] ∧
      body.size = 6 ∧
      (∃ f f', build Policy.bigBlock.rule (body.flowGraph .brief) body.handlers = .ok f ∧
        build Policy.bigBlock.rule (body.flowGraph .exceptional) body.handlers = .ok f' ∧
        f.blocks.map (fun b => (b.units, b.preds, b.succs)) =
          [([0, 1, 2, 3], [0, 2], [1, 0]), ([4], [0], []), ([5], [], [0])] ∧
        f'.blocks.map (fun b => (b.preds, b.succs)) =
          [([0, 2], [1, 2, 0, 2]), ([0], []), ([0, 0, 0, 0], [0])] ∧
        f'.blocks.map Block.bare = f.blocks.map Block.bare ∧
        ∀ b ∈ f.blocks, ∀ b' ∈ f'.blocks, b'.index = b.index →
          (b.head ∉ body.handlers → b'.preds = b.preds) ∧ b.succs.Sublist b'.succs) ∧
      ∃ f f', build Policy.classic.rule (body.flowGraph .brief) body.handlers = .ok f ∧
        build Policy.classic.rule (body.flowGraph .exceptional) body.handlers = .ok f' ∧
        f.blocks.map (fun b => b.units) = [[0, 1], [2, 3], [4], [5]] ∧
        f'.blocks.map (fun b => b.units) = [[0], [1], [2], [3], [4], [5]] ∧
        ∀ b' ∈ f'.blocks, ∃ b ∈ f.blocks, ∀ u ∈ b'.units, u ∈ b.units := by
  obtain ⟨body, hparse, hsize, hbrief, hexceptional, hcut, hfine⟩ : ∃ body, Listing.parse (bytes "m.bbl")
      (bytes "a: x = 1\nif p goto c\ny = 2\ngoto a\nc: return\nh: goto a\n.trap a c h\n") = .ok [body] ∧
      body.size = 6 ∧
      (build Policy.bigBlock.rule (body.flowGraph .brief) body.handlers).map
        (·.blocks.map fun b => (b.units, b.preds, b.succs)) =
        .ok [([0, 1, 2, 3], [0, 2], [1, 0]), ([4], [0], []), ([5], [], [0])] ∧
      (build Policy.bigBlock.rule (body.flowGraph .exceptional) body.handlers).map
        (·.blocks.map fun b => (b.preds, b.succs)) =
        .ok [([0, 2], [1, 2, 0, 2]), ([0], []), ([0, 0, 0, 0], [0])] ∧
      (build Policy.classic.rule (body.flowGraph .brief) body.handlers).map (·.blocks.map fun b => b.units) =
        .ok [[0, 1], [2, 3], [4], [5]] ∧
      (build Policy.classic.rule (body.flowGraph .exceptional) body.handlers).map (·.blocks.map fun b => b.units) =
        .ok [[0], [1], [2], [3], [4], [5]] :=
    eq_ok_singleton (by decide +kernel)
  obtain ⟨⟨f, f', hf, hf', -, hbare, -, hedges⟩, g, g', hg, hg', hwithin⟩ :=
    graph_kinds_compared hparse List.mem_cons_self (by omega)
  rw [hf] at hbrief
  rw [hf'] at hexceptional
  rw [hg] at hcut
  rw [hg'] at hfine
  exact ⟨body, hparse, hsize,
    ⟨f, f', hf, hf', Except.ok.inj hbrief, Except.ok.inj hexceptional, hbare, hedges⟩,
    g, g', hg, hg', Except.ok.inj hcut, Except.ok.inj hfine, hwithin⟩

end FlowBlocks
