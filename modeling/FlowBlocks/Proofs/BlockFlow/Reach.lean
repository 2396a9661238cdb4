import Mathlib.Logic.Relation
import FlowBlocks.Proofs.BlockFlow.Edges
/-!
Reachability in bodies and in their blocks. A path of units projects to a path of blocks because control
crosses into a block at its head only; a path of blocks lifts to one of units because every unit of a block
is reached from its head. `Crossing` is all that is asked of the edges between blocks.
-/
namespace FlowBlocks

/-- Control may pass from one unit to another. -/
def FlowGraph.Edge (g : FlowGraph Nat) (u v : Nat) : Prop := v ∈ g.succs u

/-- Block `j` names block `i` as a predecessor. -/
def BlockFlow.Enters (f : BlockFlow Nat) (i j : Nat) : Prop := ∃ c ∈ f.blocks, c.index = j ∧ i ∈ c.preds

/-- Block `i` names block `j` as a successor. -/
def BlockFlow.Leaves (f : BlockFlow Nat) (i j : Nat) : Prop := ∃ b ∈ f.blocks, b.index = i ∧ j ∈ b.succs

/-- Edges between blocks that lead from one block to another where some unit of the one leads to the head
of the other. Edges of a block to itself are free. -/
structure Crossing (g : FlowGraph Nat) (blocks : List (Block Nat)) (E : Nat → Nat → Prop) : Prop where
  source : ∀ i j, E i j → ∃ b ∈ blocks, b.index = i
  crosses : ∀ b ∈ blocks, ∀ c ∈ blocks, b.index ≠ c.index →
    (E b.index c.index ↔ ∃ u ∈ b.units, c.head ∈ g.succs u)

section Regular

variable {g : FlowGraph Nat} {n : Nat} {handlers leaders : List Nat} {blocks : List (Block Nat)}
  {b c : Block Nat} {t u v : Nat} {E : Nat → Nat → Prop}

/-- An edge into a block from outside leads to its head. -/
theorem SingleEntry.head_of_crossing (hg : g.Regular n handlers) (hs : SingleEntry g n handlers leaders)
    (ht : Tiling leaders.contains (List.range n) blocks) (hb : b ∈ blocks) (hc : c ∈ blocks)
    (hne : b.index ≠ c.index) (hu : u ∈ b.units) (hv : v ∈ c.units) (huv : v ∈ g.succs u) :
    v = c.head := by
  by_contra hin
  have hl : leaders.contains v = false := ht.not_leader hc hv hin
  have hnext : v = u + 1 := hs.inner_edge hg huv fun hm => by
    rw [List.contains_iff_mem.mpr hm] at hl
    cases hl
  subst hnext
  have hmem := (ht.succ_mem hb hu (hg.succs_lt u _ huv).2).mpr hl
  exact hne (congrArg Block.index (ht.unique List.nodup_range hb hc hmem hv))

/-- A path of units projects to a path of blocks. -/
theorem reach_block (hg : g.Regular n handlers) (hs : SingleEntry g n handlers leaders)
    (ht : Tiling leaders.contains (List.range n) blocks) (hE : Crossing g blocks E) (hn : 0 < n)
    (h : Relation.ReflTransGen g.Edge 0 t) :
    ∀ c ∈ blocks, t ∈ c.units → Relation.ReflTransGen E 0 c.index := by
  induction h with
  | refl =>
      intro c hc hmem
      have hhead : c.head = 0 := by
        have := (ht.mem_block hc).mp hmem
        have := ht.head_eq_start hc
        omega
      rw [(ht.index_zero hn hc).mpr hhead]
  | @tail u v _ huv ih =>
      intro c hc hv
      have hun := (hg.succs_lt u v huv).1
      obtain ⟨b, hb, hu⟩ := ht.mem_units.mp (List.mem_range.mpr hun)
      have hreach := ih b hb hu
      by_cases hne : b.index = c.index
      · rw [← hne]
        exact hreach
      · have hhead := hs.head_of_crossing hg ht hb hc hne hu hv huv
        exact hreach.tail ((hE.crosses b hb c hc hne).mpr ⟨u, hu, hhead ▸ huv⟩)

/-- From its head control reaches every unit of a block. -/
theorem reach_unit_of_head (hg : g.Regular n handlers) (hs : SingleEntry g n handlers leaders)
    (ht : Tiling leaders.contains (List.range n) blocks) (hc : c ∈ blocks)
    (h : Relation.ReflTransGen g.Edge 0 c.head) :
    ∀ t ∈ c.units, Relation.ReflTransGen g.Edge 0 t := by
  have hstart := ht.head_eq_start hc
  intro t
  induction t with
  | zero =>
      intro _
      exact .refl
  | succ t ih =>
      intro hmem
      by_cases hhead : t + 1 = c.head
      · rw [hhead]
        exact h
      · have hin := (ht.mem_block hc).mp hmem
        have hprev : t ∈ c.units := (ht.mem_block hc).mpr (by omega)
        have hnext := hs.next_mem_succs hg ht hc ((ht.mem_rest hc).mpr ⟨hmem, hhead⟩)
        exact (ih hprev).tail hnext

/-- A path of blocks lifts to paths to all units of its last block. -/
theorem reach_unit (hg : g.Regular n handlers) (hs : SingleEntry g n handlers leaders)
    (ht : Tiling leaders.contains (List.range n) blocks) (hE : Crossing g blocks E) (hn : 0 < n) {j : Nat}
    (h : Relation.ReflTransGen E 0 j) :
    ∀ c ∈ blocks, c.index = j → ∀ t ∈ c.units, Relation.ReflTransGen g.Edge 0 t := by
  induction h with
  | refl =>
      intro c hc hindex
      refine reach_unit_of_head hg hs ht hc ?_
      rw [(ht.index_zero hn hc).mp hindex]
  | @tail i j _ hij ih =>
      intro c hc hindex
      obtain ⟨b, hb, hbi⟩ := hE.source i j hij
      by_cases hne : b.index = c.index
      · exact ih c hc (hne.symm.trans hbi)
      · rw [← hbi, ← hindex] at hij
        obtain ⟨u, hu, hhead⟩ := (hE.crosses b hb c hc hne).mp hij
        exact reach_unit_of_head hg hs ht hc ((ih b hb hbi u hu).tail hhead)

/-- Units and their blocks are reached together. -/
theorem reach_iff (hg : g.Regular n handlers) (hs : SingleEntry g n handlers leaders)
    (ht : Tiling leaders.contains (List.range n) blocks) (hE : Crossing g blocks E) (hc : c ∈ blocks)
    (hmem : t ∈ c.units) :
    Relation.ReflTransGen g.Edge 0 t ↔ Relation.ReflTransGen E 0 c.index := by
  have hlt := ht.lt_of_mem hc hmem
  have hn : 0 < n := by omega
  exact ⟨fun h => reach_block hg hs ht hE hn h c hc hmem,
    fun h => reach_unit hg hs ht hE hn h c hc rfl t hmem⟩

theorem mem_blockPreds (hg : g.Regular n handlers)
    (ht : Tiling leaders.contains (List.range n) blocks) (hb : b ∈ blocks) :
    b.index ∈ blockPreds g blocks c ↔ ∃ u ∈ b.units, c.head ∈ g.succs u := by
  rw [← List.count_pos_iff, count_blockPreds hg ht hb, List.countP_pos_iff]
  simp only [List.contains_iff_mem]

theorem assemble_enters {i j : Nat} :
    (assemble g blocks).Enters i j ↔ ∃ c ∈ blocks, c.index = j ∧ i ∈ blockPreds g blocks c := by
  simp [BlockFlow.Enters, assemble]

theorem assemble_leaves {i j : Nat} :
    (assemble g blocks).Leaves i j ↔ ∃ b ∈ blocks, b.index = i ∧ j ∈ blockSuccs g blocks b := by
  simp [BlockFlow.Leaves, assemble]

theorem enters_crossing (hg : g.Regular n handlers)
    (ht : Tiling leaders.contains (List.range n) blocks) :
    Crossing g blocks (assemble g blocks).Enters where
  source := by
    intro i j h
    obtain ⟨c, -, -, hi⟩ := assemble_enters.mp h
    obtain ⟨u, hu, rfl⟩ := List.mem_map.mp hi
    obtain ⟨b, hb, hub⟩ := ht.mem_units.mp (List.mem_range.mpr (hg.succs_lt u _ (hg.mem_preds.mp hu)).1)
    exact ⟨b, hb, ((blockOf_eq_iff hg ht hb (hg.succs_lt u _ (hg.mem_preds.mp hu)).1).mpr hub).symm⟩
  crosses := by
    intro b hb c hc _
    rw [assemble_enters, ← mem_blockPreds hg ht hb]
    constructor
    · rintro ⟨d, hd, hdc, hmem⟩
      rw [← ht.ext_index hd hc hdc]
      exact hmem
    · intro hmem
      exact ⟨c, hc, rfl, hmem⟩

end Regular

/-- In the brief graph the edges seen from the source cross as those seen from the target do. -/
theorem leaves_crossing {body : Body} (hsound : body.Sound) {leaders : List Nat}
    {blocks : List (Block Nat)}
    (hs : SingleEntry (body.flowGraph .brief) body.size body.handlers leaders)
    (ht : Tiling leaders.contains (List.range body.size) blocks) :
    Crossing (body.flowGraph .brief) blocks (assemble (body.flowGraph .brief) blocks).Leaves where
  source := by
    intro i j h
    obtain ⟨b, hb, hi, -⟩ := assemble_leaves.mp h
    exact ⟨b, hb, hi⟩
  crosses := by
    intro b hb c hc hne
    rw [assemble_leaves, ← mem_blockPreds (Body.flowGraph_regular hsound _) ht hb, ← List.count_pos_iff,
      count_preds_brief hsound hs ht hb hc hne, List.count_pos_iff]
    constructor
    · rintro ⟨d, hd, hdb, hmem⟩
      rw [← ht.ext_index hd hb hdb]
      exact hmem
    · intro hmem
      exact ⟨b, hb, rfl, hmem⟩

/-- A unit of a body that was read is reachable from the first exactly if its block is reachable from the
first block along predecessor edges, and in the brief graph also along successor edges. -/
theorem reachability_preserved {file src : Bytes} {bodies : List Body}
    (hparse : Listing.parse file src = .ok bodies) {body : Body} (hbody : body ∈ bodies)
    (hsize : body.size ≠ 0) (k : GraphKind) (p : Policy) :
    ∃ f, build p.rule (body.flowGraph k) body.handlers = .ok f ∧ ∀ t < body.size,
      ∃ b, f.owner? t = some b ∧
        (Relation.ReflTransGen (body.flowGraph k).Edge 0 t ↔ Relation.ReflTransGen f.Enters 0 b.index) ∧
        (k = .brief → (Relation.ReflTransGen (body.flowGraph k).Edge 0 t ↔
          Relation.ReflTransGen f.Leaves 0 b.index)) := by
  have hsound := Listing.parse_sound hparse body hbody
  have hg := Body.flowGraph_regular hsound k
  have hs := p.singleEntry hg
  obtain ⟨blocks, ht, hbuild⟩ := build_of_regular hg hs (Nat.pos_of_ne_zero hsize)
  refine ⟨_, hbuild, fun t hlt => ?_⟩
  obtain ⟨b, hb, hmem⟩ := ht.mem_units.mp (List.mem_range.mpr hlt)
  refine ⟨wired (body.flowGraph k) blocks b, ?_, ?_, ?_⟩
  · exact ((wired_tiling ht _).ownerIn?_eq_some_iff List.nodup_range).mpr
      ⟨List.mem_map.mpr ⟨b, hb, rfl⟩, hmem⟩
  · rw [wired_index]
    exact reach_iff hg hs ht (enters_crossing hg ht) hb hmem
  · rintro rfl
    rw [wired_index]
    exact reach_iff hg hs ht (leaves_crossing hsound hs ht) hb hmem

/-- A handler that is reached in the exceptional graph only, behind an exit. -/
theorem reachability_preserved_handler :
    ∃ body, Listing.parse (bytes "m.bbl")
        (bytes "a: x = 1\nswitch x b default c\nb: y = 2\nc: goto c\nh: return\n.trap a c h\n") = .ok [body] ∧
      body.size = 5 ∧
      ∃ f, build Policy.bigBlock.rule (body.flowGraph .exceptional) body.handlers = .ok f ∧
        ∃ b, f.owner? 4 = some b ∧ (Relation.ReflTransGen (body.flowGraph .exceptional).Edge 0 4 ↔
          Relation.ReflTransGen f.Enters 0 b.index) := by
  obtain ⟨body, hparse, hsize⟩ : ∃ body, Listing.parse (bytes "m.bbl")
      (bytes "a: x = 1\nswitch x b default c\nb: y = 2\nc: goto c\nh: return\n.trap a c h\n") = .ok [body] ∧
      body.size = 5 :=
    eq_ok_singleton (by decide +kernel)
  obtain ⟨f, hbuild, hreach⟩ :=
    reachability_preserved hparse List.mem_cons_self (by omega) .exceptional .bigBlock
  obtain ⟨b, ho, hiff, -⟩ := hreach 4 (by omega)
  exact ⟨body, hparse, hsize, f, hbuild, b, ho, hiff⟩

end FlowBlocks
