import FlowBlocks.Proofs.BlockFlow.Wiring
/-!
What a construction that succeeds yields, whatever the graph, its handlers and the rule. Wiring changes no
run and no place of a block: without their neighbours the blocks are those of the cut. `Formed` gathers
what the checks made on the way leave behind; nothing later opens `wire` again.
-/
namespace FlowBlocks

variable {U : Type}

/-- A block without its neighbours. -/
def Block.bare (b : Block U) : Block U := { b with preds := [], succs := [] }

theorem placed_map_bare {i s : Nat} {blocks : List (Block U)} :
    Placed i s (blocks.map Block.bare) ↔ Placed i s blocks := by
  induction blocks generalizing i s with
  | nil => exact Iff.rfl
  | cons b bs ih => exact and_congr Iff.rfl (and_congr Iff.rfl ih)

theorem tiling_map_bare {isLeader : U → Bool} {units : List U} {blocks : List (Block U)} :
    Tiling isLeader units (blocks.map Block.bare) ↔ Tiling isLeader units blocks := by
  constructor
  · rintro ⟨covers, placed, opens, within⟩
    rw [List.flatMap_map] at covers
    simp only [List.forall_mem_map] at opens within
    exact ⟨covers, placed_map_bare.mp placed, opens, within⟩
  · intro h
    exact h.map (fun _ => rfl) (fun _ => rfl) (fun _ => rfl)

theorem placeRuns_bare (i s : Nat) (rs : List (Run U)) :
    (placeRuns i s rs).map Block.bare = placeRuns i s rs := by
  induction rs generalizing i s with
  | nil => rfl
  | cons r rs ih =>
      rw [placeRuns, List.map_cons, ih]
      rfl

section Wire

variable [DecidableEq U] {g : FlowGraph U} {blocks : List (Block U)} {b c : Block U} {f : BlockFlow U}
  {is tails : List Nat} {u : U}

theorem mem_of_ownerIn? (h : ownerIn? blocks u = some b) : b ∈ blocks :=
  List.mem_reverse.mp (List.mem_of_find?_eq_some h)

/-- The loop over entries, and the one over exits, collects indices of blocks. -/
theorem owners_owned (test : U → Block U → Prop) [∀ u b, Decidable (test u b)] {us : List U}
    {outside : U → BuildError U} {inside : U → Block U → BuildError U}
    (h : (us.foldlM (fun seen u =>
      match ownerIn? blocks u with
      | none => .error (outside u)
      | some b => if test u b then .ok (addIndex seen b.index) else .error (inside u b)) [] :
        Except (BuildError U) (List Nat)) = .ok is) :
    ∀ i ∈ is, ∃ b ∈ blocks, b.index = i := by
  refine foldlM_invariant (P := fun seen => ∀ i ∈ seen, ∃ b ∈ blocks, b.index = i) ?_ (by simp) h
  intro u _ seen seen' hseen hstep
  split at hstep
  · cases hstep
  · next b ho =>
      split at hstep
      · cases hstep
        intro i hi
        rcases mem_addIndex.mp hi with hi | rfl
        · exact hseen i hi
        · exact ⟨b, mem_of_ownerIn? ho, rfl⟩
      · cases hstep

theorem headBlocks_owned (h : headBlocks g blocks = .ok is) : ∀ i ∈ is, ∃ b ∈ blocks, b.index = i :=
  owners_owned (fun u b => b.head = u) h

theorem tailBlocks_owned (h : tailBlocks g blocks = .ok is) : ∀ i ∈ is, ∃ b ∈ blocks, b.index = i :=
  owners_owned (fun u b => b.tail = u) h

theorem wirePreds_owned (h : wirePreds g blocks b = .ok is) : ∀ i ∈ is, ∃ c ∈ blocks, c.index = i := by
  intro i hi
  obtain ⟨u, -, hu⟩ := mem_of_mapM h i hi
  split at hu
  · next c ho =>
      cases hu
      exact ⟨c, mem_of_ownerIn? ho, rfl⟩
  · cases hu

theorem wireJumps_owned (h : wireJumps g blocks b = .ok is) : ∀ i ∈ is, ∃ c ∈ blocks, c.index = i := by
  intro i hi
  obtain ⟨⟨t, u⟩, -, hu⟩ := mem_of_mapM h i hi
  dsimp only at hu
  split at hu
  · next c ho =>
      cases hu
      exact ⟨c, mem_of_ownerIn? ho, rfl⟩
  · cases hu

theorem wireFall_owned (h : wireFall g blocks b = .ok is) : ∀ i ∈ is, ∃ c ∈ blocks, c.index = i := by
  unfold wireFall at h
  split at h
  · split at h
    · cases h
    · split at h
      · next c ho =>
          cases h
          intro i hi
          rw [List.mem_singleton.mp hi]
          exact ⟨c, mem_of_ownerIn? ho, rfl⟩
      · cases h
  · cases h
    simp

/-- One block wired: its run and place stay, its neighbours are blocks of the cut, and it is an exit if it
has no successor. -/
theorem wireBlock_inv (h : wireBlock g blocks tails b = .ok c) :
    c.bare = b.bare ∧ (∀ i ∈ c.preds ++ c.succs, ∃ d ∈ blocks, d.index = i) ∧
      (c.succs = [] → c.index ∈ tails) := by
  obtain ⟨preds, hpreds, h⟩ := bind_eq_ok.mp h
  obtain ⟨jumps, hjumps, h⟩ := bind_eq_ok.mp h
  obtain ⟨fall, hfall, h⟩ := bind_eq_ok.mp h
  dsimp only at h
  split at h
  · cases h
  · next hexit =>
      cases h
      refine ⟨rfl, ?_, ?_⟩
      · intro i hi
        simp only [List.mem_append] at hi
        rcases hi with hi | hi | hi
        · exact wirePreds_owned hpreds i hi
        · exact wireFall_owned hfall i hi
        · exact wireJumps_owned hjumps i hi
      · intro (hnil : fall ++ jumps = [])
        rw [hnil] at hexit
        simpa using hexit

/-- The stages of a wiring that succeeds. -/
theorem wire_inv (h : wire g blocks = .ok f) :
    ∃ heads, headBlocks g blocks = .ok heads ∧ tailBlocks g blocks = .ok f.tails ∧
      blocks.mapM (wireBlock g blocks f.tails) = .ok f.blocks ∧
      f.heads = ((f.blocks.filter fun b => !b.preds.isEmpty &&
          some b.head = blocks.head?.map fun b => b.head).map (·.index)).foldl addIndex
        (((blocks.head?.map fun b => b.head).bind (ownerIn? blocks)).elim heads
          fun b => addIndex heads b.index) ∧
      f.orphans =
        (f.blocks.filter fun b => b.preds.isEmpty && !f.heads.contains b.index).map (·.index) := by
  obtain ⟨heads, hheads, h⟩ := bind_eq_ok.mp h
  obtain ⟨tails, htails, h⟩ := bind_eq_ok.mp h
  obtain ⟨wired, hwired, h⟩ := bind_eq_ok.mp h
  cases h
  exact ⟨heads, hheads, htails, hwired, rfl, rfl⟩

theorem wire_bare (h : wire g blocks = .ok f) : f.blocks.map Block.bare = blocks.map Block.bare := by
  obtain ⟨-, -, -, hwired, -⟩ := wire_inv h
  exact map_of_mapM (fun _ _ hb => (wireBlock_inv hb).1) hwired

theorem wire_index (h : wire g blocks = .ok f) {i : Nat} :
    (∃ b ∈ f.blocks, b.index = i) ↔ ∃ b ∈ blocks, b.index = i := by
  have hsame : f.blocks.map Block.index = blocks.map Block.index := by
    have hbare := congrArg (List.map Block.index) (wire_bare h)
    rwa [List.map_map, List.map_map] at hbare
  rw [← List.mem_map, hsame, List.mem_map]

/-- Entries of the graph, the first block, and whatever opens with the first unit: all are blocks. -/
theorem wire_heads_owned (h : wire g blocks = .ok f) : ∀ i ∈ f.heads, ∃ b ∈ blocks, b.index = i := by
  obtain ⟨heads, hheads, -, -, hfheads, -⟩ := wire_inv h
  have hfirst : ∀ i ∈ ((blocks.head?.map fun b => b.head).bind (ownerIn? blocks)).elim heads
      (fun b => addIndex heads b.index), ∃ b ∈ blocks, b.index = i := by
    cases ho : (blocks.head?.map fun b => b.head).bind (ownerIn? blocks) with
    | none => exact headBlocks_owned hheads
    | some b =>
        intro i hi
        rcases mem_addIndex.mp hi with hi | rfl
        · exact headBlocks_owned hheads i hi
        · obtain ⟨u, -, hu⟩ := Option.bind_eq_some_iff.mp ho
          exact ⟨b, mem_of_ownerIn? hu, rfl⟩
  intro i hi
  rw [hfheads, mem_foldl_addIndex] at hi
  rcases hi with hi | hi
  · exact hfirst i hi
  · obtain ⟨b, hb, rfl⟩ := List.mem_map.mp hi
    exact (wire_index h).mp ⟨b, (List.mem_filter.mp hb).1, rfl⟩

end Wire

/-- What every flow that was built has: its blocks are the cut of the units at the leaders, whatever an
index names is a block, a block that leads nowhere is an exit, and the orphans are the blocks without
predecessors that are no entries. -/
structure BlockFlow.Formed (f : BlockFlow U) (isLeader : U → Bool) (units : List U) : Prop where
  tiling : Tiling isLeader units f.blocks
  edges : ∀ b ∈ f.blocks, ∀ i ∈ b.preds ++ b.succs, i < f.size
  exits : ∀ b ∈ f.blocks, b.succs = [] → b.index ∈ f.tails
  heads : ∀ i ∈ f.heads, i < f.size
  tails : ∀ i ∈ f.tails, i < f.size
  orphans : ∀ i, i ∈ f.orphans ↔ ∃ b ∈ f.blocks, b.index = i ∧ b.preds = [] ∧ i ∉ f.heads

namespace BlockFlow.Formed

variable {f : BlockFlow U} {isLeader : U → Bool} {units : List U} {b : Block U}

theorem preds_lt (hf : f.Formed isLeader units) (hb : b ∈ f.blocks) : ∀ i ∈ b.preds, i < f.size :=
  fun i hi => hf.edges b hb i (List.mem_append_left _ hi)

theorem succs_lt (hf : f.Formed isLeader units) (hb : b ∈ f.blocks) : ∀ i ∈ b.succs, i < f.size :=
  fun i hi => hf.edges b hb i (List.mem_append_right _ hi)

theorem mem_orphans (hf : f.Formed isLeader units) (hb : b ∈ f.blocks) :
    b.index ∈ f.orphans ↔ b.preds = [] ∧ b.index ∉ f.heads := by
  rw [hf.orphans]
  constructor
  · rintro ⟨c, hc, hindex, hpreds, hheads⟩
    rw [hf.tiling.ext_index hc hb hindex] at hpreds
    exact ⟨hpreds, hheads⟩
  · intro h
    exact ⟨b, hb, rfl, h⟩

theorem orphans_lt (hf : f.Formed isLeader units) : ∀ i ∈ f.orphans, i < f.size := by
  intro i hi
  obtain ⟨b, hb, rfl, -⟩ := (hf.orphans i).mp hi
  exact hf.tiling.index_lt hb

theorem exists_block (hf : f.Formed isLeader units) {i : Nat} (hi : i < f.size) :
    ∃ d ∈ f.blocks, d.index = i := hf.tiling.exists_block hi

end BlockFlow.Formed

section Build

variable [DecidableEq U] {rule : LeaderRule U} {g : FlowGraph U} {handlers : List U} {f : BlockFlow U}

theorem build_inv (h : build rule g handlers = .ok f) :
    ∃ u us, g.units = u :: us ∧ u ∈ rule g handlers ∧
      wire g (placeRuns 0 0 (cutAt (rule g handlers).contains g.units)) = .ok f := by
  obtain ⟨blocks, hpart, hwire⟩ := bind_eq_ok.mp h
  unfold partition at hpart
  split at hpart
  · cases hpart
  · next u us heq =>
      split at hpart
      · next hu =>
          cases hpart
          exact ⟨u, us, heq, List.contains_iff_mem.mp hu, hwire⟩
      · cases hpart

theorem build_units_ne_nil (h : build rule g handlers = .ok f) : g.units ≠ [] := by
  obtain ⟨u, us, hunits, -⟩ := build_inv h
  rw [hunits]
  exact List.cons_ne_nil u us

/-- Apart from their neighbours the blocks are the cut at the leaders. -/
theorem build_bare (h : build rule g handlers = .ok f) :
    f.blocks.map Block.bare = placeRuns 0 0 (cutAt (rule g handlers).contains g.units) := by
  obtain ⟨-, -, -, -, hwire⟩ := build_inv h
  rw [wire_bare hwire, placeRuns_bare]

theorem build_tiling (h : build rule g handlers = .ok f) :
    Tiling (rule g handlers).contains g.units f.blocks := by
  obtain ⟨u, us, hunits, hu, -⟩ := build_inv h
  rw [← tiling_map_bare, build_bare h, hunits]
  exact tiling_of_leader (List.contains_iff_mem.mpr hu)

theorem build_formed (h : build rule g handlers = .ok f) :
    f.Formed (rule g handlers).contains g.units := by
  have htiles := build_tiling h
  obtain ⟨-, -, -, -, hwire⟩ := build_inv h
  obtain ⟨-, -, htails, hwired, -, horphans⟩ := wire_inv hwire
  have howned : ∀ i, (∃ b ∈ placeRuns 0 0 (cutAt (rule g handlers).contains g.units), b.index = i) →
      i < f.size := by
    intro i hi
    obtain ⟨b, hb, rfl⟩ := (wire_index hwire).mpr hi
    exact htiles.index_lt hb
  refine ⟨htiles, ?_, ?_, ?_, ?_, ?_⟩
  · intro b hb i hi
    obtain ⟨c, -, hc⟩ := mem_of_mapM hwired b hb
    exact howned i ((wireBlock_inv hc).2.1 i hi)
  · intro b hb
    obtain ⟨c, -, hc⟩ := mem_of_mapM hwired b hb
    exact (wireBlock_inv hc).2.2
  · intro i hi
    exact howned i (wire_heads_owned hwire i hi)
  · intro i hi
    exact howned i (tailBlocks_owned htails i hi)
  · intro i
    rw [horphans, List.mem_map]
    constructor
    · rintro ⟨b, hb, rfl⟩
      obtain ⟨hmem, hcond⟩ := List.mem_filter.mp hb
      exact ⟨b, hmem, rfl, by simpa using hcond⟩
    · rintro ⟨b, hb, rfl, hcond⟩
      exact ⟨b, List.mem_filter.mpr ⟨hb, by simpa using hcond⟩, rfl⟩

/-- With distinct units the first block is an entry, whatever the entries of the graph are. -/
theorem build_first (h : build rule g handlers = .ok f) (hnd : g.units.Nodup) : 0 ∈ f.heads := by
  obtain ⟨u, us, hunits, hu, hwire⟩ := build_inv h
  obtain ⟨heads, -, -, -, hfheads, -⟩ := wire_inv hwire
  have htiles : Tiling (rule g handlers).contains (u :: us) _ :=
    tiling_of_leader (List.contains_iff_mem.mpr hu)
  rw [← hunits] at htiles
  generalize placeRuns 0 0 (cutAt (rule g handlers).contains g.units) = blocks at htiles hfheads
  cases blocks with
  | nil => exact absurd rfl (htiles.ne_nil (by simp [hunits]))
  | cons b bs =>
      have howner : ownerIn? (b :: bs) b.head = some b :=
        (htiles.ownerIn?_eq_some_iff hnd).mpr ⟨List.mem_cons_self, b.head_mem⟩
      have hindex : b.index = 0 := htiles.placed.1
      rw [hfheads, mem_foldl_addIndex]
      left
      change 0 ∈ ((ownerIn? (b :: bs) b.head).elim heads fun b => addIndex heads b.index)
      rw [howner, Option.elim_some, mem_addIndex, hindex]
      exact Or.inr rfl

end Build

end FlowBlocks
