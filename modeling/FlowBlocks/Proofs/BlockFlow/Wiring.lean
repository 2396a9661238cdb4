import FlowBlocks.Proofs.BlockFlow.Partition
import FlowBlocks.Proofs.Collect
/-!
What wiring does where nothing is amiss. `Consistent` lists what a graph owes to a cut of its units, and
`assemble` is the block flow put together without any check; `wire` yields it for a consistent graph.
-/
namespace FlowBlocks

variable {U : Type} [DecidableEq U]

/-- The index of the block a unit lies in; 0 for a unit of no block. -/
def blockOf (blocks : List (Block U)) (u : U) : Nat :=
  ((ownerIn? blocks u).map fun b => b.index).getD 0

def blockPreds (g : FlowGraph U) (blocks : List (Block U)) (b : Block U) : List Nat :=
  (g.preds b.head).map (blockOf blocks)

def blockJumps (g : FlowGraph U) (blocks : List (Block U)) (b : Block U) : List Nat :=
  (b.units.filter g.branches).flatMap fun u => (jumpTargets g u).map (blockOf blocks)

def blockFall (g : FlowGraph U) (blocks : List (Block U)) (b : Block U) : List Nat :=
  if g.falls b.tail then ((g.succs b.tail).take 1).map (blockOf blocks) else []

def blockSuccs (g : FlowGraph U) (blocks : List (Block U)) (b : Block U) : List Nat :=
  blockFall g blocks b ++ blockJumps g blocks b

/-- A block with its neighbours. -/
def wired (g : FlowGraph U) (blocks : List (Block U)) (b : Block U) : Block U :=
  { b with preds := blockPreds g blocks b, succs := blockSuccs g blocks b }

@[simp] theorem wired_toRun (g : FlowGraph U) (blocks : List (Block U)) (b : Block U) :
    (wired g blocks b).toRun = b.toRun := rfl

@[simp] theorem wired_index (g : FlowGraph U) (blocks : List (Block U)) (b : Block U) :
    (wired g blocks b).index = b.index := rfl

@[simp] theorem wired_preds (g : FlowGraph U) (blocks : List (Block U)) (b : Block U) :
    (wired g blocks b).preds = blockPreds g blocks b := rfl

@[simp] theorem wired_succs (g : FlowGraph U) (blocks : List (Block U)) (b : Block U) :
    (wired g blocks b).succs = blockSuccs g blocks b := rfl

/-- The flow between blocks. The first block is an entry whatever the graph says. -/
def assemble (g : FlowGraph U) (blocks : List (Block U)) : BlockFlow U :=
  let heads := addIndex (distinct (g.heads.map (blockOf blocks))) 0
  ⟨blocks.map (wired g blocks), heads, distinct (g.tails.map (blockOf blocks)),
    ((blocks.map (wired g blocks)).filter fun b => b.preds.isEmpty && !heads.contains b.index).map
      (·.index)⟩

/-- Entries open blocks, exits close them, no edge leaves the body, a block that falls through has
somewhere to fall to, and one that leads nowhere ends in an exit. -/
structure Consistent (g : FlowGraph U) (blocks : List (Block U)) : Prop where
  heads : ∀ u ∈ g.heads, ∃ b ∈ blocks, b.head = u
  tails : ∀ u ∈ g.tails, ∃ b ∈ blocks, b.tail = u
  preds : ∀ b ∈ blocks, ∀ u ∈ g.preds b.head, u ∈ g.units
  jumps : ∀ b ∈ blocks, ∀ u ∈ b.units, g.branches u = true → ∀ t ∈ jumpTargets g u, t ∈ g.units
  falls : ∀ b ∈ blocks, g.falls b.tail = true → ∃ t ts, g.succs b.tail = t :: ts ∧ t ∈ g.units
  exits : ∀ b ∈ blocks, blockSuccs g blocks b = [] → b.tail ∈ g.tails

theorem mem_addIndex {seen : List Nat} {i j : Nat} : j ∈ addIndex seen i ↔ j ∈ seen ∨ j = i := by
  unfold addIndex
  split
  · next h =>
      constructor
      · exact Or.inl
      · rintro (hj | rfl)
        · exact hj
        · exact h
  · simp

theorem mem_foldl_addIndex {seen is : List Nat} {j : Nat} :
    j ∈ is.foldl addIndex seen ↔ j ∈ seen ∨ j ∈ is := by
  induction is generalizing seen with
  | nil => simp
  | cons i is ih => rw [List.foldl_cons, ih, mem_addIndex, List.mem_cons, or_assoc]

theorem foldl_addIndex_of_mem {seen is : List Nat} (h : ∀ i ∈ is, i ∈ seen) :
    is.foldl addIndex seen = seen := by
  induction is with
  | nil => rfl
  | cons i is ih =>
      rw [List.foldl_cons, addIndex, if_pos (h i List.mem_cons_self)]
      exact ih fun j hj => h j (List.mem_cons_of_mem i hj)

omit [DecidableEq U] in
theorem foldl_addIndex_map (f : U → Nat) (us : List U) (seen : List Nat) :
    us.foldl (fun seen u => addIndex seen (f u)) seen = (us.map f).foldl addIndex seen :=
  List.foldl_map.symm

section Wire

variable {isLeader : U → Bool} {g : FlowGraph U} {blocks : List (Block U)} {b : Block U} {u : U}

theorem blockOf_eq (ht : Tiling isLeader g.units blocks) (hnd : g.units.Nodup) (hb : b ∈ blocks)
    (hu : u ∈ b.units) : blockOf blocks u = b.index := by
  rw [blockOf, (ht.ownerIn?_eq_some_iff hnd).mpr ⟨hb, hu⟩]
  rfl

theorem owner_of_mem (ht : Tiling isLeader g.units blocks) (hnd : g.units.Nodup) (hu : u ∈ g.units) :
    ∃ b ∈ blocks, u ∈ b.units ∧ ownerIn? blocks u = some b ∧ blockOf blocks u = b.index := by
  obtain ⟨b, hb, hub, ho⟩ := ht.exists_owner hnd hu
  exact ⟨b, hb, hub, ho, blockOf_eq ht hnd hb hub⟩

theorem headBlocks_eq_ok (ht : Tiling isLeader g.units blocks) (hnd : g.units.Nodup)
    (h : ∀ u ∈ g.heads, ∃ b ∈ blocks, b.head = u) :
    headBlocks g blocks = .ok (distinct (g.heads.map (blockOf blocks))) := by
  refine (foldlM_eq_ok (g := fun seen u => addIndex seen (blockOf blocks u)) ?_).trans ?_
  · intro u hu seen
    obtain ⟨b, hb, rfl⟩ := h u hu
    rw [(ht.ownerIn?_eq_some_iff hnd).mpr ⟨hb, b.head_mem⟩, blockOf_eq ht hnd hb b.head_mem]
    exact if_pos rfl
  · rw [foldl_addIndex_map]
    rfl

theorem tailBlocks_eq_ok (ht : Tiling isLeader g.units blocks) (hnd : g.units.Nodup)
    (h : ∀ u ∈ g.tails, ∃ b ∈ blocks, b.tail = u) :
    tailBlocks g blocks = .ok (distinct (g.tails.map (blockOf blocks))) := by
  refine (foldlM_eq_ok (g := fun seen u => addIndex seen (blockOf blocks u)) ?_).trans ?_
  · intro u hu seen
    obtain ⟨b, hb, rfl⟩ := h u hu
    rw [(ht.ownerIn?_eq_some_iff hnd).mpr ⟨hb, b.tail_mem⟩, blockOf_eq ht hnd hb b.tail_mem]
    exact if_pos rfl
  · rw [foldl_addIndex_map]
    rfl

theorem wirePreds_eq_ok (ht : Tiling isLeader g.units blocks) (hnd : g.units.Nodup)
    (h : ∀ u ∈ g.preds b.head, u ∈ g.units) : wirePreds g blocks b = .ok (blockPreds g blocks b) := by
  apply mapM_eq_ok
  intro u hu
  obtain ⟨c, -, -, ho, hof⟩ := owner_of_mem ht hnd (h u hu)
  rw [ho, hof]

theorem wireJumps_eq_ok (ht : Tiling isLeader g.units blocks) (hnd : g.units.Nodup)
    (h : ∀ u ∈ b.units, g.branches u = true → ∀ t ∈ jumpTargets g u, t ∈ g.units) :
    wireJumps g blocks b = .ok (blockJumps g blocks b) := by
  rw [wireJumps, mapM_eq_ok (g := fun tu => blockOf blocks tu.1)]
  · rw [blockJumps, List.map_flatMap]
    simp only [List.map_map]
    rfl
  · rintro ⟨t, u⟩ hmem
    obtain ⟨v, hv, htv⟩ := List.mem_flatMap.mp hmem
    obtain ⟨t', ht', heq⟩ := List.mem_map.mp htv
    obtain ⟨rfl, rfl⟩ := Prod.mk.inj heq
    obtain ⟨hvu, hbr⟩ := List.mem_filter.mp hv
    obtain ⟨c, -, -, ho, hof⟩ := owner_of_mem ht hnd (h v hvu hbr t' ht')
    simp only [ho, hof]

theorem wireFall_eq_ok (ht : Tiling isLeader g.units blocks) (hnd : g.units.Nodup)
    (h : g.falls b.tail = true → ∃ t ts, g.succs b.tail = t :: ts ∧ t ∈ g.units) :
    wireFall g blocks b = .ok (blockFall g blocks b) := by
  rw [wireFall, blockFall]
  split
  · next hf =>
      obtain ⟨t, ts, hs, hmem⟩ := h hf
      obtain ⟨c, -, -, ho, hof⟩ := owner_of_mem ht hnd hmem
      simp only [hs, ho, List.take_succ_cons, List.take_zero, List.map_cons, List.map_nil, hof]
  · rfl

theorem wireBlock_eq_ok (ht : Tiling isLeader g.units blocks) (hnd : g.units.Nodup)
    (hc : Consistent g blocks) (hb : b ∈ blocks) :
    wireBlock g blocks (distinct (g.tails.map (blockOf blocks))) b = .ok (wired g blocks b) := by
  have hexit : ((blockSuccs g blocks b).isEmpty &&
      !(distinct (g.tails.map (blockOf blocks))).contains b.index) = false := by
    cases hs : (blockSuccs g blocks b).isEmpty with
    | false => rfl
    | true =>
        have htail := hc.exits b hb (List.isEmpty_iff.mp hs)
        have hmem : b.index ∈ distinct (g.tails.map (blockOf blocks)) :=
          mem_distinct.mpr (List.mem_map.mpr ⟨b.tail, htail, blockOf_eq ht hnd hb b.tail_mem⟩)
        simpa using hmem
  rw [wireBlock, wirePreds_eq_ok ht hnd (hc.preds b hb), wireJumps_eq_ok ht hnd (hc.jumps b hb),
    wireFall_eq_ok ht hnd (hc.falls b hb)]
  change (if ((blockSuccs g blocks b).isEmpty &&
    !(distinct (g.tails.map (blockOf blocks))).contains b.index) = true then _ else _) = _
  rw [hexit]
  rfl

/-- A consistent graph is wired, and the result is the flow put together without checks. -/
theorem wire_eq_ok (ht : Tiling isLeader g.units blocks) (hnd : g.units.Nodup) (hne : g.units ≠ [])
    (hc : Consistent g blocks) : wire g blocks = .ok (assemble g blocks) := by
  obtain ⟨b, bs, rfl⟩ := List.exists_cons_of_ne_nil (ht.ne_nil hne)
  have hb : b ∈ b :: bs := List.mem_cons_self
  have howner : ownerIn? (b :: bs) b.head = some b :=
    (ht.ownerIn?_eq_some_iff hnd).mpr ⟨hb, b.head_mem⟩
  have hindex : b.index = 0 := ht.placed.1
  have hfirst : (((b :: bs).head?.map fun c => c.head).bind (ownerIn? (b :: bs))).elim
      (distinct (g.heads.map (blockOf (b :: bs))))
      (fun c => addIndex (distinct (g.heads.map (blockOf (b :: bs)))) c.index) =
        addIndex (distinct (g.heads.map (blockOf (b :: bs)))) 0 := by
    change ((ownerIn? (b :: bs) b.head).elim _ _) = _
    rw [howner, Option.elim_some, hindex]
  have hagain : (((((b :: bs).map (wired g (b :: bs))).filter fun c =>
      !c.preds.isEmpty && some c.head = (b :: bs).head?.map fun c => c.head).map (·.index)).foldl
        addIndex (addIndex (distinct (g.heads.map (blockOf (b :: bs)))) 0)) =
      addIndex (distinct (g.heads.map (blockOf (b :: bs)))) 0 := by
    apply foldl_addIndex_of_mem
    intro i hi
    obtain ⟨c, hcmem, rfl⟩ := List.mem_map.mp hi
    obtain ⟨hcm, hcond⟩ := List.mem_filter.mp hcmem
    obtain ⟨d, hd, rfl⟩ := List.mem_map.mp hcm
    have hhead : d.head = b.head :=
      Option.some.inj (of_decide_eq_true (Bool.and_eq_true_iff.mp hcond).2)
    have hdb : d = b := ht.unique hnd hd hb (hhead ▸ d.head_mem) b.head_mem
    rw [hdb]
    exact mem_addIndex.mpr (Or.inr hindex)
  rw [wire, headBlocks_eq_ok ht hnd hc.heads, tailBlocks_eq_ok ht hnd hc.tails]
  change (List.mapM (wireBlock g (b :: bs) _) (b :: bs) >>= _) = _
  rw [mapM_eq_ok (g := wired g (b :: bs)) fun c hcm => wireBlock_eq_ok ht hnd hc hcm, hfirst]
  change Except.ok _ = Except.ok _
  rw [hagain]
  rfl

end Wire

end FlowBlocks
