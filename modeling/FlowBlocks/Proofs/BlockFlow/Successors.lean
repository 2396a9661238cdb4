import FlowBlocks.Proofs.BlockFlow.Edges
/-!
The successors of a block in order. In front stands the next block, if the last unit falls through; behind it,
branch by branch, the blocks of the units that each branch names. What a branch names is said by its body
alone, in `Body.branchUnits`; that the graph lists the same units behind the one control falls to is
`Body.jumpTargets_eq`.
-/
namespace FlowBlocks

theorem Op.beq_cond {o : Op} (h : o.branches = true) : (o == .cond) = o.fallsThrough := by
  revert h
  cases o <;> decide

namespace Body

variable {b : Body} {k : GraphKind} {i : Nat} {x : Instr}

/-- A conditional jump passes over the position after it: control falls there in any case. -/
def passesOver (x : Instr) (i t : Nat) : Bool := x.op == .cond && t == i + 1

/-- The units that the targets of an instruction at position `i` stand for, in textual order. -/
def targetUnits (b : Body) (i : Nat) (x : Instr) : List Nat :=
  (distinct (x.targets.filterMap b.find?)).filter fun t => !passesOver x i t

/-- The handlers of the traps around position `i`, in table order, without what the instruction there names
already. -/
def handlerUnits (b : Body) (k : GraphKind) (i : Nat) (x : Instr) : List Nat :=
  (distinct (((b.activeTraps k).filter fun r => r.first ≤ i && i < r.past).map TrapRange.handler)).filter
    fun t => !passesOver x i t && !(b.targetUnits i x).contains t

/-- The units that the branch at a position names. -/
def branchUnits (b : Body) (k : GraphKind) (i : Nat) : List Nat :=
  (b.instrs[i]?).elim [] fun x => b.targetUnits i x ++ b.handlerUnits k i x

theorem branchUnits_eq (hx : b.instrs[i]? = some x) :
    b.branchUnits k i = b.targetUnits i x ++ b.handlerUnits k i x := by
  rw [branchUnits, hx]
  rfl

theorem passesOver_eq (hb : x.branches = true) (i t : Nat) :
    passesOver x i t = (x.fallsThrough && t == i + 1) := by
  rw [passesOver, Op.beq_cond hb]
  rfl

theorem mem_targetUnits {t : Nat} :
    t ∈ b.targetUnits i x ↔ t ∈ b.jumpSuccs x ∧ passesOver x i t = false := by
  rw [targetUnits, List.mem_filter, mem_distinct, Bool.not_eq_true']
  rfl

theorem jumpTargets_eq (h : b.Sound) (hx : b.instrs[i]? = some x) (hb : x.branches = true) :
    jumpTargets (b.flowGraph k) i = b.branchUnits k i := by
  have hbehind : jumpTargets (b.flowGraph k) i =
      (distinct (b.jumpSuccs x ++ trapSuccs (b.activeTraps k) i)).filter fun t => !passesOver x i t := by
    simp only [passesOver_eq hb]
    rw [jumpTargets, falls_eq hx, succs_eq hx]
    cases hf : x.fallsThrough with
    | false =>
        rw [(fallSuccs_eq_nil h hx).mpr hf]
        simp
    | true =>
        -- what control falls to stands in front, so dropping the first unit leaves it out everywhere
        rw [fallSuccs_of_falls h hx hf, List.append_assoc, List.singleton_append, distinct_cons, if_pos rfl,
          List.drop_succ_cons, List.drop_zero]
        refine List.filter_congr fun t _ => ?_
        rw [Bool.eq_iff_iff]
        simp
  rw [hbehind, distinct_append, List.filter_append, List.filter_filter, branchUnits_eq hx]
  refine congrArg _ (List.filter_congr fun t _ => ?_)
  -- a unit passed over is in neither list; of the others, those among the targets are named already
  cases hpass : passesOver x i t with
  | true => rfl
  | false =>
      rw [Bool.eq_iff_iff]
      simp [mem_targetUnits, hpass]

end Body

section Regular

variable {g : FlowGraph Nat} {n : Nat} {handlers leaders : List Nat} {blocks : List (Block Nat)}
  {b : Block Nat} {u : Nat}

theorem blockFall_eq_next (hg : g.Regular n handlers)
    (ht : Tiling leaders.contains (List.range n) blocks) (hb : b ∈ blocks) :
    blockFall g blocks b = if g.falls b.tail then [b.index + 1] else [] := by
  rw [blockFall]
  split
  · next hf =>
      have hlt := ht.lt_of_mem hb b.tail_mem
      obtain ⟨hnext, rest, hsucc⟩ := hg.falls b.tail hlt hf
      obtain ⟨c, hc, hindex, hhead⟩ := ht.exists_next hb hnext
      have hof : blockOf blocks (b.tail + 1) = c.index := by
        rw [blockOf_eq_iff hg ht hc hnext, ← hhead]
        exact c.head_mem
      rw [hsucc, List.take_succ_cons, List.take_zero, List.map_singleton, hof, hindex]
  · rfl

theorem owner?_assemble (hg : g.Regular n handlers)
    (ht : Tiling leaders.contains (List.range n) blocks) (hu : u < n) :
    ((assemble g blocks).owner? u).map (fun c => c.index) = some (blockOf blocks u) := by
  obtain ⟨c, hc, hmem⟩ := ht.mem_units.mp (List.mem_range.mpr hu)
  have howner : (assemble g blocks).owner? u = some (wired g blocks c) :=
    ((wired_tiling ht g).ownerIn?_eq_some_iff List.nodup_range).mpr ⟨List.mem_map_of_mem hc, hmem⟩
  rw [howner, (blockOf_eq_iff hg ht hc hu).mpr hmem]
  rfl

end Regular

theorem blockJumps_eq {body : Body} {k : GraphKind} {leaders : List Nat} {blocks : List (Block Nat)}
    {b : Block Nat} (hsound : body.Sound) (ht : Tiling leaders.contains (List.range body.size) blocks)
    (hb : b ∈ blocks) :
    (blockJumps (body.flowGraph k) blocks b).map some =
      (b.units.filter (body.flowGraph k).branches).flatMap fun u => (body.branchUnits k u).map fun t =>
        ((assemble (body.flowGraph k) blocks).owner? t).map (fun c => c.index) := by
  have hg := Body.flowGraph_regular hsound k
  rw [blockJumps, List.map_flatMap]
  refine List.flatMap_congr fun u hu => ?_
  obtain ⟨hmem, hbr⟩ := List.mem_filter.mp hu
  obtain ⟨x, hx⟩ := Body.exists_getElem? (ht.lt_of_mem hb hmem)
  rw [Body.branches_eq hx] at hbr
  rw [← Body.jumpTargets_eq hsound hx hbr, List.map_map]
  refine List.map_congr_left fun t htarget => ?_
  exact (owner?_assemble hg ht (hg.succs_lt u t (jumpTargets_sub htarget)).2).symm

/-- The successors of every block of a body that was read, in order: the next block, which exists, if the last
unit of the block falls through; then for every branch of the block in turn the blocks of its target units in
textual order and of the handlers around it in table order. No unit is named twice for one branch, and a
conditional jump does not name the unit after it. -/
theorem block_successors_in_order {file src : Bytes} {bodies : List Body}
    (hparse : Listing.parse file src = .ok bodies) {body : Body} (hbody : body ∈ bodies)
    (hsize : body.size ≠ 0) (k : GraphKind) (p : Policy) :
    ∃ f, build p.rule (body.flowGraph k) body.handlers = .ok f ∧ ∀ b ∈ f.blocks,
      ((body.flowGraph k).falls b.tail = true → ∃ c ∈ f.blocks, c.index = b.index + 1) ∧
      b.succs.map some =
        (if (body.flowGraph k).falls b.tail then [some (b.index + 1)] else []) ++
          (b.units.filter (body.flowGraph k).branches).flatMap fun u =>
            (body.branchUnits k u).map fun t => (f.owner? t).map (fun c => c.index) := by
  have hsound := Listing.parse_sound hparse body hbody
  have hg := Body.flowGraph_regular hsound k
  obtain ⟨blocks, ht, hbuild⟩ := build_of_regular hg (p.singleEntry hg) (Nat.pos_of_ne_zero hsize)
  have ht' := wired_tiling ht (body.flowGraph k)
  refine ⟨_, hbuild, fun b hb => ⟨?_, ?_⟩⟩
  · intro hf
    have hlt := ht'.lt_of_mem hb b.tail_mem
    obtain ⟨c, hc, hindex, -⟩ := ht'.exists_next hb (hg.falls b.tail hlt hf).1
    exact ⟨c, hc, hindex⟩
  · obtain ⟨c, hc, rfl⟩ := List.mem_map.mp hb
    rw [wired_succs, blockSuccs, List.map_append, blockFall_eq_next hg ht hc, blockJumps_eq hsound ht hc]
    rw [wired_toRun, wired_index]
    cases (body.flowGraph k).falls c.tail <;> rfl

/-- Three branches in one block: a conditional jump to the unit after it, a switch with a case twice, the
first of them inside the block, and a jump back, all under traps whose handlers are targets as well. -/
theorem inner_switch_in_order :
    ∃ body f, Listing.parse (bytes "m.bbl")
        (bytes ("a: if p goto b\nb: switch x c c default h\nc: y = 2\nif q goto a\nh: return\n" ++
          ".trap a c h\n.trap b h a\n")) = .ok [body] ∧ body.size = 5 ∧
      build Policy.bigBlock.rule (body.flowGraph .exceptional) body.handlers = .ok f ∧
      f.blocks.map (fun b => b.succs) = [[1, 1, 0, 1, 0, 0], []] ∧
      ∀ b ∈ f.blocks, b.succs.map some =
        (if (body.flowGraph .exceptional).falls b.tail then [some (b.index + 1)] else []) ++
          (b.units.filter (body.flowGraph .exceptional).branches).flatMap fun u =>
            (body.branchUnits .exceptional u).map fun t => (f.owner? t).map (fun c => c.index) := by
  obtain ⟨body, hparse, hsize, hsuccs⟩ : ∃ body, Listing.parse (bytes "m.bbl")
      (bytes ("a: if p goto b\nb: switch x c c default h\nc: y = 2\nif q goto a\nh: return\n" ++
        ".trap a c h\n.trap b h a\n")) = .ok [body] ∧ body.size = 5 ∧
      (build Policy.bigBlock.rule (body.flowGraph .exceptional) body.handlers).map (·.blocks.map fun b => b.succs) =
        .ok [[1, 1, 0, 1, 0, 0], []] :=
    eq_ok_singleton (by decide +kernel)
  obtain ⟨f, hbuild, horder⟩ :=
    block_successors_in_order hparse List.mem_cons_self (by omega) .exceptional .bigBlock
  rw [hbuild] at hsuccs
  exact ⟨body, f, hparse, hsize, hbuild, Except.ok.inj hsuccs, fun b hb => (horder b hb).2⟩

end FlowBlocks
