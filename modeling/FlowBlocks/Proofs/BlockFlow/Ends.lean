import FlowBlocks.Proofs.BlockFlow.Built
import FlowBlocks.Proofs.BlockFlow.Straight
/-!
Where control enters and leaves the blocks of a body. Entries and exits of the graph stand in textual order,
every entry is the first unit of a block and every exit the last of one, so the blocks they lie in are listed
in the order of their indices. What has no predecessors and is no entry is a handler that nothing leads to.
A block that ends in an exit has no branch in front of it, under either rule, and so leads nowhere.
-/
namespace FlowBlocks

/-- The indices are those of the blocks with a property, in increasing order. -/
structure BlockFlow.Lists {U : Type} (f : BlockFlow U) (is : List Nat) (P : Block U → Prop) : Prop where
  increasing : is.Pairwise (· < ·)
  mem : ∀ i, i ∈ is ↔ ∃ b ∈ f.blocks, b.index = i ∧ P b

theorem BlockFlow.Lists.congr {U : Type} {f : BlockFlow U} {is : List Nat} {P Q : Block U → Prop}
    (h : f.Lists is P) (hpq : ∀ b ∈ f.blocks, P b ↔ Q b) : f.Lists is Q := by
  refine ⟨h.increasing, fun i => (h.mem i).trans ?_⟩
  exact exists_congr fun b => and_congr_right fun hb => and_congr_right fun _ => hpq b hb

theorem BlockFlow.Lists.mem_index {U : Type} {f : BlockFlow U} {is : List Nat} {P : Block U → Prop}
    {isLeader : U → Bool} {units : List U} (h : f.Lists is P) (ht : Tiling isLeader units f.blocks)
    {b : Block U} (hb : b ∈ f.blocks) : b.index ∈ is ↔ P b := by
  rw [h.mem]
  constructor
  · rintro ⟨c, hc, hindex, hp⟩
    rw [← ht.ext_index hc hb hindex]
    exact hp
  · intro hp
    exact ⟨b, hb, rfl, hp⟩

theorem head?_eq_zero {is : List Nat} (h : is.Pairwise (· < ·)) (hmem : 0 ∈ is) : is.head? = some 0 := by
  cases is with
  | nil => cases hmem
  | cons i is =>
      rcases List.mem_cons.mp hmem with rfl | hlater
      · rfl
      · exact absurd ((List.pairwise_cons.mp h).1 0 hlater) (Nat.not_lt_zero i)

section Regular

variable {g : FlowGraph Nat} {n : Nat} {handlers leaders : List Nat} {blocks : List (Block Nat)}
  {b : Block Nat}

/-- Positions in textual order that each stand at a fixed place of a block are listed block by block. -/
theorem Tiling.lists_owners (hg : g.Regular n handlers)
    (ht : Tiling leaders.contains (List.range n) blocks) {place : Run Nat → Nat}
    (hplace : ∀ r : Run Nat, place r ∈ r.units) {us : List Nat} (hsorted : us.Pairwise (· < ·))
    (hown : ∀ u ∈ us, ∃ b ∈ blocks, place b.toRun = u) :
    (assemble g blocks).Lists (distinct (us.map (blockOf blocks))) fun b => place b.toRun ∈ us := by
  have ht' : Tiling leaders.contains g.units blocks := by rw [hg.units]; exact ht
  have hof : ∀ b ∈ blocks, blockOf blocks (place b.toRun) = b.index := fun b hb =>
    blockOf_eq ht' hg.units_nodup hb (hplace b.toRun)
  constructor
  · refine List.Pairwise.sublist (distinct_sublist _) (List.pairwise_map.mpr ?_)
    refine hsorted.imp_of_mem fun {u v} hu hv hlt => ?_
    obtain ⟨b, hb, rfl⟩ := hown u hu
    obtain ⟨c, hc, rfl⟩ := hown v hv
    rw [hof b hb, hof c hc]
    refine Nat.lt_of_le_of_ne (ht.index_le hb hc (hplace _) (hplace _) (Nat.le_of_lt hlt)) fun he => ?_
    rw [ht.ext_index hb hc he] at hlt
    exact Nat.lt_irrefl _ hlt
  · intro i
    rw [mem_distinct, List.mem_map]
    constructor
    · rintro ⟨u, hu, rfl⟩
      obtain ⟨b, hb, rfl⟩ := hown u hu
      exact ⟨wired g blocks b, List.mem_map_of_mem hb, (hof b hb).symm, hu⟩
    · rintro ⟨c, hc, rfl, hu⟩
      obtain ⟨b, hb, rfl⟩ := List.mem_map.mp hc
      exact ⟨place b.toRun, hu, hof b hb⟩

/-- The first position is an entry already, so nothing is added to the blocks of the entries. -/
theorem lists_heads (hg : g.Regular n handlers) (hs : SingleEntry g n handlers leaders)
    (ht : Tiling leaders.contains (List.range n) blocks) (hsorted : g.heads.Pairwise (· < ·))
    (hfirst : 0 ∈ g.heads) :
    (assemble g blocks).Lists (assemble g blocks).heads fun b => b.head ∈ g.heads := by
  have hlists := ht.lists_owners hg Run.head_mem hsorted (consistent_of_regular hg hs ht).heads
  obtain ⟨b, hb, hindex, hhead, -⟩ := ht.first_block (hg.heads_only 0 hfirst).1
  have hzero : 0 ∈ distinct (g.heads.map (blockOf blocks)) :=
    (hlists.mem 0).mpr ⟨wired g blocks b, List.mem_map_of_mem hb, hindex, hhead ▸ hfirst⟩
  have hheads : (assemble g blocks).heads = distinct (g.heads.map (blockOf blocks)) := if_pos hzero
  rw [hheads]
  exact hlists

theorem lists_tails (hg : g.Regular n handlers) (hs : SingleEntry g n handlers leaders)
    (ht : Tiling leaders.contains (List.range n) blocks) (hsorted : g.tails.Pairwise (· < ·)) :
    (assemble g blocks).Lists (assemble g blocks).tails fun b => b.tail ∈ g.tails :=
  ht.lists_owners hg Run.tail_mem hsorted (consistent_of_regular hg hs ht).tails

theorem lists_orphans (hf : (assemble g blocks).Formed leaders.contains (List.range n)) :
    (assemble g blocks).Lists (assemble g blocks).orphans fun b =>
      b.preds = [] ∧ b.index ∉ (assemble g blocks).heads := by
  constructor
  · have hall : ((assemble g blocks).blocks.map fun b => b.index).Pairwise (· < ·) := by
      rw [hf.tiling.map_index]
      exact List.pairwise_lt_range
    exact hall.sublist (List.filter_sublist.map _)
  · intro i
    rw [hf.orphans i]
    refine exists_congr fun b => and_congr_right fun _ => and_congr_right fun hindex => ?_
    rw [hindex]

theorem Leaders.bigBlock_exit (hg : g.Regular n handlers)
    (ht : Tiling (bigBlock g handlers).contains (List.range n) blocks) (hb : b ∈ blocks)
    (hexit : b.tail ∈ g.tails) : b.size = 1 := by
  have hleader : b.tail ∈ bigBlock g handlers :=
    (mem_bigBlock hg).mpr (Or.inr ⟨((hg.tails _).mp hexit).1, Or.inr (Or.inr hexit)⟩)
  have hhead := ht.head_of_leader hb b.tail_mem (List.contains_iff_mem.mpr hleader)
  have hstart := ht.head_eq_start hb
  have htail := ht.tail_succ hb
  omega

/-- No branch stands in front of an exit in its block. -/
theorem Policy.plain_of_exit (p : Policy) (hg : g.Regular n handlers)
    (ht : Tiling (p.rule g handlers).contains (List.range n) blocks) (hb : b ∈ blocks)
    (hexit : b.tail ∈ g.tails) : ∀ u ∈ b.units, g.branches u = false := by
  intro u hu
  have hin := (ht.mem_block hb).mp hu
  have htail := ht.tail_succ hb
  by_cases hlast : u = b.tail
  · rw [hlast]
    exact ((hg.tails _).mp hexit).2.1
  · -- big blocks hold nothing but the exit; under the classic rule what is not last does not branch
    cases p with
    | bigBlock =>
        have hone := Leaders.bigBlock_exit hg ht hb hexit
        omega
    | classic =>
        have hstart := ht.head_eq_start hb
        have hnext : u + 1 ∈ b.units := (ht.mem_block hb).mpr (by omega)
        have hrest : u + 1 ∈ b.rest := (ht.mem_rest hb).mpr ⟨hnext, by omega⟩
        exact (Leaders.straight_of_rest hg ht hb hrest).plain

/-- A block leads nowhere exactly if it ends in an exit. -/
theorem Policy.blockSuccs_eq_nil (p : Policy) (hg : g.Regular n handlers)
    (ht : Tiling (p.rule g handlers).contains (List.range n) blocks) (hb : b ∈ blocks) :
    b.tail ∈ g.tails ↔ blockSuccs g blocks b = [] := by
  constructor
  · intro hexit
    have hfall := ((hg.tails _).mp hexit).2.2
    have hnone : b.units.filter g.branches = [] := by
      refine List.filter_eq_nil_iff.mpr fun u hu => ?_
      rw [p.plain_of_exit hg ht hb hexit u hu]
      exact Bool.false_ne_true
    rw [blockSuccs, blockFall, blockJumps, hfall, hnone]
    rfl
  · exact (consistent_of_regular hg (p.singleEntry hg) ht).exits b hb

end Regular

namespace Body

variable {b : Body} {k : GraphKind}

def quits (b : Body) (i : Nat) : Bool :=
  (b.instrs[i]?).any fun x => x.op == .ret || x.op == .throw

theorem mem_tails_iff (h : b.Sound) {i : Nat} : i ∈ (b.flowGraph k).tails ↔ b.quits i = true := by
  rw [(flowGraph_regular h k).tails i]
  by_cases hi : i < b.size
  · obtain ⟨x, hx⟩ := exists_getElem? hi
    rw [branches_eq hx, falls_eq hx, quits, hx, Option.any_some, Instr.branches, Instr.fallsThrough]
    cases x.op <;> simp [hi, Op.branches, Op.fallsThrough]
  · have hnone : b.instrs[i]? = none := List.getElem?_eq_none (Nat.le_of_not_lt hi)
    simp [quits, hi, hnone]

theorem heads_sorted (b : Body) (k : GraphKind) : (b.flowGraph k).heads.Pairwise (· < ·) := by
  rw [heads_eq]
  exact List.Pairwise.filter _ List.pairwise_lt_range

theorem tails_sorted (b : Body) (k : GraphKind) : (b.flowGraph k).tails.Pairwise (· < ·) := by
  refine List.Pairwise.sublist (List.filter_sublist.map Prod.snd) ?_
  rw [List.zipIdx_map_snd]
  exact List.pairwise_lt_range'

end Body

section Body

variable {body : Body} {k : GraphKind} {leaders : List Nat} {blocks : List (Block Nat)} {b : Block Nat}

theorem lists_entries (hsound : body.Sound) (hn : 0 < body.size)
    (hs : SingleEntry (body.flowGraph k) body.size body.handlers leaders)
    (ht : Tiling leaders.contains (List.range body.size) blocks) :
    (assemble (body.flowGraph k) blocks).Lists (assemble (body.flowGraph k) blocks).heads fun b =>
      b.index = 0 ∨ (body.flowGraph k).preds b.head = [] ∧ (k = .exceptional → b.head ∉ body.handlers) := by
  have hg := Body.flowGraph_regular hsound k
  have hfirst : 0 ∈ (body.flowGraph k).heads := Body.mem_heads.mpr ⟨hn, Or.inl rfl⟩
  refine (lists_heads hg hs ht (body.heads_sorted k) hfirst).congr fun b hb => ?_
  have ht' := wired_tiling ht (body.flowGraph k)
  have hlt := ht'.lt_of_mem hb b.head_mem
  rw [Body.mem_heads, ht'.index_zero hn hb]
  exact and_iff_right hlt

/-- The blocks without predecessors that are no entries open with a handler, in the exceptional graph. -/
theorem orphan_iff (hsound : body.Sound) (hn : 0 < body.size)
    (hs : SingleEntry (body.flowGraph k) body.size body.handlers leaders)
    (ht : Tiling leaders.contains (List.range body.size) blocks)
    (hb : b ∈ (assemble (body.flowGraph k) blocks).blocks) :
    b.preds = [] ∧ b.index ∉ (assemble (body.flowGraph k) blocks).heads ↔
      k = .exceptional ∧ b.index ≠ 0 ∧ b.head ∈ body.handlers ∧ (body.flowGraph k).preds b.head = [] := by
  have hpreds : b.preds = [] ↔ (body.flowGraph k).preds b.head = [] := by
    obtain ⟨c, -, rfl⟩ := List.mem_map.mp hb
    exact List.map_eq_nil_iff
  rw [hpreds, (lists_entries hsound hn hs ht).mem_index (wired_tiling ht _) hb]
  constructor
  · rintro ⟨hnone, hno⟩
    obtain ⟨hindex, hentry⟩ := not_or.mp hno
    obtain ⟨hk, hhandler⟩ := Classical.not_imp.mp fun himp => hentry ⟨hnone, himp⟩
    exact ⟨hk, hindex, not_not.mp hhandler, hnone⟩
  · rintro ⟨hk, hindex, hhandler, hnone⟩
    exact ⟨hnone, fun h => h.elim hindex fun hentry => hentry.2 hk hhandler⟩

end Body

/-- Where control enters and leaves the blocks of a body that was read, as either graph and under either
policy. The entries are the first block and those whose head has no predecessors, save for handlers in the
exceptional graph; the orphans are what is left without predecessors, handlers other than the first unit and
only in the exceptional graph; every other block has predecessors. The exits are the blocks that end in a
return or a throw, and these alone lead nowhere; with big blocks they hold one unit each. Each of the three
is listed by increasing index, the first block first among the entries. -/
theorem block_ends_listed {file src : Bytes} {bodies : List Body}
    (hparse : Listing.parse file src = .ok bodies) {body : Body} (hbody : body ∈ bodies)
    (hsize : body.size ≠ 0) (k : GraphKind) (p : Policy) :
    ∃ f, build p.rule (body.flowGraph k) body.handlers = .ok f ∧
      (f.heads.head? = some 0 ∧ f.Lists f.heads fun b =>
        b.index = 0 ∨ (body.flowGraph k).preds b.head = [] ∧ (k = .exceptional → b.head ∉ body.handlers)) ∧
      (k = .brief → f.orphans = []) ∧
      (k = .exceptional → f.Lists f.orphans fun b =>
        b.index ≠ 0 ∧ b.head ∈ body.handlers ∧ (body.flowGraph k).preds b.head = []) ∧
      (∀ b ∈ f.blocks, b.index ∉ f.heads → b.index ∉ f.orphans → b.preds ≠ []) ∧
      (f.Lists f.tails fun b => body.quits b.tail = true) ∧
      (∀ b ∈ f.blocks, b.index ∈ f.tails ↔ b.succs = []) ∧
      (p = .bigBlock → ∀ b ∈ f.blocks, b.index ∈ f.tails → b.size = 1) := by
  have hsound := Listing.parse_sound hparse body hbody
  have hg := Body.flowGraph_regular hsound k
  have hs := p.singleEntry hg
  have hn := Nat.pos_of_ne_zero hsize
  obtain ⟨blocks, ht, hbuild⟩ := build_of_regular hg hs hn
  have hf := build_formed hbuild
  rw [hg.units] at hf
  have hheads := lists_entries hsound hn hs ht
  have htails := lists_tails hg hs ht (body.tails_sorted k)
  have horphans := (lists_orphans hf).congr fun b hb => orphan_iff hsound hn hs ht hb
  refine ⟨_, hbuild, ⟨?_, hheads⟩, ?_, ?_, ?_, ?_, ?_, ?_⟩
  · exact head?_eq_zero hheads.increasing (build_first hbuild hg.units_nodup)
  · rintro rfl
    refine List.eq_nil_iff_forall_not_mem.mpr fun i hi => ?_
    obtain ⟨b, -, -, hk, -⟩ := (horphans.mem i).mp hi
    cases hk
  · intro hk
    exact horphans.congr fun b _ => and_iff_right hk
  · intro b hb hno horphan hnone
    exact horphan ((hf.mem_orphans hb).mpr ⟨hnone, hno⟩)
  · exact htails.congr fun b _ => Body.mem_tails_iff hsound
  · intro b hb
    rw [htails.mem_index hf.tiling hb]
    obtain ⟨c, hc, rfl⟩ := List.mem_map.mp hb
    rw [wired_toRun, wired_succs]
    exact p.blockSuccs_eq_nil hg ht hc
  · rintro rfl b hb hexit
    exact Leaders.bigBlock_exit hg hf.tiling hb ((htails.mem_index hf.tiling hb).mp hexit)

/-- A loop back to the first unit, a trapped return, dead code, and two handlers of which one is never
reached. -/
theorem dead_handler_listed :
    ∃ body f, Listing.parse (bytes "m.bbl")
        (bytes "a: if p goto a\nr: return\nd: y = 2\ngoto a\nh: throw e\ni: return\n.trap r d i\n.trap h h h\n") =
          .ok [body] ∧ body.size = 6 ∧
      build Policy.bigBlock.rule (body.flowGraph .exceptional) body.handlers = .ok f ∧
      (f.heads = [0, 2] ∧ f.Lists f.heads fun b => b.index = 0 ∨
        (body.flowGraph .exceptional).preds b.head = [] ∧
          (GraphKind.exceptional = .exceptional → b.head ∉ body.handlers)) ∧
      (f.orphans = [3] ∧ f.Lists f.orphans fun b => b.index ≠ 0 ∧ b.head ∈ body.handlers ∧
        (body.flowGraph .exceptional).preds b.head = []) ∧
      (f.tails = [1, 3, 4] ∧ f.Lists f.tails fun b => body.quits b.tail = true) ∧
      ∀ b ∈ f.blocks, b.index ∈ f.tails → b.size = 1 := by
  obtain ⟨body, hparse, hsize, hends⟩ : ∃ body, Listing.parse (bytes "m.bbl")
      (bytes "a: if p goto a\nr: return\nd: y = 2\ngoto a\nh: throw e\ni: return\n.trap r d i\n.trap h h h\n") =
        .ok [body] ∧ body.size = 6 ∧
      (build Policy.bigBlock.rule (body.flowGraph .exceptional) body.handlers).map
        (fun f => [f.heads, f.orphans, f.tails]) = .ok [[0, 2], [3], [1, 3, 4]] :=
    eq_ok_singleton (by decide +kernel)
  obtain ⟨f, hbuild, ⟨-, hentries⟩, -, horphans, -, hexits, -, hone⟩ :=
    block_ends_listed hparse List.mem_cons_self (by omega) .exceptional .bigBlock
  rw [hbuild] at hends
  have hlists := Except.ok.inj hends
  simp only [List.cons.injEq, and_true] at hlists
  obtain ⟨hheads, horphan, htails⟩ := hlists
  exact ⟨body, f, hparse, hsize, hbuild, ⟨hheads, hentries⟩, ⟨horphan, horphans rfl⟩, ⟨htails, hexits⟩,
    hone rfl⟩

end FlowBlocks
