import FlowBlocks.Proofs.FlowGraph.Regular
/-!
The exceptional graph of a body over its brief one. It lists the handlers behind the normal successors and
changes nothing else: exits are the same, and only handlers gain predecessors or stop being entries. What
is said of blocks later rests on `Widens`, which leaves open where the added edges come from.
-/
namespace FlowBlocks

/-- A graph with the edges of another one and edges to handlers behind them. -/
structure FlowGraph.Widens (g' g : FlowGraph Nat) (handlers : List Nat) : Prop where
  branches : g'.branches = g.branches
  falls : g'.falls = g.falls
  tails : g'.tails = g.tails
  succs : ∀ u, ∃ added, g'.succs u = g.succs u ++ added
  preds_eq : ∀ v, v ∉ handlers → g'.preds v = g.preds v

theorem Trap.past_le_of_range {xs : List Instr} {t : Trap} {r : TrapRange}
    (h : t.range (labelSites xs) xs.length = .ok r) : r.past ≤ xs.length := by
  obtain ⟨-, hpast, -⟩ := Trap.range_eq_ok h
  split at hpast
  · exact Nat.le_of_eq (Option.some.inj hpast).symm
  · exact Nat.le_of_lt (siteOf?_lt hpast)

namespace Body

variable {b : Body} {i j : Nat}

theorem trapSuccs_of_size_le (h : b.size ≤ i) : trapSuccs b.trapRanges i = [] := by
  rw [trapSuccs, List.map_eq_nil_iff, List.filter_eq_nil_iff]
  intro r hr hcover
  obtain ⟨t, -, ht⟩ := List.mem_filterMap.mp hr
  cases hrange : t.range (labelSites b.instrs) b.size with
  | error e => rw [hrange] at ht; cases ht
  | ok r' =>
      rw [hrange] at ht
      cases ht
      have hpast : r.past ≤ b.size := Trap.past_le_of_range hrange
      simp only [Bool.and_eq_true, decide_eq_true_eq] at hcover
      omega

/-- Behind the normal successors stand the handlers of the traps around the position, as far as they are
not listed yet. -/
theorem succs_exceptional (b : Body) (i : Nat) :
    (b.flowGraph .exceptional).succs i = (b.flowGraph .brief).succs i ++
      (distinct (trapSuccs b.trapRanges i)).filter fun h => h ∉ (b.flowGraph .brief).succs i := by
  by_cases hi : i < b.size
  · obtain ⟨x, hx⟩ := exists_getElem? hi
    have hbrief : (b.flowGraph .brief).succs i = distinct (b.fallSuccs i x ++ b.jumpSuccs x) := by
      rw [succs_eq hx]
      exact congrArg distinct (List.append_nil _)
    rw [succs_eq hx, hbrief]
    exact distinct_append _ _
  · have hle : b.size ≤ i := Nat.le_of_not_lt hi
    rw [succs_eq_nil hle, succs_eq_nil hle, trapSuccs_of_size_le hle]
    rfl

theorem mem_succs_exceptional (hj : j ∉ b.handlers) :
    j ∈ (b.flowGraph .exceptional).succs i ↔ j ∈ (b.flowGraph .brief).succs i := by
  rw [succs_exceptional, List.mem_append, List.mem_filter, mem_distinct]
  constructor
  · rintro (h | ⟨h, -⟩)
    · exact h
    · exact absurd (mem_trapSuccs (b := b) (k := .exceptional) h) hj
  · exact Or.inl

theorem preds_exceptional (hj : j ∉ b.handlers) :
    (b.flowGraph .exceptional).preds j = (b.flowGraph .brief).preds j := by
  rw [preds_eq, preds_eq]
  apply List.filter_congr
  intro i _
  rw [Bool.eq_iff_iff, List.contains_iff_mem, List.contains_iff_mem]
  exact mem_succs_exceptional hj

theorem preds_brief_sublist (b : Body) (j : Nat) :
    ((b.flowGraph .brief).preds j).Sublist ((b.flowGraph .exceptional).preds j) := by
  rw [preds_eq, preds_eq]
  apply List.monotone_filter_right
  intro i hi
  rw [List.contains_iff_mem] at hi ⊢
  rw [succs_exceptional]
  exact List.mem_append_left _ hi

theorem heads_exceptional (b : Body) :
    (b.flowGraph .exceptional).heads =
      (b.flowGraph .brief).heads.filter fun i => i = 0 ∨ i ∉ b.handlers := by
  rw [heads_eq, heads_eq, List.filter_filter]
  apply List.filter_congr
  intro i _
  rw [Bool.eq_iff_iff]
  simp only [Bool.and_eq_true, decide_eq_true_eq]
  by_cases hi : i ∈ b.handlers
  · simp only [hi, not_true_eq_false, imp_false, or_false]
    constructor
    · rintro (h | h)
      · exact ⟨h, Or.inl h⟩
      · exact h.2.elim
    · exact fun h => Or.inl h.1
  · rw [preds_exceptional hi]
    simp [hi]

theorem exceptional_widens (b : Body) :
    (b.flowGraph .exceptional).Widens (b.flowGraph .brief) b.handlers where
  branches := rfl
  falls := rfl
  tails := rfl
  succs := fun u => ⟨_, succs_exceptional b u⟩
  preds_eq := fun _ => preds_exceptional

/-- Every trap of a body that is made resolves. -/
theorem make_ranged {name file : Bytes} {instrs : List Instr} {traps : List Trap}
    (h : Body.make name file instrs traps = .ok b) :
    ∀ t ∈ b.traps, ∃ r, t.range (labelSites b.instrs) b.size = .ok r := by
  obtain ⟨rfl, -, -, hbad, -⟩ := make_eq_ok h
  intro t ht
  simp only [size, labelSites_numbered, length_numbered]
  exact ranged_of_badTrap? hbad ht

theorem make_trapRanges {name file : Bytes} {instrs : List Instr} {traps : List Trap}
    (h : Body.make name file instrs traps = .ok b) :
    b.traps.mapM (fun t => t.range (labelSites b.instrs) b.size) = .ok b.trapRanges := by
  obtain ⟨ranges, hmap⟩ := exists_mapM_eq_ok (make_ranged h)
  refine hmap.trans (congrArg Except.ok ?_)
  exact (filterMap_of_mapM hmap).symm

end Body

/-- The exceptional graph of any body that is made adds to the brief one nothing but edges to handlers:
behind the normal successors the handlers of exactly the traps whose range holds the position, in table order
and none that is listed already. Exits are the same, positions that are no handlers keep their predecessors,
handlers keep theirs among others, and the entries lose only handlers past the start. -/
theorem exceptional_extends_brief {name file : Bytes} {instrs : List Instr} {traps : List Trap} {b : Body}
    (h : Body.make name file instrs traps = .ok b) :
    (∃ ranges, b.traps.mapM (fun t => t.range (labelSites b.instrs) b.size) = .ok ranges ∧
      ∀ i, (b.flowGraph .exceptional).succs i = (b.flowGraph .brief).succs i ++
        (distinct ((ranges.filter fun r => r.first ≤ i && i < r.past).map TrapRange.handler)).filter
          fun h => h ∉ (b.flowGraph .brief).succs i) ∧
    (b.flowGraph .exceptional).tails = (b.flowGraph .brief).tails ∧
    (∀ i, i ∉ b.handlers → (b.flowGraph .exceptional).preds i = (b.flowGraph .brief).preds i) ∧
    (∀ i ∈ b.handlers, ((b.flowGraph .brief).preds i).Sublist ((b.flowGraph .exceptional).preds i)) ∧
    (b.flowGraph .exceptional).heads =
      (b.flowGraph .brief).heads.filter fun i => i = 0 ∨ i ∉ b.handlers := by
  refine ⟨⟨b.trapRanges, Body.make_trapRanges h, Body.succs_exceptional b⟩, ?_, ?_, ?_, ?_⟩
  · exact b.exceptional_widens.tails
  · intro i hi
    exact Body.preds_exceptional hi
  · intro i _
    exact Body.preds_brief_sublist b i
  · exact Body.heads_exceptional b

/-- A handler that is also the jump target and the instruction after the jump, a trap given twice, one that
handles its own failures, and one around nothing whose handler is reached by no edge. -/
theorem nested_traps_extend :
    ∃ b, Body.make (bytes "m") (bytes "m.bbl")
        [{ labels := [bytes "a"], text := bytes "x" },
          { labels := [bytes "b"], op := .cond, text := bytes "if p goto h", targets := [bytes "h"] },
          { labels := [bytes "h"], op := .ret, text := bytes "return" },
          { labels := [bytes "d"], op := .ret, text := bytes "return" }]
        [⟨bytes "a", [], bytes "h"⟩, ⟨bytes "a", bytes "b", bytes "a"⟩, ⟨bytes "h", bytes "h", bytes "d"⟩,
          ⟨bytes "a", [], bytes "h"⟩] = .ok b ∧
      (∃ ranges, b.traps.mapM (fun t => t.range (labelSites b.instrs) b.size) = .ok ranges ∧
        (b.flowGraph .exceptional).succs 0 = (b.flowGraph .brief).succs 0 ++
          (distinct ((ranges.filter fun r => r.first ≤ 0 && 0 < r.past).map TrapRange.handler)).filter
            fun h => h ∉ (b.flowGraph .brief).succs 0) ∧
      (b.flowGraph .brief).succs 0 = [1] ∧ (b.flowGraph .exceptional).succs 0 = [1, 2, 0] ∧
      (b.flowGraph .exceptional).heads =
        (b.flowGraph .brief).heads.filter (fun i => i = 0 ∨ i ∉ b.handlers) ∧
      (b.flowGraph .brief).heads = [0, 3] := by
  obtain ⟨b, hmake, hshape⟩ := map_eq_ok.mp (by decide +kernel :
    (Body.make (bytes "m") (bytes "m.bbl")
        [{ labels := [bytes "a"], text := bytes "x" },
          { labels := [bytes "b"], op := .cond, text := bytes "if p goto h", targets := [bytes "h"] },
          { labels := [bytes "h"], op := .ret, text := bytes "return" },
          { labels := [bytes "d"], op := .ret, text := bytes "return" }]
        [⟨bytes "a", [], bytes "h"⟩, ⟨bytes "a", bytes "b", bytes "a"⟩, ⟨bytes "h", bytes "h", bytes "d"⟩,
          ⟨bytes "a", [], bytes "h"⟩]).map (fun b => ((b.flowGraph .brief).succs 0,
            (b.flowGraph .exceptional).succs 0, (b.flowGraph .brief).heads)) = .ok ([1], [1, 2, 0], [0, 3]))
  obtain ⟨⟨ranges, hranges, hsuccs⟩, -, -, -, hheads⟩ := exceptional_extends_brief hmake
  simp only [Prod.mk.injEq] at hshape
  exact ⟨b, hmake, ⟨ranges, hranges, hsuccs 0⟩, hshape.1, hshape.2.1, hheads, hshape.2.2⟩

end FlowBlocks
