import FlowBlocks.FlowGraph
import FlowBlocks.Proofs.Listing.Sound
/-!
Regular flow graphs over positions: edges stay inside, predecessors mirror successors, a unit that falls
through has the next position as its first successor, and one that does not branch leads nowhere else but
to handlers. Both graphs of a sound body are regular. What follows from regularity about leaders and
blocks does not look at bodies again.
-/
namespace FlowBlocks

/-- A flow graph on the positions below `n` whose parts fit together. -/
structure FlowGraph.Regular (g : FlowGraph Nat) (n : Nat) (handlers : List Nat) : Prop where
  units : g.units = List.range n
  handlers_lt : ∀ h ∈ handlers, h < n
  succs_lt : ∀ u v, v ∈ g.succs u → u < n ∧ v < n
  succs_nodup : ∀ u, (g.succs u).Nodup
  preds : ∀ v, g.preds v = (List.range n).filter fun u => (g.succs u).contains v
  falls : ∀ u, u < n → g.falls u = true → u + 1 < n ∧ ∃ rest, g.succs u = (u + 1) :: rest
  jumps : ∀ u, u < n → g.branches u = true → g.falls u = false → g.succs u ≠ []
  plain : ∀ u v, v ∈ g.succs u → g.branches u = false → v ∈ handlers ∨ g.falls u = true ∧ v = u + 1
  tails : ∀ u, u ∈ g.tails ↔ u < n ∧ g.branches u = false ∧ g.falls u = false
  heads_only : ∀ u ∈ g.heads, u < n ∧ (u = 0 ∨ g.preds u = [])
  heads_all : ∀ u, u < n → g.preds u = [] → u ∉ handlers → u ∈ g.heads

namespace FlowGraph.Regular

variable {g : FlowGraph Nat} {n : Nat} {handlers : List Nat}

theorem units_nodup (h : g.Regular n handlers) : g.units.Nodup := by
  rw [h.units]
  exact List.nodup_range

theorem mem_units (h : g.Regular n handlers) {u : Nat} : u ∈ g.units ↔ u < n := by
  rw [h.units, List.mem_range]

theorem mem_preds (h : g.Regular n handlers) {u v : Nat} : u ∈ g.preds v ↔ v ∈ g.succs u := by
  rw [h.preds, List.mem_filter, List.mem_range, List.contains_iff_mem]
  exact ⟨And.right, fun hv => ⟨(h.succs_lt u v hv).1, hv⟩⟩

end FlowGraph.Regular

theorem zipIdx_eq_map_range {α : Type} (xs : List α) (d : α) :
    xs.zipIdx = (List.range xs.length).map fun i => (xs[i]?.getD d, i) := by
  apply List.ext_getElem?
  intro i
  rw [List.getElem?_zipIdx, List.getElem?_map, Nat.zero_add]
  by_cases hi : i < xs.length
  · rw [List.getElem?_range hi, List.getElem?_eq_getElem hi]
    simp [hi]
  · rw [List.getElem?_eq_none (by omega), List.getElem?_eq_none (by simpa using hi)]
    rfl

namespace Body

variable {b : Body} {k : GraphKind} {i j : Nat} {x : Instr}

theorem find?_lt {l : Bytes} (h : b.find? l = some i) : i < b.size := siteOf?_lt h

theorem lt_of_getElem? (hx : b.instrs[i]? = some x) : i < b.size :=
  (List.getElem?_eq_some_iff.mp hx).1

theorem exists_getElem? (h : i < b.size) : ∃ x, b.instrs[i]? = some x :=
  ⟨_, List.getElem?_eq_getElem h⟩

theorem length_succTable (b : Body) (k : GraphKind) : (b.succTable k).length = b.size := by
  simp [succTable, size]

theorem succs_eq (hx : b.instrs[i]? = some x) :
    (b.flowGraph k).succs i =
      distinct (b.fallSuccs i x ++ b.jumpSuccs x ++ trapSuccs (b.activeTraps k) i) := by
  change ((b.succTable k)[i]?).getD [] = _
  simp [succTable, List.getElem?_zipIdx, hx]

theorem succs_eq_nil (h : b.size ≤ i) : (b.flowGraph k).succs i = [] := by
  change ((b.succTable k)[i]?).getD [] = _
  rw [List.getElem?_eq_none (by rw [length_succTable]; exact h)]
  rfl

theorem branches_eq (hx : b.instrs[i]? = some x) : (b.flowGraph k).branches i = x.branches := by
  change ((b.instrs[i]?.map Instr.branches).getD false) = _
  rw [hx]
  rfl

theorem falls_eq (hx : b.instrs[i]? = some x) : (b.flowGraph k).falls i = x.fallsThrough := by
  change ((b.instrs[i]?.map Instr.fallsThrough).getD false) = _
  rw [hx]
  rfl

theorem mem_handlers_of_active {r : TrapRange} (h : r ∈ b.activeTraps k) : r.handler ∈ b.handlers := by
  cases k with
  | brief => exact absurd h List.not_mem_nil
  | exceptional =>
      obtain ⟨t, ht, hr⟩ := List.mem_filterMap.mp h
      refine List.mem_filterMap.mpr ⟨t, ht, ?_⟩
      cases hrange : t.range (labelSites b.instrs) b.size with
      | error e => rw [hrange] at hr; cases hr
      | ok r' =>
          rw [hrange] at hr
          cases hr
          exact (Trap.range_eq_ok hrange).2.2.1

theorem handlers_lt (h : i ∈ b.handlers) : i < b.size := by
  obtain ⟨t, -, ht⟩ := List.mem_filterMap.mp h
  exact find?_lt ht

theorem mem_trapSuccs (h : j ∈ trapSuccs (b.activeTraps k) i) : j ∈ b.handlers := by
  obtain ⟨r, hr, rfl⟩ := List.mem_map.mp h
  exact mem_handlers_of_active (List.mem_filter.mp hr).1

theorem mem_fallSuccs : j ∈ b.fallSuccs i x ↔ x.fallsThrough = true ∧ i + 1 < b.size ∧ j = i + 1 := by
  unfold fallSuccs
  split
  · next h =>
      simp only [Bool.and_eq_true, decide_eq_true_eq] at h
      simp [h]
  · next h =>
      simp only [Bool.and_eq_true, decide_eq_true_eq] at h
      simp only [List.not_mem_nil, false_iff]
      exact fun hj => h ⟨hj.1, hj.2.1⟩

/-- An edge falls to the next position, jumps to a label, or goes to a handler. -/
theorem mem_succs (hx : b.instrs[i]? = some x) :
    j ∈ (b.flowGraph k).succs i ↔
      j ∈ b.fallSuccs i x ∨ j ∈ b.jumpSuccs x ∨ j ∈ trapSuccs (b.activeTraps k) i := by
  rw [succs_eq hx, mem_distinct, List.mem_append, List.mem_append, or_assoc]

theorem succs_lt (h : j ∈ (b.flowGraph k).succs i) : i < b.size ∧ j < b.size := by
  by_cases hi : i < b.size
  · refine ⟨hi, ?_⟩
    obtain ⟨x, hx⟩ := exists_getElem? hi
    rcases (mem_succs hx).mp h with hj | hj | hj
    · obtain ⟨-, hlt, rfl⟩ := mem_fallSuccs.mp hj
      exact hlt
    · obtain ⟨l, -, hl⟩ := List.mem_filterMap.mp hj
      exact find?_lt hl
    · exact handlers_lt (mem_trapSuccs hj)
  · rw [succs_eq_nil (by omega)] at h
    exact absurd h List.not_mem_nil

theorem getElem?_addPreds (preds : List (List Nat)) (i : Nat) {succs : List Nat} (h : succs.Nodup) (j : Nat) :
    (addPreds preds i succs)[j]? = preds[j]?.map fun ps => if j ∈ succs then ps ++ [i] else ps := by
  induction succs generalizing preds with
  | nil => simp [addPreds]
  | cons s succs ih =>
      obtain ⟨hs, hrest⟩ := List.nodup_cons.mp h
      change (addPreds (preds.modify s (· ++ [i])) i succs)[j]? = _
      rw [ih _ hrest, List.getElem?_modify]
      by_cases hj : s = j
      · -- `s` does not come again, so it gets `i` only now.
        subst hj
        simp [hs, Function.comp_def]
      · simp [hj, Ne.symm hj]

/-- The pass adds to the list of every position those looked at that lead there, in order. -/
theorem getElem?_foldl_addPreds (rows : List (List Nat × Nat)) (h : ∀ row ∈ rows, row.1.Nodup)
    (preds : List (List Nat)) (j : Nat) :
    (rows.foldl (fun preds (ss, i) => addPreds preds i ss) preds)[j]? =
      preds[j]?.map (· ++ (rows.filter fun row => row.1.contains j).map Prod.snd) := by
  induction rows generalizing preds with
  | nil => simp
  | cons row rows ih =>
      rw [List.foldl_cons, ih fun row' hrow => h row' (List.mem_cons_of_mem row hrow),
        getElem?_addPreds preds row.2 (h row List.mem_cons_self), Option.map_map]
      refine congrArg (Option.map · preds[j]?) (funext fun ps => ?_)
      by_cases hj : j ∈ row.1 <;> simp [hj]

theorem predTable_eq {table : List (List Nat)} (h : ∀ ss ∈ table, ss.Nodup) :
    predTable table = (List.range table.length).map fun j =>
      (List.range table.length).filter fun i => (table[i]?.getD []).contains j := by
  apply List.ext_getElem?
  intro j
  have hrows : ∀ row ∈ table.zipIdx, row.1.Nodup := fun row hrow => h row.1 (List.fst_mem_of_mem_zipIdx hrow)
  rw [predTable, getElem?_foldl_addPreds _ hrows, zipIdx_eq_map_range table [], List.filter_map, List.map_map,
    List.getElem?_map]
  by_cases hj : j < table.length
  · rw [List.getElem?_range hj, List.getElem?_replicate, if_pos hj]
    exact congrArg some (List.map_id _)
  · rw [List.getElem?_eq_none (by simpa using hj), List.getElem?_eq_none (by simpa using hj)]
    rfl

theorem succTable_nodup (b : Body) (k : GraphKind) : ∀ ss ∈ b.succTable k, ss.Nodup := by
  intro ss hss
  obtain ⟨⟨x, i⟩, -, rfl⟩ := List.mem_map.mp hss
  exact distinct_nodup _

theorem succs_nodup (b : Body) (k : GraphKind) (i : Nat) : ((b.flowGraph k).succs i).Nodup := by
  change (((b.succTable k)[i]?).getD []).Nodup
  cases hrow : (b.succTable k)[i]? with
  | none => exact List.nodup_nil
  | some ss => exact succTable_nodup b k ss (List.mem_of_getElem? hrow)

theorem predTable_succTable (b : Body) (k : GraphKind) :
    predTable (b.succTable k) = (List.range b.size).map fun j =>
      (List.range b.size).filter fun i => ((b.flowGraph k).succs i).contains j := by
  rw [predTable_eq (succTable_nodup b k), length_succTable]
  rfl

theorem preds_eq (b : Body) (k : GraphKind) (j : Nat) :
    (b.flowGraph k).preds j =
      (List.range b.size).filter fun i => ((b.flowGraph k).succs i).contains j := by
  change ((predTable (b.succTable k))[j]?).getD [] = _
  rw [predTable_succTable, List.getElem?_map]
  by_cases hj : j < b.size
  · rw [List.getElem?_range hj]
    rfl
  · rw [List.getElem?_eq_none (by simpa using hj)]
    symm
    refine List.filter_eq_nil_iff.mpr fun i _ hc => hj ?_
    exact (succs_lt (List.contains_iff_mem.mp hc)).2

theorem mem_tails : i ∈ (b.flowGraph k).tails ↔
    ∃ x, b.instrs[i]? = some x ∧ b.fallSuccs i x ++ b.jumpSuccs x = [] := by
  change i ∈ b.exits ↔ _
  simp only [exits, List.mem_map, List.mem_filter, List.mem_zipIdx_iff_getElem?, List.isEmpty_iff]
  constructor
  · rintro ⟨⟨x, i⟩, ⟨hx, hs⟩, rfl⟩
    exact ⟨x, hx, hs⟩
  · rintro ⟨x, hx, hs⟩
    exact ⟨(x, i), ⟨hx, hs⟩, rfl⟩

theorem heads_eq (b : Body) (k : GraphKind) :
    (b.flowGraph k).heads = (List.range b.size).filter fun i =>
      i = 0 ∨ (b.flowGraph k).preds i = [] ∧ (k = .exceptional → i ∉ b.handlers) := by
  have hpreds : (predTable (b.succTable k)).zipIdx =
      (List.range b.size).map fun i => ((b.flowGraph k).preds i, i) := by
    rw [zipIdx_eq_map_range _ [], predTable_succTable, List.length_map, List.length_range, ← predTable_succTable]
    rfl
  have hentries : ∀ leftOut : List Nat, entries leftOut (predTable (b.succTable k)) =
      (List.range b.size).filter fun i => i = 0 ∨ (b.flowGraph k).preds i = [] ∧ i ∉ leftOut := by
    intro leftOut
    rw [entries, hpreds, List.filter_map, List.map_map]
    refine (List.map_id _).trans (List.filter_congr fun i _ => ?_)
    rw [Bool.eq_iff_iff]
    simp [and_comm]
  cases k with
  | brief =>
      refine (hentries []).trans ?_
      simp
  | exceptional =>
      refine (hentries b.handlers).trans ?_
      simp

theorem mem_heads : i ∈ (b.flowGraph k).heads ↔ i < b.size ∧
    (i = 0 ∨ (b.flowGraph k).preds i = [] ∧ (k = .exceptional → i ∉ b.handlers)) := by
  rw [heads_eq, List.mem_filter, List.mem_range, decide_eq_true_eq]

section Sound

variable (h : b.Sound)
include h

theorem jumpSuccs_eq_nil (hx : b.instrs[i]? = some x) : b.jumpSuccs x = [] ↔ x.branches = false := by
  have hmem := List.mem_of_getElem? hx
  constructor
  · intro hj
    by_contra hb
    obtain ⟨l, ls, hl⟩ := List.exists_cons_of_ne_nil ((h.shaped x hmem).mp (by simpa using hb))
    obtain ⟨t, ht⟩ := h.resolved x hmem l (by simp [hl])
    simp [jumpSuccs, hl, ht] at hj
  · intro hb
    have ht : x.targets = [] := by
      by_contra hne
      rw [(h.shaped x hmem).mpr hne] at hb
      cases hb
    simp [jumpSuccs, ht]

theorem succ_lt_of_falls (hx : b.instrs[i]? = some x) (hf : x.fallsThrough = true) : i + 1 < b.size := by
  have hi := lt_of_getElem? hx
  by_contra hge
  have hlast : b.instrs.getLast? = some x := by
    rw [List.getLast?_eq_getElem?, ← hx]
    congr 1
    rw [size] at hi hge
    omega
  rw [h.closed x hlast] at hf
  cases hf

theorem fallSuccs_of_falls (hx : b.instrs[i]? = some x) (hf : x.fallsThrough = true) :
    b.fallSuccs i x = [i + 1] := by
  simp [fallSuccs, hf, succ_lt_of_falls h hx hf]

theorem fallSuccs_eq_nil (hx : b.instrs[i]? = some x) : b.fallSuccs i x = [] ↔ x.fallsThrough = false := by
  constructor
  · intro hn
    by_contra hf
    rw [fallSuccs_of_falls h hx (by simpa using hf)] at hn
    cases hn
  · intro hf
    simp [fallSuccs, hf]

/-- What does not branch leads to the next position or to a handler. -/
theorem mem_plain_succs (hj : j ∈ (b.flowGraph k).succs i) (hb : (b.flowGraph k).branches i = false) :
    j ∈ trapSuccs (b.activeTraps k) i ∨ (b.flowGraph k).falls i = true ∧ j = i + 1 := by
  obtain ⟨x, hx⟩ := exists_getElem? (succs_lt hj).1
  rw [branches_eq hx, ← jumpSuccs_eq_nil h hx] at hb
  rcases (mem_succs hx).mp hj with hj | hj | hj
  · obtain ⟨hf, -, hv⟩ := mem_fallSuccs.mp hj
    exact Or.inr ⟨(falls_eq hx).trans hf, hv⟩
  · rw [hb] at hj
    exact absurd hj List.not_mem_nil
  · exact Or.inl hj

theorem mem_plain_succs_brief (hj : j ∈ (b.flowGraph .brief).succs i)
    (hb : (b.flowGraph .brief).branches i = false) : (b.flowGraph .brief).falls i = true ∧ j = i + 1 :=
  (mem_plain_succs h hj hb).resolve_left List.not_mem_nil

/-- Both graphs of a sound body are regular. -/
theorem flowGraph_regular (k : GraphKind) : (b.flowGraph k).Regular b.size b.handlers where
  units := rfl
  handlers_lt := fun _ => handlers_lt
  succs_lt := fun _ _ => succs_lt
  succs_nodup := succs_nodup b k
  preds := preds_eq b k
  falls := by
    intro u hu hf
    obtain ⟨x, hx⟩ := exists_getElem? hu
    rw [falls_eq hx] at hf
    refine ⟨succ_lt_of_falls h hx hf, ?_⟩
    rw [succs_eq hx, fallSuccs_of_falls h hx hf, List.append_assoc, List.singleton_append, distinct_cons]
    exact ⟨_, rfl⟩
  jumps := by
    intro u hu hb _ hs
    obtain ⟨x, hx⟩ := exists_getElem? hu
    rw [branches_eq hx] at hb
    rw [succs_eq hx, distinct_eq_nil, List.append_eq_nil_iff, List.append_eq_nil_iff,
      jumpSuccs_eq_nil h hx, hb] at hs
    cases hs.1.2
  plain := by
    intro u v hv hb
    exact (mem_plain_succs h hv hb).imp_left mem_trapSuccs
  tails := by
    intro u
    rw [mem_tails]
    constructor
    · rintro ⟨x, hx, hs⟩
      obtain ⟨hfall, hjump⟩ := List.append_eq_nil_iff.mp hs
      rw [branches_eq hx, falls_eq hx]
      exact ⟨lt_of_getElem? hx, (jumpSuccs_eq_nil h hx).mp hjump, (fallSuccs_eq_nil h hx).mp hfall⟩
    · rintro ⟨hu, hb, hf⟩
      obtain ⟨x, hx⟩ := exists_getElem? hu
      rw [branches_eq hx] at hb
      rw [falls_eq hx] at hf
      exact ⟨x, hx, by rw [(fallSuccs_eq_nil h hx).mpr hf, (jumpSuccs_eq_nil h hx).mpr hb]; rfl⟩
  heads_only := by
    intro u hu
    obtain ⟨hlt, hz | hp⟩ := mem_heads.mp hu
    · exact ⟨hlt, Or.inl hz⟩
    · exact ⟨hlt, Or.inr hp.1⟩
  heads_all := by
    intro u hu hp hh
    exact mem_heads.mpr ⟨hu, Or.inr ⟨hp, fun _ => hh⟩⟩

end Sound

end Body

end FlowBlocks
