import FlowBlocks.Proofs.BlockFlow.Traced
import FlowBlocks.Proofs.BlockFlow.Wiring
/-!
When a construction fails, and over what. Every fault stands for a condition on the graph and its leaders
that is said here without the construction (`FlowGraph.Meets`). The conditions are looked at in stages;
`Staged` follows a computation through them, and binding two computations puts their stages one behind the
other. With distinct units a graph is built exactly if it meets all conditions, and a failure names one that
it does not meet, all earlier stages being met.
-/
namespace FlowBlocks

/-- The faults by the stage that finds them. Blocks are wired one by one, so the last two may come in
either order. -/
def Fault.stages : List (List Fault) :=
  [[.emptyBody], [.firstNotLeader], [.headInside], [.tailInside], [.danglingEdge, .noSuccessors]]

/-- A computation that checks conditions stage by stage: where it succeeds all of them hold, and where it
fails it names one that does not, while those of the stages before hold. -/
def Staged {U α : Type} (P : Fault → Prop) (stages : List (List Fault)) :
    Except (BuildError U) α → Prop
  | .ok _ => ∀ fault ∈ stages.flatten, P fault
  | .error e => ∃ before stage after, stages = before ++ stage :: after ∧
      (∀ fault ∈ before.flatten, P fault) ∧ e.fault ∈ stage ∧ ¬P e.fault

section Staged

variable {U α β : Type} {P : Fault → Prop} {front back : List (List Fault)}

theorem Staged.bind {x : Except (BuildError U) α} {f : α → Except (BuildError U) β}
    (hx : Staged P front x) (hf : ∀ a, x = .ok a → Staged P back (f a)) :
    Staged P (front ++ back) (x >>= f) := by
  cases x with
  | error e =>
      obtain ⟨before, stage, after, rfl, hmet, hmem, hnot⟩ := hx
      exact ⟨before, stage, after ++ back, by simp, hmet, hmem, hnot⟩
  | ok a =>
      have hfront : ∀ fault ∈ front.flatten, P fault := hx
      have hback := hf a rfl
      change Staged P (front ++ back) (f a)
      cases hfa : f a with
      | error e =>
          rw [hfa] at hback
          obtain ⟨before, stage, after, rfl, hmet, hmem, hnot⟩ := hback
          refine ⟨front ++ before, stage, after, by simp, ?_, hmem, hnot⟩
          intro fault hfault
          rw [List.flatten_append] at hfault
          exact (List.mem_append.mp hfault).elim (hfront fault) (hmet fault)
      | ok b =>
          rw [hfa] at hback
          intro fault hfault
          rw [List.flatten_append] at hfault
          exact (List.mem_append.mp hfault).elim (hfront fault) (hback fault)

theorem staged_pure (a : α) : Staged (U := U) P [] (.ok a) := by
  intro fault hfault
  cases hfault

/-- A stage of its own that succeeds where its condition holds and fails for it otherwise. -/
theorem staged_single {x : Except (BuildError U) α} {fault : Fault} (hok : P fault → ∃ a, x = .ok a)
    (herr : ¬P fault → ∃ e, x = .error e ∧ e.fault = fault) : Staged P [[fault]] x := by
  by_cases h : P fault
  · obtain ⟨a, rfl⟩ := hok h
    intro k hk
    have hk : k = fault := by simpa using hk
    rw [hk]
    exact h
  · obtain ⟨e, rfl, he⟩ := herr h
    exact ⟨[], [fault], [], rfl, by simp, by simp [he], by rwa [he]⟩

end Staged

variable {U : Type} [DecidableEq U]

/-- The units a run leads to: the one its last unit falls to, then the jump targets of its branches. -/
def FlowGraph.leads (g : FlowGraph U) (r : Run U) : List U :=
  (if g.falls r.tail then (g.succs r.tail).take 1 else []) ++
    (r.units.filter g.branches).flatMap (jumpTargets g)

/-- The condition whose failure a fault reports, for the runs that the leaders cut the units into. -/
def FlowGraph.Meets (g : FlowGraph U) (leaders : List U) : Fault → Prop
  | .emptyBody => g.units ≠ []
  | .firstNotLeader => ∀ u, g.units.head? = some u → u ∈ leaders
  | .headInside => ∀ u ∈ g.heads, ∃ r ∈ cutAt leaders.contains g.units, r.head = u
  | .tailInside => ∀ u ∈ g.tails, ∃ r ∈ cutAt leaders.contains g.units, r.tail = u
  | .danglingEdge =>
    (∀ r ∈ cutAt leaders.contains g.units, ∀ u ∈ g.preds r.head, u ∈ g.units) ∧
    (∀ u ∈ g.units, g.branches u = true → ∀ t ∈ jumpTargets g u, t ∈ g.units) ∧
    ∀ r ∈ cutAt leaders.contains g.units, g.falls r.tail = true →
      ∃ t, (g.succs r.tail).head? = some t ∧ t ∈ g.units
  | .noSuccessors => ∀ r ∈ cutAt leaders.contains g.units, g.leads r = [] → r.tail ∈ g.tails
  | .other _ => True

section Cut

variable {g : FlowGraph U} {leaders : List U}

/-- The cut at the leaders has two stages of its own. -/
theorem partition_staged :
    Staged (g.Meets leaders) [[.emptyBody], [.firstNotLeader]] (partition leaders g.units) := by
  cases hunits : g.units with
  | nil =>
      refine ⟨[], [.emptyBody], [[.firstNotLeader]], rfl, by simp, List.mem_cons_self, ?_⟩
      exact fun hne => hne hunits
  | cons u us =>
      have hne : g.Meets leaders .emptyBody := by
        change g.units ≠ []
        simp [hunits]
      by_cases hu : leaders.contains u = true
      · rw [partition, if_pos hu]
        intro fault hfault
        have hcase : fault = .emptyBody ∨ fault = .firstNotLeader := by simpa using hfault
        rcases hcase with rfl | rfl
        · exact hne
        · intro v hv
          rw [hunits] at hv
          cases hv
          exact List.contains_iff_mem.mp hu
      · rw [partition, if_neg hu]
        refine ⟨[[.emptyBody]], [.firstNotLeader], [], rfl, by simpa using hne, List.mem_cons_self, ?_⟩
        exact fun hfirst => hu (List.contains_iff_mem.mpr (hfirst u (by rw [hunits]; rfl)))

end Cut

section Wire

variable {isLeader : U → Bool} {g : FlowGraph U} {blocks : List (Block U)} {b : Block U} {u : U}

theorem ownerIn?_eq_none (ht : Tiling isLeader g.units blocks) (hnd : g.units.Nodup) :
    ownerIn? blocks u = none ↔ u ∉ g.units := by
  constructor
  · intro ho hu
    obtain ⟨b, -, -, hb⟩ := ht.exists_owner hnd hu
    rw [ho] at hb
    cases hb
  · intro hu
    cases ho : ownerIn? blocks u with
    | none => rfl
    | some b => exact absurd (ht.mem_units.mpr ⟨b, (ht.ownerIn?_eq_some_iff hnd).mp ho⟩) hu

/-- The loop over entries, and the one over exits, fails in its own way if some unit passes in no block. -/
theorem owners_fail (test : U → Block U → Prop) [∀ u b, Decidable (test u b)] {us : List U}
    {fault : Fault} {outside : U → BuildError U} {inside : U → Block U → BuildError U}
    (houtside : ∀ u, (outside u).fault = fault) (hinside : ∀ u b, (inside u b).fault = fault)
    (h : ¬∀ u ∈ us, ∃ b ∈ blocks, test u b) :
    ∃ e, (us.foldlM (fun seen u =>
      match ownerIn? blocks u with
      | none => .error (outside u)
      | some b => if test u b then .ok (addIndex seen b.index) else .error (inside u b)) [] :
        Except (BuildError U) (List Nat)) = .error e ∧ e.fault = fault := by
  push Not at h
  obtain ⟨u, hu, hnone⟩ := h
  apply foldlM_fails
  · refine ⟨u, hu, fun seen seen' hstep => ?_⟩
    split at hstep
    · cases hstep
    · next b ho =>
        rw [if_neg (hnone b (List.mem_reverse.mp (List.mem_of_find?_eq_some ho)))] at hstep
        cases hstep
  · intro v _ seen e hstep
    split at hstep
    · cases hstep
      exact houtside v
    · split at hstep
      · cases hstep
      · cases hstep
        exact hinside v _

/-- A loop over the ends of edges fails with a dangling edge if one of them lies in no block. -/
theorem ends_fail (ht : Tiling isLeader g.units blocks) (hnd : g.units.Nodup) {α : Type} {xs : List α}
    (target : α → U) (dangling : α → BuildError U) (hdangling : ∀ x, (dangling x).fault = .danglingEdge)
    (h : ¬∀ x ∈ xs, target x ∈ g.units) :
    ∃ e, (xs.mapM (fun x =>
      match ownerIn? blocks (target x) with
      | some c => .ok c.index
      | none => .error (dangling x)) : Except (BuildError U) (List Nat)) = .error e ∧
        e.fault = .danglingEdge := by
  push Not at h
  obtain ⟨x, hx, hout⟩ := h
  apply mapM_fails
  · refine ⟨x, hx, fun i hi => ?_⟩
    rw [(ownerIn?_eq_none ht hnd).mpr hout] at hi
    cases hi
  · intro y _ e hy
    split at hy
    · cases hy
    · cases hy
      exact hdangling y

theorem wirePreds_fails (ht : Tiling isLeader g.units blocks) (hnd : g.units.Nodup)
    (h : ¬∀ u ∈ g.preds b.head, u ∈ g.units) :
    ∃ e, wirePreds g blocks b = .error e ∧ e.fault = .danglingEdge :=
  ends_fail ht hnd id (fun u => .danglingPred u b.index b.head) (fun _ => rfl) h

theorem wireJumps_fails (ht : Tiling isLeader g.units blocks) (hnd : g.units.Nodup)
    (h : ¬∀ u ∈ b.units, g.branches u = true → ∀ t ∈ jumpTargets g u, t ∈ g.units) :
    ∃ e, wireJumps g blocks b = .error e ∧ e.fault = .danglingEdge := by
  refine ends_fail ht hnd Prod.fst (fun tu => .danglingTarget tu.1 b.index tu.2) (fun _ => rfl) ?_
  intro hall
  refine h fun u hu hbr t htu => hall (t, u) (List.mem_flatMap.mpr ⟨u, ?_, ?_⟩)
  · exact List.mem_filter.mpr ⟨hu, hbr⟩
  · exact List.mem_map.mpr ⟨t, htu, rfl⟩

theorem wireFall_fails (ht : Tiling isLeader g.units blocks) (hnd : g.units.Nodup)
    (h : ¬(g.falls b.tail = true → ∃ t, (g.succs b.tail).head? = some t ∧ t ∈ g.units)) :
    ∃ e, wireFall g blocks b = .error e ∧ e.fault = .danglingEdge := by
  obtain ⟨hf, hnone⟩ := Classical.not_imp.mp h
  rw [wireFall, if_pos hf]
  cases hs : g.succs b.tail with
  | nil => exact ⟨_, rfl, rfl⟩
  | cons t ts =>
      have hout : t ∉ g.units := fun hmem => hnone ⟨t, by rw [hs]; rfl, hmem⟩
      dsimp only
      rw [(ownerIn?_eq_none ht hnd).mpr hout]
      exact ⟨_, rfl, rfl⟩

/-- The blocks a block leads to are those of the units its run leads to. -/
theorem blockSuccs_eq (g : FlowGraph U) (blocks : List (Block U)) (b : Block U) :
    blockSuccs g blocks b = (g.leads b.toRun).map (blockOf blocks) := by
  rw [blockSuccs, blockFall, blockJumps, FlowGraph.leads, List.map_append, List.map_flatMap]
  split <;> rfl

/-- Where exits close blocks, a block is an exit exactly if its last unit is one. -/
theorem index_mem_tails (ht : Tiling isLeader g.units blocks) (hnd : g.units.Nodup)
    (htails : ∀ u ∈ g.tails, ∃ c ∈ blocks, c.tail = u) (hb : b ∈ blocks) :
    b.index ∈ distinct (g.tails.map (blockOf blocks)) ↔ b.tail ∈ g.tails := by
  rw [mem_distinct, List.mem_map]
  constructor
  · rintro ⟨u, hu, hof⟩
    obtain ⟨c, hc, rfl⟩ := htails u hu
    rw [blockOf_eq ht hnd hc c.tail_mem] at hof
    rwa [← ht.ext_index hc hb hof]
  · intro h
    exact ⟨b.tail, h, blockOf_eq ht hnd hb b.tail_mem⟩

/-- No edge at a run leads out of the body. -/
structure FlowGraph.Anchored (g : FlowGraph U) (r : Run U) : Prop where
  preds : ∀ u ∈ g.preds r.head, u ∈ g.units
  jumps : ∀ u ∈ r.units, g.branches u = true → ∀ t ∈ jumpTargets g u, t ∈ g.units
  falls : g.falls r.tail = true → ∃ t, (g.succs r.tail).head? = some t ∧ t ∈ g.units

/-- A block is wired if its edges stay inside and it is an exit where it leads nowhere; otherwise the
failure says which of the two is amiss. -/
theorem wireBlock_outcome (ht : Tiling isLeader g.units blocks) (hnd : g.units.Nodup)
    (htails : ∀ u ∈ g.tails, ∃ c ∈ blocks, c.tail = u) (hb : b ∈ blocks) :
    (∃ c, wireBlock g blocks (distinct (g.tails.map (blockOf blocks))) b = .ok c ∧
      g.Anchored b.toRun ∧ (g.leads b.toRun = [] → b.tail ∈ g.tails)) ∨
    ∃ e, wireBlock g blocks (distinct (g.tails.map (blockOf blocks))) b = .error e ∧
      (e.fault = .danglingEdge ∧ ¬g.Anchored b.toRun ∨
        e.fault = .noSuccessors ∧ ¬(g.leads b.toRun = [] → b.tail ∈ g.tails)) := by
  rw [wireBlock]
  by_cases hpreds : ∀ u ∈ g.preds b.head, u ∈ g.units
  case neg =>
    obtain ⟨e, he, hfault⟩ := wirePreds_fails ht hnd hpreds
    rw [he]
    exact Or.inr ⟨e, rfl, Or.inl ⟨hfault, fun h => hpreds h.preds⟩⟩
  by_cases hjumps : ∀ u ∈ b.units, g.branches u = true → ∀ t ∈ jumpTargets g u, t ∈ g.units
  case neg =>
    obtain ⟨e, he, hfault⟩ := wireJumps_fails ht hnd hjumps
    rw [wirePreds_eq_ok ht hnd hpreds, he]
    exact Or.inr ⟨e, rfl, Or.inl ⟨hfault, fun h => hjumps h.jumps⟩⟩
  by_cases hfalls : g.falls b.tail = true → ∃ t, (g.succs b.tail).head? = some t ∧ t ∈ g.units
  case neg =>
    obtain ⟨e, he, hfault⟩ := wireFall_fails ht hnd hfalls
    rw [wirePreds_eq_ok ht hnd hpreds, wireJumps_eq_ok ht hnd hjumps, he]
    exact Or.inr ⟨e, rfl, Or.inl ⟨hfault, fun h => hfalls h.falls⟩⟩
  have hfalls' : g.falls b.tail = true → ∃ t ts, g.succs b.tail = t :: ts ∧ t ∈ g.units := by
    intro hf
    obtain ⟨t, hhead, hmem⟩ := hfalls hf
    obtain ⟨ts, hts⟩ := List.head?_eq_some_iff.mp hhead
    exact ⟨t, ts, hts, hmem⟩
  rw [wirePreds_eq_ok ht hnd hpreds, wireJumps_eq_ok ht hnd hjumps, wireFall_eq_ok ht hnd hfalls']
  have hindex := index_mem_tails ht hnd htails hb
  have hnil : blockSuccs g blocks b = [] ↔ g.leads b.toRun = [] := by
    rw [blockSuccs_eq, List.map_eq_nil_iff]
  generalize distinct (g.tails.map (blockOf blocks)) = tails at hindex ⊢
  change (∃ c, (if ((blockSuccs g blocks b).isEmpty && !tails.contains b.index) = true then _ else _) = _ ∧
    _) ∨ ∃ e, (if ((blockSuccs g blocks b).isEmpty && !tails.contains b.index) = true then _ else _) = _ ∧ _
  split
  · next hbad =>
      refine Or.inr ⟨_, rfl, Or.inr ⟨rfl, fun hexit => ?_⟩⟩
      obtain ⟨hempty, hout⟩ : blockSuccs g blocks b = [] ∧ b.index ∉ tails := by simpa using hbad
      exact hout (hindex.mpr (hexit (hnil.mp hempty)))
  · next hgood =>
      refine Or.inl ⟨_, rfl, ⟨hpreds, hjumps, hfalls⟩, fun hempty => hindex.mp ?_⟩
      have hin : blockSuccs g blocks b = [] → b.index ∈ tails := by simpa using hgood
      exact hin (hnil.mpr hempty)

end Wire

section Build

variable {g : FlowGraph U} {leaders : List U} {blocks : List (Block U)}

/-- The conditions on edges, block by block. -/
theorem meets_danglingEdge (ht : Tiling leaders.contains g.units blocks)
    (hruns : blocks.map Block.toRun = cutAt leaders.contains g.units) :
    g.Meets leaders .danglingEdge ↔ ∀ b ∈ blocks, g.Anchored b.toRun := by
  simp only [FlowGraph.Meets, ← hruns, List.forall_mem_map]
  constructor
  · rintro ⟨hpreds, hjumps, hfalls⟩ b hb
    exact ⟨hpreds b hb, fun u hu => hjumps u (ht.mem_units.mpr ⟨b, hb, hu⟩), hfalls b hb⟩
  · intro h
    refine ⟨fun b hb => (h b hb).preds, fun u hu => ?_, fun b hb => (h b hb).falls⟩
    obtain ⟨b, hb, hub⟩ := ht.mem_units.mp hu
    exact (h b hb).jumps u hub

theorem meets_noSuccessors (hruns : blocks.map Block.toRun = cutAt leaders.contains g.units) :
    g.Meets leaders .noSuccessors ↔ ∀ b ∈ blocks, g.leads b.toRun = [] → b.tail ∈ g.tails := by
  simp only [FlowGraph.Meets, ← hruns, List.forall_mem_map]

theorem meets_headInside (hruns : blocks.map Block.toRun = cutAt leaders.contains g.units) :
    g.Meets leaders .headInside ↔ ∀ u ∈ g.heads, ∃ b ∈ blocks, b.head = u := by
  simp only [FlowGraph.Meets, ← hruns, List.mem_map, exists_exists_and_eq_and]

theorem meets_tailInside (hruns : blocks.map Block.toRun = cutAt leaders.contains g.units) :
    g.Meets leaders .tailInside ↔ ∀ u ∈ g.tails, ∃ b ∈ blocks, b.tail = u := by
  simp only [FlowGraph.Meets, ← hruns, List.mem_map, exists_exists_and_eq_and]

theorem wireBlocks_staged (ht : Tiling leaders.contains g.units blocks) (hnd : g.units.Nodup)
    (hruns : blocks.map Block.toRun = cutAt leaders.contains g.units)
    (htails : ∀ u ∈ g.tails, ∃ c ∈ blocks, c.tail = u) :
    Staged (g.Meets leaders) [[.danglingEdge, .noSuccessors]]
      (blocks.mapM (wireBlock g blocks (distinct (g.tails.map (blockOf blocks))))) := by
  have outcome := fun b hb => wireBlock_outcome (b := b) ht hnd htails hb
  rcases mapM_outcome (wireBlock g blocks (distinct (g.tails.map (blockOf blocks)))) blocks with
    ⟨wired, hrun, hall⟩ | ⟨b, hb, e, he, hrun⟩
  · rw [hrun]
    have hblock : ∀ b ∈ blocks, g.Anchored b.toRun ∧ (g.leads b.toRun = [] → b.tail ∈ g.tails) := by
      intro b hb
      obtain ⟨c, hc⟩ := hall b hb
      rcases outcome b hb with ⟨-, -, hgood⟩ | ⟨e, he, -⟩
      · exact hgood
      · rw [hc] at he
        cases he
    intro fault hfault
    have hcase : fault = .danglingEdge ∨ fault = .noSuccessors := by simpa using hfault
    rcases hcase with rfl | rfl
    · exact (meets_danglingEdge ht hruns).mpr fun b hb => (hblock b hb).1
    · exact (meets_noSuccessors hruns).mpr fun b hb => (hblock b hb).2
  · rw [hrun]
    refine ⟨[], _, [], rfl, by simp, ?_⟩
    rcases outcome b hb with ⟨c, hc, -⟩ | ⟨e', he', hcause⟩
    · rw [he] at hc
      cases hc
    · rw [he] at he'
      cases he'
      rcases hcause with ⟨hfault, hnot⟩ | ⟨hfault, hnot⟩
      · rw [hfault, meets_danglingEdge ht hruns]
        exact ⟨by simp, fun h => hnot (h b hb)⟩
      · rw [hfault, meets_noSuccessors hruns]
        exact ⟨by simp, fun h => hnot (h b hb)⟩

theorem wire_staged (ht : Tiling leaders.contains g.units blocks) (hnd : g.units.Nodup)
    (hruns : blocks.map Block.toRun = cutAt leaders.contains g.units) :
    Staged (g.Meets leaders) [[.headInside], [.tailInside], [.danglingEdge, .noSuccessors]]
      (wire g blocks) := by
  have hheads : Staged (g.Meets leaders) [[.headInside]] (headBlocks g blocks) := by
    apply staged_single
    · intro h
      exact ⟨_, headBlocks_eq_ok ht hnd ((meets_headInside hruns).mp h)⟩
    · intro h
      exact owners_fail (fun u b => b.head = u) (fun _ => rfl) (fun _ _ => rfl)
        (mt (meets_headInside hruns).mpr h)
  have htails : Staged (g.Meets leaders) [[.tailInside]] (tailBlocks g blocks) := by
    apply staged_single
    · intro h
      exact ⟨_, tailBlocks_eq_ok ht hnd ((meets_tailInside hruns).mp h)⟩
    · intro h
      exact owners_fail (fun u b => b.tail = u) (fun _ => rfl) (fun _ _ => rfl)
        (mt (meets_tailInside hruns).mpr h)
  refine hheads.bind fun heads _ => htails.bind fun tails hok => ?_
  -- the exits found are the blocks of the exits, because this stage has passed
  have hclose : ∀ u ∈ g.tails, ∃ c ∈ blocks, c.tail = u := by
    rw [hok] at htails
    exact (meets_tailInside hruns).mp (htails _ (by simp))
  rw [tailBlocks_eq_ok ht hnd hclose] at hok
  cases hok
  exact (wireBlocks_staged ht hnd hruns hclose).bind fun wired _ => staged_pure _

theorem build_staged (rule : LeaderRule U) (g : FlowGraph U) (handlers : List U)
    (hnd : g.units.Nodup) :
    Staged (g.Meets (rule g handlers)) Fault.stages (build rule g handlers) := by
  refine partition_staged.bind fun blocks hpart => ?_
  unfold partition at hpart
  split at hpart
  · cases hpart
  · next u us hunits =>
      split at hpart
      · next hu =>
          cases hpart
          refine wire_staged ?_ hnd (placeRuns_runs 0 0 _)
          rw [hunits]
          exact tiling_of_leader hu
      · cases hpart

end Build

/-- A graph with distinct units, any handlers and any rule: it is built exactly if it meets every condition.
Otherwise there is no result but a failure over a condition that it does not meet, and the conditions of all
stages before are met. -/
theorem construction_conditions (rule : LeaderRule U) (g : FlowGraph U) (handlers : List U)
    (hnd : g.units.Nodup) (unitName : U → Bytes) (name : Bytes) (parent : Nat) (r : Trace.Recorder) :
    ((∃ f, (buildTraced unitName name rule g handlers parent r).1 = .ok f) ↔
      ∀ fault, g.Meets (rule g handlers) fault) ∧
    ((¬∀ fault, g.Meets (rule g handlers) fault) →
      ∃ e, (buildTraced unitName name rule g handlers parent r).1 = .error e ∧
        ¬g.Meets (rule g handlers) e.fault ∧
        ∃ before stage after, Fault.stages = before ++ stage :: after ∧ e.fault ∈ stage ∧
          ∀ fault ∈ before.flatten, g.Meets (rule g handlers) fault) := by
  rw [buildTraced_fst]
  have hstaged := build_staged rule g handlers hnd
  cases hbuild : build rule g handlers with
  | ok f =>
      rw [hbuild] at hstaged
      have hall : ∀ fault, g.Meets (rule g handlers) fault := by
        intro fault
        cases fault with
        | other code => trivial
        | _ => exact hstaged _ (by simp [Fault.stages])
      exact ⟨⟨fun _ => hall, fun _ => ⟨f, rfl⟩⟩, fun hnot => absurd hall hnot⟩
  | error e =>
      rw [hbuild] at hstaged
      obtain ⟨before, stage, after, hstages, hmet, hmem, hnot⟩ := hstaged
      exact ⟨⟨nofun, fun hall => absurd (hall e.fault) hnot⟩,
        fun _ => ⟨e, rfl, hnot, before, stage, after, hstages, hmem, hmet⟩⟩

/-- One block with an exit in its middle and a jump out of the body at its end. -/
def misplacedExit : FlowGraph Nat where
  units := [0, 1, 2]
  preds := fun u => if u = 0 then [] else [u - 1]
  succs := fun u => if u = 2 then [7] else [u + 1]
  heads := [0]
  tails := [1]
  branches := (· == 2)
  falls := (· != 2)

/-- Two conditions fail, and the failure is over the one that is looked at first. -/
theorem misplacedExit_conditions :
    misplacedExit.units.Nodup ∧ ¬misplacedExit.Meets [0] .danglingEdge ∧
    ∃ e, (buildTraced position [] (fun _ _ => [0]) misplacedExit [] 0 {}).1 = .error e ∧
      e.fault = .tailInside ∧ ¬misplacedExit.Meets [0] e.fault ∧
      ∃ before stage after, Fault.stages = before ++ stage :: after ∧ e.fault ∈ stage ∧
        ∀ fault ∈ before.flatten, misplacedExit.Meets [0] fault := by
  have hnd : misplacedExit.units.Nodup := by decide
  have hedge : ¬misplacedExit.Meets [0] .danglingEdge := by
    rintro ⟨-, hjumps, -⟩
    exact absurd (hjumps 2 (by decide) rfl 7 (by decide)) (by decide)
  obtain ⟨-, hfail⟩ := construction_conditions (fun _ _ => [0]) misplacedExit [] hnd position [] 0 {}
  obtain ⟨e, he, hnot, hstages⟩ := hfail fun hall => hedge (hall _)
  refine ⟨hnd, hedge, e, he, ?_, hnot, hstages⟩
  have hbuild : build (fun _ _ => [0]) misplacedExit [] = .error (.tailInside 1 0 2) := by decide
  rw [← buildTraced_fst, he] at hbuild
  cases hbuild
  rfl

end FlowBlocks
