import FlowBlocks.Proofs.BlockFlow.Built
import FlowBlocks.Proofs.BlockFlow.Construct
/-!
What verification accepts. Each of its parts is brought to the condition under which it finds nothing; for a
flow that was built, only the units, the leaders and the orphans are left of these conditions. Edges are not
compared with the graph that verification is given.
-/
namespace FlowBlocks

variable {U : Type} [DecidableEq U]

theorem compareUnits_inv {f : BlockFlow U} {block position : Nat} {left left' us : List U}
    (h : f.compareUnits block position left us = ([], left')) : left = us ++ left' := by
  induction us generalizing position left with
  | nil =>
      cases left <;> cases h <;> rfl
  | cons u us ih =>
      cases left with
      | nil => cases h
      | cons expected left =>
          rw [BlockFlow.compareUnits] at h
          obtain ⟨hfound, hleft⟩ := Prod.mk.inj h
          obtain ⟨hhere, hlater⟩ := List.append_eq_nil_iff.mp hfound
          obtain ⟨hunit, -⟩ := List.append_eq_nil_iff.mp hhere
          have heq : expected = u := by
            by_contra hne
            rw [if_neg hne] at hunit
            cases hunit
          rw [heq, ih (Prod.ext hlater hleft)]
          rfl

theorem compareBlocks_inv {f : BlockFlow U} {total i : Nat} {left : List U} {bs : List (Block U)}
    (h : f.compareBlocks total i left bs = []) : left = bs.flatMap fun b => b.units := by
  induction bs generalizing i left with
  | nil =>
      rw [BlockFlow.compareBlocks] at h
      split at h
      · next hleft => exact List.isEmpty_iff.mp hleft
      · cases h
  | cons b bs ih =>
      rw [BlockFlow.compareBlocks] at h
      obtain ⟨hhere, hlater⟩ := List.append_eq_nil_iff.mp h
      obtain ⟨-, hfound⟩ := List.append_eq_nil_iff.mp hhere
      rw [List.flatMap_cons, ← ih hlater]
      exact compareUnits_inv (Prod.ext hfound rfl)

theorem leaderViolations_eq_nil_iff {leaders : List U} {b : Block U} :
    BlockFlow.leaderViolations leaders b = [] ↔ b.head ∈ leaders ∧ ∀ u ∈ b.rest, u ∉ leaders := by
  rw [BlockFlow.leaderViolations, List.append_eq_nil_iff, List.map_eq_nil_iff, List.filter_eq_nil_iff]
  refine and_congr ?_ ?_
  · simp
  · simp

/-- Verification finds nothing if none of its parts does. -/
theorem verify_eq_nil {f : BlockFlow U} {rule : LeaderRule U} {g : FlowGraph U} {handlers : List U} :
    f.verify rule g handlers = [] ↔
      f.compareBlocks g.units.length 0 g.units f.blocks = [] ∧
        (∀ b ∈ f.blocks, BlockFlow.leaderViolations (rule g handlers) b = []) ∧
        (∀ b ∈ f.blocks.head?, b.index ∈ f.heads) ∧
        ∀ b ∈ f.blocks, f.edgeViolations handlers b = [] := by
  simp only [BlockFlow.verify, List.append_eq_nil_iff, List.flatMap_eq_nil_iff, and_assoc]
  refine and_congr Iff.rfl (and_congr Iff.rfl (and_congr ?_ Iff.rfl))
  split
  · next hbs => simp [hbs]
  · next b bs hbs => simp [hbs, BlockFlow.isHead]

namespace BlockFlow.Formed

variable {leaders units : List U} {f : BlockFlow U}

theorem compareBlocks_eq_nil_iff (hf : f.Formed leaders.contains units) (hnd : units.Nodup)
    {total : Nat} {left : List U} : f.compareBlocks total 0 left f.blocks = [] ↔ left = units := by
  constructor
  · intro h
    rw [compareBlocks_inv h, hf.tiling.covers]
  · rintro rfl
    have howned : ∀ b ∈ f.blocks, ∀ u ∈ b.units, (f.owner? u).map (·.index) = some b.index := by
      intro b hb u hu
      rw [BlockFlow.owner?, (hf.tiling.ownerIn?_eq_some_iff hnd).mpr ⟨hb, hu⟩]
      rfl
    have hnil := compareBlocks_eq_nil total hf.tiling.placed howned
    rw [hf.tiling.covers] at hnil
    exact hnil

theorem edgeViolations_eq_nil_iff (hf : f.Formed leaders.contains units) {handlers : List U} {b : Block U}
    (hb : b ∈ f.blocks) :
    f.edgeViolations handlers b = [] ↔ (b.index ∈ f.orphans → b.head ∈ handlers) := by
  have hexit : (b.succs.isEmpty && !f.isTail b.index) = false := by
    cases hs : b.succs.isEmpty with
    | false => rfl
    | true => simpa [BlockFlow.isTail] using hf.exits b hb (List.isEmpty_iff.mp hs)
  have hforeign : (b.preds ++ b.succs).filter (f.size ≤ ·) = [] := by
    refine List.filter_eq_nil_iff.mpr ?_
    intro i hi
    simpa using hf.edges b hb i hi
  rw [BlockFlow.edgeViolations, hexit, hforeign, hf.mem_orphans hb]
  simp [BlockFlow.isHead]

theorem first_head (hf : f.Formed leaders.contains units) (hfirst : 0 ∈ f.heads) :
    ∀ b ∈ f.blocks.head?, b.index ∈ f.heads := by
  intro b hb
  rw [List.head?_eq_getElem?] at hb
  rw [hf.tiling.index_eq hb]
  exact hfirst

/-- The blocks open at the leaders of another set if the sets agree on the units. -/
theorem leaders_agree_iff (hf : f.Formed leaders.contains units) {others : List U} :
    (∀ b ∈ f.blocks, b.head ∈ others ∧ ∀ u ∈ b.rest, u ∉ others) ↔
      ∀ u ∈ units, u ∈ leaders ↔ u ∈ others := by
  have hopen : ∀ b ∈ f.blocks, b.head ∈ leaders := fun b hb =>
    List.contains_iff_mem.mp (hf.tiling.opens b hb)
  have hin : ∀ b ∈ f.blocks, ∀ u ∈ b.rest, u ∉ leaders := fun b hb u hu => by
    simpa using hf.tiling.within b hb u hu
  constructor
  · intro h u hu
    obtain ⟨b, hb, hub⟩ := hf.tiling.mem_units.mp hu
    rcases List.mem_cons.mp hub with rfl | hrest
    · exact iff_of_true (hopen b hb) (h b hb).1
    · exact iff_of_false (hin b hb u hrest) ((h b hb).2 u hrest)
  · intro h b hb
    refine ⟨?_, ?_⟩
    · exact (h b.head (hf.tiling.mem_units.mpr ⟨b, hb, b.head_mem⟩)).mp (hopen b hb)
    · intro u hu hother
      have hmem := hf.tiling.mem_units.mpr ⟨b, hb, List.mem_cons_of_mem b.head hu⟩
      exact hin b hb u hu ((h u hmem).mpr hother)

end BlockFlow.Formed

/-- A flow that was built from distinct units passes verification against a graph, its handlers and a rule
exactly if the graph has the same units, the rules agree on them, and the orphans are handlers. -/
theorem verify_accepts_iff (unitName : U → Bytes) (name : Bytes) (rule : LeaderRule U) (g : FlowGraph U)
    (handlers : List U) (parent : Nat) (r : Trace.Recorder) {f : BlockFlow U} (hnd : g.units.Nodup)
    (h : (buildTraced unitName name rule g handlers parent r).1 = .ok f) (rule' : LeaderRule U)
    (g' : FlowGraph U) (handlers' : List U) :
    f.verify rule' g' handlers' = [] ↔
      g'.units = g.units ∧ (∀ u ∈ g.units, u ∈ rule g handlers ↔ u ∈ rule' g' handlers') ∧
        ∀ b ∈ f.blocks, b.index ∈ f.orphans → b.head ∈ handlers' := by
  have hbuild : build rule g handlers = .ok f := by rwa [buildTraced_fst] at h
  have hf := build_formed hbuild
  have hedges : (∀ b ∈ f.blocks, f.edgeViolations handlers' b = []) ↔
      ∀ b ∈ f.blocks, b.index ∈ f.orphans → b.head ∈ handlers' :=
    forall₂_congr fun b hb => hf.edgeViolations_eq_nil_iff hb
  rw [verify_eq_nil, hf.compareBlocks_eq_nil_iff hnd, hedges, ← hf.leaders_agree_iff]
  simp only [leaderViolations_eq_nil_iff]
  constructor
  · rintro ⟨hunits, hleaders, -, horphans⟩
    exact ⟨hunits, hleaders, horphans⟩
  · rintro ⟨hunits, hleaders, horphans⟩
    exact ⟨hunits, hleaders, hf.first_head (build_first hbuild hnd), horphans⟩

/-- An entry, an exit and a handler that nothing leads to. -/
def deadHandler : FlowGraph Nat where
  units := [0, 1, 2]
  preds := fun u => if u = 1 then [0] else []
  succs := fun u => if u = 0 then [1] else []
  heads := [0]
  tails := [1, 2]
  branches := fun _ => false
  falls := fun u => u == 0

/-- The flow of `deadHandler` passes against a graph without edges and a rule with a leader outside the body,
as long as the handler is known. -/
theorem deadHandler_accepted :
    ∃ f, (buildTraced position [] Leaders.bigBlock deadHandler [2] 0 {}).1 = .ok f ∧ f.orphans = [2] ∧
      f.verify (fun _ _ => [0, 1, 2, 50]) { deadHandler with preds := fun _ => [], succs := fun _ => [] } [2] =
        [] ∧
      f.verify Leaders.bigBlock deadHandler [] ≠ [] := by
  have h : (buildTraced position [] Leaders.bigBlock deadHandler [2] 0 {}).1 = .ok
      ⟨[⟨⟨0, []⟩, 0, 0, [], [1]⟩, ⟨⟨1, []⟩, 1, 1, [0], []⟩, ⟨⟨2, []⟩, 2, 2, [], []⟩], [0], [1, 2], [2]⟩ := by
    decide
  have hiff := verify_accepts_iff position [] Leaders.bigBlock deadHandler [2] 0 {} (by decide) h
  refine ⟨_, h, rfl, (hiff _ _ _).mpr (by decide), ?_⟩
  intro hnil
  exact absurd ((hiff _ _ _).mp hnil).2.2 (by decide)

end FlowBlocks
