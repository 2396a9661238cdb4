import FlowBlocks.Proofs.BlockFlow.Built
import FlowBlocks.Proofs.BlockFlow.Traced
/-!
Where the blocks of a construction lie. `Cut` describes blocks by the positions of the body alone and does
not mention how they are found; a list of blocks is a cut exactly if it is a tiling, and a body has one cut
at its leaders. Units may occur more than once, and leaders need not be units of the body.
-/
namespace FlowBlocks

variable {U : Type}

/-- Blocks numbered from 0, each a stretch of the units that starts where the one before it ends, with a
block at exactly the positions of leaders. -/
structure Cut (leaders units : List U) (blocks : List (Block U)) : Prop where
  index : ∀ (k : Nat) (b : Block U), blocks[k]? = some b → b.index = k
  first : ∀ b : Block U, blocks[0]? = some b → b.start = 0
  next : ∀ (k : Nat) (b c : Block U), blocks[k]? = some b → blocks[k + 1]? = some c → c.start = b.start + b.size
  stretch : ∀ b ∈ blocks, 0 < b.size ∧ b.units = (units.drop b.start).take b.size
  covers : blocks.flatMap (fun b => b.units) = units
  starts : ∀ i u, units[i]? = some u → ((∃ b ∈ blocks, b.start = i) ↔ u ∈ leaders)

theorem placed_iff {i s : Nat} {blocks : List (Block U)} :
    Placed i s blocks ↔ (∀ k b, blocks[k]? = some b → b.index = i + k) ∧
      (∀ b, blocks[0]? = some b → b.start = s) ∧
      ∀ k b c, blocks[k]? = some b → blocks[k + 1]? = some c → c.start = b.start + b.size := by
  induction blocks generalizing i s with
  | nil => simp [Placed]
  | cons b bs ih =>
      rw [Placed, ih]
      constructor
      · rintro ⟨rfl, rfl, hindex, hfirst, hnext⟩
        refine ⟨?_, ?_, ?_⟩
        · intro k c hc
          cases k with
          | zero =>
              cases hc
              rfl
          | succ k =>
              have := hindex k c hc
              omega
        · intro c hc
          cases hc
          rfl
        · intro k c d hc hd
          cases k with
          | zero =>
              cases hc
              exact hfirst d hd
          | succ k => exact hnext k c d hc hd
      · rintro ⟨hindex, hfirst, hnext⟩
        have hs := hfirst b rfl
        refine ⟨hindex 0 b rfl, hs, ?_, ?_, ?_⟩
        · intro k c hc
          have := hindex (k + 1) c hc
          omega
        · intro c hc
          rw [hnext 0 b c rfl hc, hs]
        · intro k c d hc hd
          exact hnext (k + 1) c d hc hd

theorem Placed.start_le {i s : Nat} {blocks : List (Block U)} (h : Placed i s blocks) :
    ∀ b ∈ blocks, s ≤ b.start := by
  induction blocks generalizing i s with
  | nil => simp
  | cons b bs ih =>
      obtain ⟨-, hs, hrest⟩ := h
      intro c hc
      rcases List.mem_cons.mp hc with rfl | hc
      · omega
      · have := ih hrest c hc
        omega

/-- The first unit of a block stands where a block starts, and no other unit of it does. -/
theorem Placed.starts_iff {i s : Nat} {blocks : List (Block U)} (h : Placed i s blocks) (p : U → Prop) :
    (∀ n u, (blocks.flatMap fun b => b.units)[n]? = some u → ((∃ b ∈ blocks, b.start = s + n) ↔ p u)) ↔
      ∀ b ∈ blocks, p b.head ∧ ∀ u ∈ b.rest, ¬p u := by
  induction blocks generalizing i s with
  | nil => simp
  | cons b bs ih =>
      obtain ⟨-, hs, hrest⟩ := h
      have hlater := hrest.start_le
      have hsize : b.size = b.units.length := rfl
      -- inside `b` only position `s` is a start; past it the starts are those of the other blocks
      have hinside : ∀ n < b.size, (∃ c ∈ b :: bs, c.start = s + n) ↔ n = 0 := by
        intro n hn
        constructor
        · rintro ⟨c, hc, heq⟩
          rcases List.mem_cons.mp hc with rfl | hc
          · omega
          · have := hlater c hc
            omega
        · rintro rfl
          exact ⟨b, List.mem_cons_self, hs⟩
      have hpast : ∀ n, (∃ c ∈ b :: bs, c.start = s + (b.size + n)) ↔
          ∃ c ∈ bs, c.start = s + b.size + n := by
        intro n
        have hpos : 0 < b.size := Nat.succ_pos _
        simp only [List.mem_cons, exists_eq_or_imp, ← Nat.add_assoc, or_iff_right_iff_imp]
        omega
      rw [List.flatMap_cons, List.forall_mem_cons, ← ih hrest]
      constructor
      · intro hall
        refine ⟨⟨?_, ?_⟩, ?_⟩
        · exact (hall 0 b.head rfl).mp ((hinside 0 (Nat.succ_pos _)).mpr rfl)
        · intro u hu hpu
          obtain ⟨n, hn, hget⟩ := List.getElem_of_mem hu
          have hlt : n + 1 < b.size := Nat.succ_lt_succ hn
          have hat : (b.units ++ bs.flatMap fun b => b.units)[n + 1]? = some u := by
            rw [List.getElem?_append_left (hsize ▸ hlt), Run.units, List.getElem?_cons_succ,
              List.getElem?_eq_getElem hn, hget]
          have := (hinside (n + 1) hlt).mp ((hall (n + 1) u hat).mpr hpu)
          omega
        · intro n u hu
          rw [← hpast]
          refine hall (b.size + n) u ?_
          rw [List.getElem?_append_right (by omega), hsize, Nat.add_sub_cancel_left]
          exact hu
      · rintro ⟨⟨hhead, hin⟩, hbs⟩ n u hu
        by_cases hn : n < b.size
        · rw [List.getElem?_append_left (hsize ▸ hn)] at hu
          rw [hinside n hn]
          cases n with
          | zero =>
              cases hu
              exact iff_of_true rfl hhead
          | succ n => exact iff_of_false (by omega) (hin u (List.mem_of_getElem? hu))
        · obtain ⟨m, rfl⟩ := Nat.exists_eq_add_of_le (Nat.le_of_not_lt hn)
          rw [List.getElem?_append_right (by omega), hsize, Nat.add_sub_cancel_left] at hu
          rw [hpast]
          exact hbs m u hu

theorem Tiling.stretch {isLeader : U → Bool} {units : List U} {blocks : List (Block U)} {b : Block U}
    (h : Tiling isLeader units blocks) (hb : b ∈ blocks) :
    b.units = (units.drop b.start).take b.size := by
  obtain ⟨before, after, rfl, hlen⟩ := h.split hb
  rw [← hlen, List.drop_left, ← Run.length_units, List.take_left]

theorem cutAt_append {p : U → Bool} {r : Run U} {rest : List U} (hin : ∀ u ∈ r.rest, p u = false)
    (hrest : ∀ u ∈ rest.head?, p u = true) : cutAt p (r.units ++ rest) = r :: cutAt p rest := by
  obtain ⟨u, us⟩ := r
  induction us generalizing u with
  | nil =>
      change cutAt p (u :: rest) = _
      cases rest with
      | nil => rfl
      | cons v vs =>
          obtain ⟨r, rs, hcut⟩ := cutAt_head p v vs
          rw [cutAt, hcut]
          exact if_pos (hrest v rfl)
  | cons v vs ih =>
      have hcut := ih v fun w hw => hin w (List.mem_cons_of_mem v hw)
      change cutAt p (u :: (v :: vs ++ rest)) = _
      rw [cutAt]
      change cutAt p (v :: vs ++ rest) = _ at hcut
      rw [hcut]
      exact if_neg (by simp [hin v List.mem_cons_self])

/-- A tiling consists of the runs that cutting yields. -/
theorem Tiling.runs_eq {isLeader : U → Bool} {units : List U} {blocks : List (Block U)}
    (h : Tiling isLeader units blocks) : blocks.map Block.toRun = cutAt isLeader units := by
  obtain ⟨rfl, -, opens, within⟩ := h
  induction blocks with
  | nil => rfl
  | cons b bs ih =>
      rw [List.map_cons, List.flatMap_cons, cutAt_append (within b List.mem_cons_self),
        ih (fun c hc => opens c (List.mem_cons_of_mem b hc))
          fun c hc => within c (List.mem_cons_of_mem b hc)]
      intro u hu
      cases bs with
      | nil => cases hu
      | cons c cs =>
          cases hu
          exact opens c (by simp)

theorem Placed.bare_eq {i s : Nat} {blocks : List (Block U)} (h : Placed i s blocks) :
    blocks.map Block.bare = placeRuns i s (blocks.map Block.toRun) := by
  induction blocks generalizing i s with
  | nil => rfl
  | cons b bs ih =>
      obtain ⟨rfl, rfl, hrest⟩ := h
      rw [List.map_cons, List.map_cons, placeRuns, ih hrest]
      rfl

section Cut

variable [DecidableEq U] {leaders units : List U} {blocks : List (Block U)}

theorem cut_iff_tiling : Cut leaders units blocks ↔ Tiling leaders.contains units blocks := by
  constructor
  · rintro ⟨index, first, next, -, rfl, starts⟩
    have placed : Placed 0 0 blocks := placed_iff.mpr ⟨by simpa using index, first, next⟩
    have hopen := (placed.starts_iff (· ∈ leaders)).mp (by simpa using starts)
    refine ⟨rfl, placed, ?_, ?_⟩
    · intro b hb
      exact List.contains_iff_mem.mpr (hopen b hb).1
    · intro b hb u hu
      simpa using (hopen b hb).2 u hu
  · intro h
    obtain ⟨index, first, next⟩ := placed_iff.mp h.placed
    refine ⟨by simpa using index, first, next, ?_, h.covers, ?_⟩
    · intro b hb
      exact ⟨Nat.succ_pos _, h.stretch hb⟩
    · have hopen : ∀ b ∈ blocks, b.head ∈ leaders ∧ ∀ u ∈ b.rest, u ∉ leaders := by
        intro b hb
        refine ⟨List.contains_iff_mem.mp (h.opens b hb), ?_⟩
        intro u hu
        simpa using h.within b hb u hu
      simpa [h.covers] using (h.placed.starts_iff (· ∈ leaders)).mpr hopen

theorem Tiling.bare_eq (h : Tiling leaders.contains units blocks) :
    blocks.map Block.bare = placeRuns 0 0 (cutAt leaders.contains units) := by
  rw [h.placed.bare_eq, h.runs_eq]

end Cut

/-- A construction that succeeds cuts the body at its leaders, and no other blocks are a cut there. If no
unit occurs twice, looking up a unit finds the one block it lies in. -/
theorem blocks_cut_at_leaders [DecidableEq U] (unitName : U → Bytes) (name : Bytes) (rule : LeaderRule U)
    (g : FlowGraph U) (handlers : List U) (parent : Nat) (r : Trace.Recorder) {f : BlockFlow U}
    (h : (buildTraced unitName name rule g handlers parent r).1 = .ok f) :
    Cut (rule g handlers) g.units f.blocks ∧
      (∀ blocks, Cut (rule g handlers) g.units blocks →
        blocks.map Block.bare = f.blocks.map Block.bare) ∧
      (g.units.Nodup → ∀ u, ((∃ b, f.owner? u = some b) ↔ u ∈ g.units) ∧
        ∀ b, f.owner? u = some b ↔ b ∈ f.blocks ∧ u ∈ b.units) := by
  have hbuild : build rule g handlers = .ok f := by rwa [buildTraced_fst] at h
  have htiles := build_tiling hbuild
  refine ⟨cut_iff_tiling.mpr htiles, ?_, ?_⟩
  · intro blocks hcut
    rw [(cut_iff_tiling.mp hcut).bare_eq, htiles.bare_eq]
  · intro hnd u
    have howner : ∀ b, f.owner? u = some b ↔ b ∈ f.blocks ∧ u ∈ b.units :=
      fun b => htiles.ownerIn?_eq_some_iff hnd
    refine ⟨?_, howner⟩
    rw [htiles.mem_units]
    exact exists_congr howner

/-- A loop of 7 and 8 in front of the exit 9. -/
def loopGraph (units : List Nat) : FlowGraph Nat where
  units := units
  preds := fun u => if u = 7 then [8] else [7]
  succs := fun u => if u = 7 then [8] else if u = 8 then [7] else []
  heads := []
  tails := [9]
  branches := fun _ => false
  falls := fun u => u != 9

/-- A body that names a unit twice and a leader that is none of its units, and one of distinct units. -/
theorem loop_cut_at_leaders :
    (∃ f, (buildTraced position [] (fun _ _ => [7, 9, 100]) (loopGraph [7, 8, 7, 9]) [] 0 {}).1 = .ok f ∧
      f.blocks.map (fun b => (b.units, b.start)) = [([7, 8], 0), ([7], 2), ([9], 3)] ∧
      Cut [7, 9, 100] [7, 8, 7, 9] f.blocks) ∧
    ∃ f, (buildTraced position [] (fun _ _ => [7, 9, 100]) (loopGraph [7, 8, 9]) [] 0 {}).1 = .ok f ∧
      ∀ u, (∃ b, f.owner? u = some b) ↔ u ∈ [7, 8, 9] := by
  obtain ⟨f, hf, hruns⟩ := map_eq_ok.mp (by decide :
    (buildTraced position [] (fun _ _ => [7, 9, 100]) (loopGraph [7, 8, 7, 9]) [] 0 {}).1.map
      (fun f => f.blocks.map fun b => (b.units, b.start)) = .ok [([7, 8], 0), ([7], 2), ([9], 3)])
  obtain ⟨f', hf', -⟩ := map_eq_ok.mp (by decide :
    (buildTraced position [] (fun _ _ => [7, 9, 100]) (loopGraph [7, 8, 9]) [] 0 {}).1.map
      BlockFlow.size = .ok 2)
  refine ⟨⟨f, hf, hruns, ?_⟩, f', hf', ?_⟩
  · exact (blocks_cut_at_leaders position [] _ (loopGraph [7, 8, 7, 9]) [] 0 {} hf).1
  · intro u
    exact ((blocks_cut_at_leaders position [] _ (loopGraph [7, 8, 9]) [] 0 {} hf').2.2 (by decide) u).1

end FlowBlocks
