import FlowBlocks.FlowGraph.Held
import FlowBlocks.Proofs.FlowGraph.Extension
import FlowBlocks.Proofs.Listing.WellFormed
/-!
Neighbours in the graphs of any body that is made. Successors are what labels, traps and textual order say;
predecessors, which one pass over the successors gathers, are their mirror image in textual order. What holds
of positions holds of references: an instruction of the body is found at its index, and any other at none.
-/
namespace FlowBlocks

/-- The range of the trap holds position `i`. -/
def Trap.Around (instrs : List Instr) (t : Trap) (i : Nat) : Prop :=
  (∃ a, Bears instrs t.first a ∧ a ≤ i) ∧ (t.past ≠ [] → ∃ e, Bears instrs t.past e ∧ i < e)

/-- Control may go from position `i` to position `j`: on to the next one, to a label that is jumped to, or,
where handlers count, to the handler of a trap around it. -/
def Body.Leads (b : Body) (k : GraphKind) (i j : Nat) : Prop :=
  ∃ x, b.instrs[i]? = some x ∧
    (x.fallsThrough = true ∧ j = i + 1 ∨ (∃ l ∈ x.targets, Bears b.instrs l j) ∨
      k = .exceptional ∧ ∃ t ∈ b.traps, t.Around b.instrs i ∧ Bears b.instrs t.handler j)

section Positions

variable {name file : Bytes} {instrs : List Instr} {traps : List Trap} {b : Body} {k : GraphKind} {i j : Nat}

theorem Trap.around_iff {t : Trap} {r : TrapRange} (hdistinct : (labelsOf instrs).Nodup)
    (hr : t.range (labelSites instrs) instrs.length = .ok r) (hi : i < instrs.length) :
    t.Around instrs i ↔ r.first ≤ i ∧ i < r.past := by
  obtain ⟨hfirst, hpast, -, -⟩ := Trap.range_eq_ok hr
  have hstart : ∀ a, Bears instrs t.first a ↔ r.first = a := by
    intro a
    rw [← siteOf?_eq_some hdistinct, hfirst, Option.some.injEq]
  unfold Trap.Around
  simp only [hstart, exists_eq_left']
  by_cases hempty : t.past = []
  · -- The range runs to the end of the body, before which every position stands.
    rw [if_pos (by simp [hempty]), Option.some.injEq] at hpast
    simp [hempty, ← hpast, hi]
  · rw [if_neg (by simpa using hempty)] at hpast
    have hstop : ∀ e, Bears instrs t.past e ↔ r.past = e := by
      intro e
      rw [← siteOf?_eq_some hdistinct, hpast, Option.some.injEq]
    simp [hempty, hstop]

namespace Body

theorem mem_trapRanges {r : TrapRange} :
    r ∈ b.trapRanges ↔ ∃ t ∈ b.traps, t.range (labelSites b.instrs) b.size = .ok r := by
  simp only [trapRanges, List.mem_filterMap, toOption_eq_some]

theorem mem_trapSuccs_iff (h : Body.make name file instrs traps = .ok b) (hi : i < b.size) :
    j ∈ trapSuccs b.trapRanges i ↔ ∃ t ∈ b.traps, t.Around b.instrs i ∧ Bears b.instrs t.handler j := by
  have hdistinct : (labelsOf b.instrs).Nodup := by
    have hgiven := (wellFormed_of_make h).distinct
    obtain ⟨rfl, -⟩ := make_eq_ok h
    rwa [labelsOf_numbered]
  simp only [trapSuccs, List.mem_map, List.mem_filter, mem_trapRanges, Bool.and_eq_true, decide_eq_true_eq]
  constructor
  · rintro ⟨r, ⟨⟨t, ht, hr⟩, hin⟩, rfl⟩
    refine ⟨t, ht, (Trap.around_iff hdistinct hr hi).mpr hin, ?_⟩
    exact siteOf?_labelSites (Trap.range_eq_ok hr).2.2.1
  · rintro ⟨t, ht, haround, hhandler⟩
    obtain ⟨r, hr⟩ := make_ranged h t ht
    refine ⟨r, ⟨⟨t, ht, hr⟩, (Trap.around_iff hdistinct hr hi).mp haround⟩, ?_⟩
    rw [← siteOf?_eq_some hdistinct, (Trap.range_eq_ok hr).2.2.1] at hhandler
    exact Option.some.inj hhandler

theorem mem_succs_iff (h : Body.make name file instrs traps = .ok b) (hj : j < b.size) :
    j ∈ (b.flowGraph k).succs i ↔ b.Leads k i j := by
  by_cases hi : i < b.size
  · obtain ⟨x, hx⟩ := exists_getElem? hi
    have hfall : j ∈ b.fallSuccs i x ↔ x.fallsThrough = true ∧ j = i + 1 := by
      rw [mem_fallSuccs]
      constructor
      · exact fun ⟨hf, _, hnext⟩ => ⟨hf, hnext⟩
      · exact fun ⟨hf, hnext⟩ => ⟨hf, hnext ▸ hj, hnext⟩
    have hjump : j ∈ b.jumpSuccs x ↔ ∃ l ∈ x.targets, Bears b.instrs l j := by
      simp only [jumpSuccs, List.mem_filterMap, find?_of_make h]
    have htrap : j ∈ trapSuccs (b.activeTraps k) i ↔
        k = .exceptional ∧ ∃ t ∈ b.traps, t.Around b.instrs i ∧ Bears b.instrs t.handler j := by
      cases k with
      | brief => simp [activeTraps, trapSuccs]
      | exceptional => simpa [activeTraps] using mem_trapSuccs_iff h hi
    rw [mem_succs hx, hfall, hjump, htrap, Leads, hx]
    simp
  · rw [succs_eq_nil (Nat.le_of_not_lt hi)]
    refine iff_of_false List.not_mem_nil ?_
    rintro ⟨x, hx, -⟩
    exact hi (lt_of_getElem? hx)

theorem mem_preds : i ∈ (b.flowGraph k).preds j ↔ j ∈ (b.flowGraph k).succs i := by
  rw [preds_eq, List.mem_filter, List.mem_range, List.contains_iff_mem]
  exact ⟨And.right, fun hj => ⟨(succs_lt hj).1, hj⟩⟩

theorem preds_increasing (b : Body) (k : GraphKind) (j : Nat) :
    ((b.flowGraph k).preds j).Pairwise (· < ·) := by
  rw [preds_eq]
  exact List.pairwise_lt_range.filter _

end Body

end Positions

namespace HeldBody

variable {R : Type}

/-- Every instruction of the body carries its position, so none is held twice. -/
def Numbered (b : HeldBody R) : Prop := ∀ (i : Nat) (u : R), b.refs[i]? = some u → b.index u = i

theorem Numbered.position_inj {b : HeldBody R} (hb : b.Numbered) {i j : Nat} {u : R}
    (hi : b.refs[i]? = some u) (hj : b.refs[j]? = some u) : i = j :=
  Int.ofNat.inj ((hb i u hi).symm.trans (hb j u hj))

variable [DecidableEq R]

section Numbering

variable {refs : List R} {u : R}

theorem foldl_place_of_not_mem (h : u ∉ refs) (index : R → Int) (n : Nat) :
    (refs.zipIdx n).foldl place index u = index u := by
  induction refs generalizing index n with
  | nil => rfl
  | cons r refs ih =>
      obtain ⟨hne, hrest⟩ := not_or.mp (mt List.mem_cons.mpr h)
      rw [List.zipIdx_cons, List.foldl_cons, ih hrest]
      exact if_neg hne

theorem foldl_place (hdistinct : refs.Nodup) {i : Nat} (h : refs[i]? = some u) (index : R → Int) (n : Nat) :
    (refs.zipIdx n).foldl place index u = (n + i : Nat) := by
  induction refs generalizing index n i with
  | nil => cases h
  | cons r refs ih =>
      obtain ⟨hr, hrest⟩ := List.nodup_cons.mp hdistinct
      rw [List.zipIdx_cons, List.foldl_cons]
      cases i with
      | zero =>
          -- What is written now stays: a reference that came again would be numbered anew.
          cases h
          rw [foldl_place_of_not_mem hr]
          exact if_pos rfl
      | succ i => rw [ih hrest h, Nat.add_right_comm, Nat.add_assoc]

end Numbering

section Made

variable {name file : Bytes} {instr : R → Instr} {index : R → Int} {refs : List R} {traps : List Trap}
  {b : HeldBody R}

theorem make_eq_ok (h : make name file instr index refs traps = .ok b) :
    Body.make name file (refs.map instr) traps = .ok b.body ∧ b.refs = refs ∧ b.index = numbering index refs := by
  obtain ⟨body, hbody, rfl⟩ := map_eq_ok.mp h
  exact ⟨hbody, rfl, rfl⟩

theorem make_numbered (h : make name file instr index refs traps = .ok b) (hdistinct : refs.Nodup) :
    b.Numbered := by
  obtain ⟨-, hrefs, hindex⟩ := make_eq_ok h
  intro i u hu
  rw [hrefs] at hu
  rw [hindex, numbering, foldl_place hdistinct hu, Nat.zero_add]

theorem make_size (h : make name file instr index refs traps = .ok b) : b.body.size = b.refs.length := by
  obtain ⟨hbody, hrefs, -⟩ := make_eq_ok h
  obtain ⟨hnumbered, -⟩ := Body.make_eq_ok hbody
  rw [hrefs, hnumbered, Body.size, length_numbered, List.length_map]

end Made

section Neighbours

variable {b : HeldBody R} {near : Nat → List Nat} {u v : R} {i : Nat}

theorem position?_eq_some (hb : b.Numbered) : b.position? (some u) = some i ↔ b.refs[i]? = some u := by
  rw [position?]
  constructor
  · intro h
    split at h
    · next hfound =>
        cases h
        exact hfound.2
    · cases h
  · intro hu
    have hindex := hb i u hu
    simp [hindex, hu]

/-- Only what the body holds is found, whatever index something else carries. -/
theorem position?_eq_none {u : Option R} (h : ∀ r ∈ b.refs, u ≠ some r) : b.position? u = none := by
  cases u with
  | none => rfl
  | some r =>
      refine if_neg fun hfound => ?_
      exact h r (List.mem_of_getElem? hfound.2) rfl

theorem around_foreign {u : Option R} (h : ∀ r ∈ b.refs, u ≠ some r) (near : Nat → List Nat) :
    b.around near u = [] := by
  rw [around, position?_eq_none h]

theorem mem_around (hb : b.Numbered) : v ∈ b.around near (some u) ↔
    ∃ i j, b.refs[i]? = some u ∧ b.refs[j]? = some v ∧ j ∈ near i := by
  constructor
  · intro hv
    rw [around] at hv
    split at hv
    · exact absurd hv List.not_mem_nil
    · next i hi =>
        obtain ⟨j, hj, hv⟩ := List.mem_filterMap.mp hv
        exact ⟨i, j, (position?_eq_some hb).mp hi, hv, hj⟩
  · rintro ⟨i, j, hu, hv, hj⟩
    rw [around, (position?_eq_some hb).mpr hu]
    exact List.mem_filterMap.mpr ⟨j, hj, hv⟩

theorem mem_around_iff (hb : b.Numbered) {j : Nat} (hu : b.refs[i]? = some u) (hv : b.refs[j]? = some v) :
    v ∈ b.around near (some u) ↔ j ∈ near i := by
  rw [mem_around hb]
  constructor
  · rintro ⟨i', j', hu', hv', hj⟩
    rwa [hb.position_inj hu hu', hb.position_inj hv hv']
  · intro hj
    exact ⟨i, j, hu, hv, hj⟩

/-- What holds between the listed positions holds between the instructions there. -/
theorem around_pairwise {p : Nat → Nat → Prop} {q : R → R → Prop} (hnear : ∀ i, (near i).Pairwise p)
    (hq : ∀ i j v w, b.refs[i]? = some v → b.refs[j]? = some w → p i j → q v w) (u : Option R) :
    (b.around near u).Pairwise q := by
  unfold around
  split
  · exact List.Pairwise.nil
  · next i _ =>
      refine List.pairwise_filterMap.mpr ((hnear i).imp ?_)
      intro i j hp v hv w hw
      exact hq i j v w hv hw hp

theorem succsOf_nodup (hb : b.Numbered) (k : GraphKind) (u : Option R) : (b.succsOf k u).Nodup := by
  refine around_pairwise (Body.succs_nodup b.body k) ?_ u
  rintro i j v _ hv hw hne rfl
  exact hne (hb.position_inj hv hw)

theorem predsOf_increasing (hb : b.Numbered) (k : GraphKind) (u : Option R) :
    (b.predsOf k u).Pairwise fun v w => b.index v < b.index w := by
  refine around_pairwise (Body.preds_increasing b.body k) ?_ u
  intro i j v w hv hw hlt
  rw [hb i v hv, hb j w hw]
  exact Int.ofNat_lt.mpr hlt

theorem mem_predsOf (hb : b.Numbered) (k : GraphKind) : u ∈ b.predsOf k (some v) ↔ v ∈ b.succsOf k (some u) := by
  rw [predsOf, succsOf, mem_around hb, mem_around hb]
  constructor
  · rintro ⟨j, i, hv, hu, hi⟩
    exact ⟨i, j, hu, hv, Body.mem_preds.mp hi⟩
  · rintro ⟨i, j, hu, hv, hj⟩
    exact ⟨j, i, hv, hu, Body.mem_preds.mpr hj⟩

end Neighbours

end HeldBody

/-- In both graphs of any body made of distinct instructions, an instruction is among the successors of
another exactly if control may go from one to the other; predecessors mirror successors; neither list names
an instruction twice, and predecessors stand in the order of their indices. No instruction and one that is
not of the body have no neighbours, whatever index it carries. -/
theorem neighbours_consistent {R : Type} [DecidableEq R] {name file : Bytes} {instr : R → Instr}
    {index : R → Int} {refs : List R} {traps : List Trap} {b : HeldBody R} (hdistinct : refs.Nodup)
    (h : HeldBody.make name file instr index refs traps = .ok b) (k : GraphKind) :
    (∀ u v, u ∈ b.predsOf k (some v) ↔ v ∈ b.succsOf k (some u)) ∧
    (∀ u, (b.succsOf k u).Nodup ∧ (b.predsOf k u).Nodup) ∧
    (∀ u, (b.predsOf k u).Pairwise fun v w => b.index v < b.index w) ∧
    (∀ u, (∀ r ∈ refs, u ≠ some r) → b.succsOf k u = [] ∧ b.predsOf k u = []) ∧
    ∀ (i j : Nat) u v, refs[i]? = some u → refs[j]? = some v →
      b.index u = i ∧ (v ∈ b.succsOf k (some u) ↔ b.body.Leads k i j) := by
  have hb := HeldBody.make_numbered h hdistinct
  obtain ⟨hbody, hrefs, -⟩ := HeldBody.make_eq_ok h
  refine ⟨fun u v => HeldBody.mem_predsOf hb k, ?_, HeldBody.predsOf_increasing hb k, ?_, ?_⟩
  · intro u
    refine ⟨HeldBody.succsOf_nodup hb k u, (HeldBody.predsOf_increasing hb k u).imp ?_⟩
    rintro v _ hlt rfl
    exact Int.lt_irrefl _ hlt
  · intro u hforeign
    rw [← hrefs] at hforeign
    exact ⟨HeldBody.around_foreign hforeign _, HeldBody.around_foreign hforeign _⟩
  · intro i j u v hu hv
    rw [← hrefs] at hu hv
    have hj : j < b.body.size := by
      rw [HeldBody.make_size h]
      exact (List.getElem?_eq_some_iff.mp hv).1
    refine ⟨hb i u hu, ?_⟩
    rw [HeldBody.succsOf, HeldBody.mem_around_iff hb hu hv]
    exact Body.mem_succs_iff hbody hj

/-- A jump to a handler and to what follows it anyway, and a handler inside its own trap. -/
def selfTrapped : Nat → Instr
  | 40 => { labels := [bytes "a"], op := .cond, text := bytes "if p goto h", targets := [bytes "h", bytes "b"] }
  | 10 => { labels := [bytes "b"], text := bytes "x" }
  | 30 => { labels := [bytes "h"], op := .jump, text := bytes "goto a", targets := [bytes "a"] }
  | _ => {}

/-- The instruction behind 7 is of no body, and carries the index of one that is. -/
theorem selfTrapped_neighbours :
    ∃ b, HeldBody.make (bytes "m") (bytes "m.bbl") selfTrapped (fun _ => 1) [40, 10, 30]
        [⟨bytes "a", [], bytes "h"⟩] = .ok b ∧
      b.succsOf .exceptional (some 40) = [10, 30] ∧ b.succsOf .exceptional (some 30) = [40, 30] ∧
      b.predsOf .exceptional (some 30) = [40, 10, 30] ∧ b.index 7 = b.index 10 ∧
      (10 ∈ b.predsOf .exceptional (some 30) ↔ 30 ∈ b.succsOf .exceptional (some 10)) ∧
      (b.predsOf .exceptional (some 30)).Pairwise (fun v w => b.index v < b.index w) ∧
      b.succsOf .exceptional (some 7) = [] ∧ b.predsOf .exceptional none = [] ∧
      b.body.Leads .exceptional 2 2 := by
  obtain ⟨b, hmake, hshape⟩ := map_eq_ok.mp (by decide +kernel :
    (HeldBody.make (bytes "m") (bytes "m.bbl") selfTrapped (fun _ => 1) [40, 10, 30]
        [⟨bytes "a", [], bytes "h"⟩]).map (fun b => (b.succsOf .exceptional (some 40),
          b.succsOf .exceptional (some 30), b.predsOf .exceptional (some 30), b.index 7 - b.index 10)) =
      .ok ([10, 30], [40, 30], [40, 10, 30], 0))
  simp only [Prod.mk.injEq] at hshape
  obtain ⟨hcond, hjump, hpreds, hindex⟩ := hshape
  obtain ⟨hmirror, -, hsorted, hforeign, hleads⟩ := neighbours_consistent (by decide) hmake .exceptional
  refine ⟨b, hmake, hcond, hjump, hpreds, by omega, hmirror 10 30, hsorted (some 30), ?_, ?_, ?_⟩
  · exact (hforeign (some 7) (by decide)).1
  · exact (hforeign none (by decide)).2
  · refine ((hleads 2 2 30 30 rfl rfl).2).mp ?_
    rw [hjump]
    decide

end FlowBlocks
