import FlowBlocks.Leaders
import FlowBlocks.Proofs.FlowGraph.Regular
/-!
What both leader rules guarantee on a regular graph. `SingleEntry` says that control enters a block only at
its first unit: a position that is no leader has the position before it as its only predecessor. It
also says that nothing is joined to an exit. Everything about blocks of bodies rests on these facts and
not on the rule that was used.
-/
namespace FlowBlocks

/-- The leaders let control into a block only at its top, and part an exit from what follows it. -/
structure SingleEntry (g : FlowGraph Nat) (n : Nat) (handlers leaders : List Nat) : Prop where
  first : 0 < n → 0 ∈ leaders
  handler : ∀ h ∈ handlers, h ∈ leaders
  only : ∀ u, u + 1 < n → u + 1 ∉ leaders → g.preds (u + 1) = [u]
  exit : ∀ u ∈ g.tails, u + 1 < n → u + 1 ∈ leaders

namespace Leaders

variable {g : FlowGraph Nat} {n : Nat} {handlers : List Nat} {u v : Nat}

theorem mem_withPrevious {p : Option Nat} :
    (p, u) ∈ withPrevious (List.range n) ↔ u < n ∧ p = if u = 0 then none else some (u - 1) := by
  rw [withPrevious, List.mem_iff_getElem?]
  simp only [List.getElem?_zip_eq_some]
  constructor
  · rintro ⟨i, hp, hu⟩
    obtain ⟨hi, rfl⟩ := List.getElem?_eq_some_iff.mp hu
    rw [List.getElem_range, List.length_range] at *
    refine ⟨hi, ?_⟩
    cases i with
    | zero => simpa using hp.symm
    | succ i =>
        rw [List.getElem?_cons_succ, List.getElem?_map, List.getElem?_range (by omega)] at hp
        simpa using hp.symm
  · rintro ⟨hu, rfl⟩
    refine ⟨u, ?_, List.getElem?_range hu⟩
    cases u with
    | zero => rfl
    | succ u =>
        rw [List.getElem?_cons_succ, List.getElem?_map, List.getElem?_range (by omega)]
        rfl

theorem mem_withNext {next : Option Nat} :
    (u, next) ∈ withNext (List.range n) ↔ u < n ∧ next = if u + 1 < n then some (u + 1) else none := by
  have hnext : ∀ i, i < n → ((((List.range n).drop 1).map some ++ [none])[i]? =
      some (if i + 1 < n then some (i + 1) else none)) := by
    intro i hi
    have hlen : (((List.range n).drop 1).map some).length = n - 1 := by simp
    by_cases hlast : i + 1 < n
    · rw [List.getElem?_append_left (by omega), List.getElem?_map, List.getElem?_drop,
        List.getElem?_range (by omega), if_pos hlast, Nat.add_comm]
      rfl
    · rw [List.getElem?_append_right (by omega), if_neg hlast, hlen, show i - (n - 1) = 0 by omega]
      rfl
  rw [withNext, List.mem_iff_getElem?]
  simp only [List.getElem?_zip_eq_some]
  constructor
  · rintro ⟨i, hu, hp⟩
    obtain ⟨hi, rfl⟩ := List.getElem?_eq_some_iff.mp hu
    rw [List.getElem_range, List.length_range] at *
    rw [hnext i hi] at hp
    exact ⟨hi, (Option.some.inj hp).symm⟩
  · rintro ⟨hu, rfl⟩
    exact ⟨u, List.getElem?_range hu, hnext u hu⟩

theorem opensBig_eq_true :
    opensBig g (if u = 0 then none else some (u - 1)) u = true ↔
      u = 0 ∨ g.preds u ≠ [u - 1] ∨ u ∈ g.tails := by
  by_cases hu : u = 0
  · simp [hu, opensBig]
  · simp [hu, opensBig]

theorem mem_bigBlock (h : g.Regular n handlers) :
    u ∈ bigBlock g handlers ↔
      u ∈ handlers ∨ u < n ∧ (u = 0 ∨ g.preds u ≠ [u - 1] ∨ u ∈ g.tails) := by
  rw [bigBlock, mem_distinct, List.mem_append, h.units]
  refine or_congr Iff.rfl ?_
  rw [← opensBig_eq_true]
  simp only [List.mem_map, List.mem_filter]
  constructor
  · rintro ⟨⟨p, v⟩, ⟨hmem, hopen⟩, rfl⟩
    obtain ⟨hu, rfl⟩ := mem_withPrevious.mp hmem
    exact ⟨hu, hopen⟩
  · rintro ⟨hu, hopen⟩
    exact ⟨(_, u), ⟨mem_withPrevious.mpr ⟨hu, rfl⟩, hopen⟩, rfl⟩

theorem mem_marks {next : Option Nat} : v ∈ marks g u next ↔
    v = u ∧ (g.preds u).length ≠ 1 ∨
      v ∈ g.succs u ∧ (g.branches u = true ∨ 1 < (g.succs u).length) ∨
      next = some v ∧ (g.branches u = true ∨ g.falls u = false) := by
  unfold marks
  rw [List.mem_append, List.mem_append, or_assoc]
  refine or_congr ?_ (or_congr ?_ ?_)
  · split <;> simp_all
  · split <;> simp_all
  · split <;> simp_all

theorem mem_classic (h : g.Regular n handlers) :
    v ∈ classic g handlers ↔ v = 0 ∧ 0 < n ∨ v ∈ handlers ∨
      ∃ u < n, v ∈ marks g u (if u + 1 < n then some (u + 1) else none) := by
  rw [classic, mem_distinct, List.mem_append, List.mem_append, or_assoc, h.units]
  refine or_congr ?_ (or_congr Iff.rfl ?_)
  · cases n with
    | zero => simp
    | succ n => simp [List.range_succ_eq_map]
  · simp only [List.mem_flatMap]
    constructor
    · rintro ⟨⟨u, next⟩, hmem, hv⟩
      obtain ⟨hu, rfl⟩ := mem_withNext.mp hmem
      exact ⟨u, hu, hv⟩
    · rintro ⟨u, hu, hv⟩
      exact ⟨(u, _), mem_withNext.mpr ⟨hu, rfl⟩, hv⟩

/-- An exit leads at most to handlers, so what follows it is either a handler or has another
predecessor. -/
theorem bigBlock_singleEntry (h : g.Regular n handlers) :
    SingleEntry g n handlers (bigBlock g handlers) := by
  have only : ∀ u, u + 1 < n → u + 1 ∉ bigBlock g handlers → g.preds (u + 1) = [u] := by
    intro u hu hl
    by_contra hp
    exact hl ((mem_bigBlock h).mpr (Or.inr ⟨hu, Or.inr (Or.inl hp)⟩))
  refine ⟨fun hn => (mem_bigBlock h).mpr (Or.inr ⟨hn, Or.inl rfl⟩),
    fun v hv => (mem_bigBlock h).mpr (Or.inl hv), only, ?_⟩
  intro u hu hlt
  by_contra hl
  obtain ⟨-, hb, hf⟩ := (h.tails u).mp hu
  have hmem : u ∈ g.preds (u + 1) := by rw [only u hlt hl]; exact List.mem_singleton.mpr rfl
  rcases h.plain u (u + 1) (h.mem_preds.mp hmem) hb with hh | hh
  · exact hl ((mem_bigBlock h).mpr (Or.inl hh))
  · rw [hf] at hh
    cases hh.1

theorem classic_singleEntry (h : g.Regular n handlers) :
    SingleEntry g n handlers (classic g handlers) := by
  refine ⟨fun hn => (mem_classic h).mpr (Or.inl ⟨rfl, hn⟩),
    fun v hv => (mem_classic h).mpr (Or.inr (Or.inl hv)), ?_, ?_⟩
  · intro u hu hl
    -- the only predecessor neither branches nor has a second successor, so it falls to `u + 1`
    have unmarked : ∀ v < n, u + 1 ∉ marks g v (if v + 1 < n then some (v + 1) else none) :=
      fun v hv hm => hl ((mem_classic h).mpr (Or.inr (Or.inr ⟨v, hv, hm⟩)))
    have hone : (g.preds (u + 1)).length = 1 := by
      by_contra hne
      exact unmarked (u + 1) hu (mem_marks.mpr (Or.inl ⟨rfl, hne⟩))
    obtain ⟨v, hv⟩ := List.length_eq_one_iff.mp hone
    have hsucc : u + 1 ∈ g.succs v := h.mem_preds.mp (by rw [hv]; exact List.mem_singleton.mpr rfl)
    have hvn := (h.succs_lt v (u + 1) hsucc).1
    have hplain : ¬(g.branches v = true ∨ 1 < (g.succs v).length) := fun hc =>
      unmarked v hvn (mem_marks.mpr (Or.inr (Or.inl ⟨hsucc, hc⟩)))
    have hb : g.branches v = false := by simpa using fun hb => hplain (Or.inl hb)
    rcases h.plain v (u + 1) hsucc hb with hh | ⟨-, hh⟩
    · exact absurd ((mem_classic h).mpr (Or.inr (Or.inl hh))) hl
    · rw [hv, Nat.succ.inj hh]
  · intro u hu hlt
    obtain ⟨hun, -, hf⟩ := (h.tails u).mp hu
    refine (mem_classic h).mpr (Or.inr (Or.inr ⟨u, hun, mem_marks.mpr (Or.inr (Or.inr ?_))⟩))
    exact ⟨if_pos hlt, Or.inr hf⟩

end Leaders

theorem Policy.singleEntry (p : Policy) {g : FlowGraph Nat} {n : Nat} {handlers : List Nat}
    (h : g.Regular n handlers) : SingleEntry g n handlers (p.rule g handlers) := by
  cases p with
  | bigBlock => exact Leaders.bigBlock_singleEntry h
  | classic => exact Leaders.classic_singleEntry h

end FlowBlocks
