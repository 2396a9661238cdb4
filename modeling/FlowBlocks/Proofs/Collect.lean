import Mathlib.Data.List.Nodup
import FlowBlocks.Bytes
/-!
Lists without repetitions, and loops whose steps may fail. `distinct` keeps first occurrences, so the
distinct part of an appended list is that of the front followed by what is new in the back.
-/
namespace FlowBlocks

section Distinct

variable {α : Type} [DecidableEq α]

theorem foldl_distinct (seen xs : List α) :
    xs.foldl (fun seen x => if x ∈ seen then seen else seen ++ [x]) seen =
      seen ++ (distinct xs).filter fun x => x ∉ seen := by
  induction xs generalizing seen with
  | nil => simp [distinct]
  | cons x xs ih =>
      have hx : distinct (x :: xs) = [x] ++ (distinct xs).filter fun y => y ∉ [x] := by
        change xs.foldl _ (if x ∈ [] then [] else [] ++ [x]) = _
        rw [if_neg List.not_mem_nil, List.nil_append, ih]
      rw [List.foldl_cons, ih, hx, List.filter_append, List.filter_filter]
      by_cases hs : x ∈ seen
      · rw [if_pos hs]
        have hx' : [x].filter (fun y => decide (y ∉ seen)) = [] := by simp [hs]
        rw [hx', List.nil_append]
        congr 1
        apply List.filter_congr
        intro y _
        by_cases hy : y = x
        · subst hy; simp [hs]
        · simp [hy]
      · rw [if_neg hs]
        have hx' : [x].filter (fun y => decide (y ∉ seen)) = [x] := by simp [hs]
        rw [hx', List.append_assoc]
        congr 2
        apply List.filter_congr
        intro y _
        simp [Bool.and_comm]

theorem distinct_append (xs ys : List α) :
    distinct (xs ++ ys) = distinct xs ++ (distinct ys).filter fun y => y ∉ distinct xs := by
  rw [← foldl_distinct]
  exact List.foldl_append

theorem distinct_cons (x : α) (xs : List α) :
    distinct (x :: xs) = x :: (distinct xs).filter fun y => y ∉ [x] :=
  distinct_append [x] xs

@[simp] theorem mem_distinct {a : α} {xs : List α} : a ∈ distinct xs ↔ a ∈ xs := by
  induction xs with
  | nil => simp [distinct]
  | cons x xs ih =>
      rw [distinct_cons, List.mem_cons, List.mem_filter, ih]
      by_cases h : a = x <;> simp [h]

theorem distinct_nodup (xs : List α) : (distinct xs).Nodup := by
  induction xs with
  | nil => exact List.nodup_nil
  | cons x xs ih =>
      rw [distinct_cons]
      refine List.nodup_cons.mpr ⟨?_, ih.filter _⟩
      simp [List.mem_filter]

theorem distinct_sublist (xs : List α) : (distinct xs).Sublist xs := by
  induction xs with
  | nil => exact List.Sublist.refl []
  | cons x xs ih =>
      rw [distinct_cons]
      exact (List.filter_sublist.trans ih).cons_cons x

@[simp] theorem distinct_eq_nil {xs : List α} : distinct xs = [] ↔ xs = [] := by
  constructor
  · intro h
    refine List.eq_nil_iff_forall_not_mem.mpr fun a ha => ?_
    have := mem_distinct.mpr ha
    rw [h] at this
    exact List.not_mem_nil this
  · rintro rfl
    rfl

end Distinct

section Failing

variable {ε α β σ : Type}

theorem bind_eq_ok {x : Except ε α} {f : α → Except ε β} {b : β} :
    x >>= f = .ok b ↔ ∃ a, x = .ok a ∧ f a = .ok b := by
  cases x with
  | error e => exact ⟨nofun, fun ⟨_, h, _⟩ => nomatch h⟩
  | ok a => exact ⟨fun h => ⟨a, rfl, h⟩, fun ⟨_, h, hf⟩ => by cases h; exact hf⟩

theorem toOption_eq_some {x : Except ε α} {a : α} : x.toOption = some a ↔ x = .ok a := by
  cases x with
  | error e => exact ⟨nofun, nofun⟩
  | ok b => exact ⟨fun h => congrArg _ (Option.some.inj h), fun h => congrArg _ (Except.ok.inj h)⟩

theorem map_eq_ok {x : Except ε α} {f : α → β} {b : β} :
    x.map f = .ok b ↔ ∃ a, x = .ok a ∧ f a = b := by
  cases x with
  | error e => exact ⟨nofun, fun ⟨_, h, _⟩ => nomatch h⟩
  | ok a => exact ⟨fun h => ⟨a, rfl, Except.ok.inj h⟩, fun ⟨_, h, hf⟩ => by cases h; exact congrArg _ hf⟩

/-- A list that was found to have one entry, with what was found of the entry. -/
theorem eq_ok_singleton {x : Except ε (List α)} {P : α → Prop} [DecidablePred P]
    (h : x.map (·.map fun a => decide (P a)) = .ok [true]) : ∃ a, x = .ok [a] ∧ P a := by
  obtain ⟨as, hx, has⟩ := map_eq_ok.mp h
  obtain ⟨a, rfl, ha⟩ := List.map_eq_singleton_iff.mp has
  exact ⟨a, hx, of_decide_eq_true ha⟩

/-- Two results agree under their views if both fail alike, or both succeed and the values agree. -/
theorem map_eq_map {γ : Type} {x : Except ε α} {y : Except ε β} {f : α → γ} {g : β → γ} :
    x.map f = y.map g ↔
      (∃ e, x = .error e ∧ y = .error e) ∨ ∃ a b, x = .ok a ∧ y = .ok b ∧ f a = g b := by
  cases x with
  | error e => cases y <;> simp [Except.map, eq_comm]
  | ok a => cases y <;> simp [Except.map]

/-- A loop that collects results collects those of a plain function where no step fails. -/
theorem mapM_eq_ok {f : α → Except ε β} {g : α → β} {xs : List α}
    (h : ∀ x ∈ xs, f x = .ok (g x)) : xs.mapM f = .ok (xs.map g) := by
  induction xs with
  | nil => rfl
  | cons x xs ih =>
      rw [List.mapM_cons, h x List.mem_cons_self, ih fun y hy => h y (List.mem_cons_of_mem x hy)]
      rfl

theorem exists_mapM_eq_ok {f : α → Except ε β} {xs : List α} (h : ∀ x ∈ xs, ∃ y, f x = .ok y) :
    ∃ ys, xs.mapM f = .ok ys := by
  induction xs with
  | nil => exact ⟨[], rfl⟩
  | cons x xs ih =>
      obtain ⟨y, hy⟩ := h x List.mem_cons_self
      obtain ⟨ys, hys⟩ := ih fun z hz => h z (List.mem_cons_of_mem x hz)
      refine ⟨y :: ys, ?_⟩
      rw [List.mapM_cons, hy, hys]
      rfl

theorem filterMap_of_mapM {f : α → Except ε β} {xs : List α} {ys : List β} (h : xs.mapM f = .ok ys) :
    xs.filterMap (fun x => (f x).toOption) = ys := by
  induction xs generalizing ys with
  | nil =>
      cases h
      rfl
  | cons x xs ih =>
      rw [List.mapM_cons] at h
      obtain ⟨y, hy, h⟩ := bind_eq_ok.mp h
      obtain ⟨zs, hzs, h⟩ := bind_eq_ok.mp h
      cases h
      rw [List.filterMap_cons, hy, ih hzs]
      rfl

theorem mem_of_mapM {f : α → Except ε β} {xs : List α} {ys : List β} (h : xs.mapM f = .ok ys) :
    ∀ y ∈ ys, ∃ x ∈ xs, f x = .ok y := by
  induction xs generalizing ys with
  | nil =>
      cases h
      simp
  | cons x xs ih =>
      rw [List.mapM_cons] at h
      obtain ⟨y, hy, h⟩ := bind_eq_ok.mp h
      obtain ⟨zs, hzs, h⟩ := bind_eq_ok.mp h
      cases h
      intro z hz
      rcases List.mem_cons.mp hz with rfl | hz
      · exact ⟨x, List.mem_cons_self, hy⟩
      · obtain ⟨w, hw, hwz⟩ := ih hzs z hz
        exact ⟨w, List.mem_cons_of_mem x hw, hwz⟩

/-- What each step keeps of its element, the loop keeps of the list. -/
theorem map_of_mapM {γ : Type} {f : α → Except ε β} {xs : List α} {ys : List β} {p : α → γ} {q : β → γ}
    (hkeep : ∀ x y, f x = .ok y → q y = p x) (h : xs.mapM f = .ok ys) : ys.map q = xs.map p := by
  induction xs generalizing ys with
  | nil =>
      cases h
      rfl
  | cons x xs ih =>
      rw [List.mapM_cons] at h
      obtain ⟨y, hy, h⟩ := bind_eq_ok.mp h
      obtain ⟨zs, hzs, h⟩ := bind_eq_ok.mp h
      cases h
      rw [List.map_cons, List.map_cons, hkeep x y hy, ih hzs]

theorem foldlM_eq_ok {f : σ → α → Except ε σ} {g : σ → α → σ} {xs : List α} {s : σ}
    (h : ∀ x ∈ xs, ∀ s, f s x = .ok (g s x)) : xs.foldlM f s = .ok (xs.foldl g s) := by
  induction xs generalizing s with
  | nil => rfl
  | cons x xs ih =>
      rw [List.foldlM_cons, h x List.mem_cons_self]
      exact ih fun y hy => h y (List.mem_cons_of_mem x hy)

/-- What holds of the start of a loop and is kept by every step holds of its end. -/
theorem foldlM_invariant {f : σ → α → Except ε σ} {P : σ → Prop} {xs : List α} {s t : σ}
    (step : ∀ x ∈ xs, ∀ s t, P s → f s x = .ok t → P t) (start : P s) (h : xs.foldlM f s = .ok t) :
    P t := by
  induction xs generalizing s with
  | nil =>
      cases h
      exact start
  | cons x xs ih =>
      rw [List.foldlM_cons] at h
      cases hx : f s x with
      | error e => rw [hx] at h; cases h
      | ok s' =>
          rw [hx] at h
          exact ih (fun y hy => step y (List.mem_cons_of_mem x hy))
            (step x List.mem_cons_self s s' start hx) h

/-- A loop that fails does so at one element, in the state that those before it leave. -/
theorem foldlM_eq_error {f : σ → α → Except ε σ} {xs : List α} {s : σ} {e : ε} (h : xs.foldlM f s = .error e) :
    ∃ front x back t, xs = front ++ x :: back ∧ front.foldlM f s = .ok t ∧ f t x = .error e := by
  induction xs generalizing s with
  | nil => cases h
  | cons x xs ih =>
      rw [List.foldlM_cons] at h
      cases hx : f s x with
      | error e' =>
          rw [hx] at h
          cases h
          exact ⟨[], x, xs, s, rfl, rfl, hx⟩
      | ok s' =>
          rw [hx] at h
          obtain ⟨front, y, back, t, rfl, hfront, hy⟩ := ih h
          refine ⟨x :: front, y, back, t, rfl, ?_, hy⟩
          rw [List.foldlM_cons, hx]
          exact hfront

/-- A loop that collects results passes every element, or ends with the failure of one. -/
theorem mapM_outcome (f : α → Except ε β) (xs : List α) :
    (∃ ys, xs.mapM f = .ok ys ∧ ∀ x ∈ xs, ∃ y, f x = .ok y) ∨
      ∃ x ∈ xs, ∃ e, f x = .error e ∧ xs.mapM f = .error e := by
  induction xs with
  | nil => exact Or.inl ⟨[], rfl, by simp⟩
  | cons x xs ih =>
      rw [List.mapM_cons]
      cases hx : f x with
      | error e => exact Or.inr ⟨x, List.mem_cons_self, e, hx, rfl⟩
      | ok y =>
          rcases ih with ⟨ys, hys, hall⟩ | ⟨z, hz, e, hfz, hrest⟩
          · rw [hys]
            refine Or.inl ⟨y :: ys, rfl, ?_⟩
            simpa [hx] using hall
          · rw [hrest]
            exact Or.inr ⟨z, List.mem_cons_of_mem x hz, e, hfz, rfl⟩

/-- A loop fails, in a way that every failing step shares, if some element passes in no state. -/
theorem foldlM_fails {f : σ → α → Except ε σ} {xs : List α} {s : σ} {Q : ε → Prop}
    (hbad : ∃ x ∈ xs, ∀ s t, f s x ≠ .ok t) (herr : ∀ x ∈ xs, ∀ s e, f s x = .error e → Q e) :
    ∃ e, xs.foldlM f s = .error e ∧ Q e := by
  induction xs generalizing s with
  | nil =>
      obtain ⟨x, hx, -⟩ := hbad
      cases hx
  | cons x xs ih =>
      rw [List.foldlM_cons]
      cases hx : f s x with
      | error e => exact ⟨e, rfl, herr x List.mem_cons_self s e hx⟩
      | ok s' =>
          obtain ⟨z, hz, hnone⟩ := hbad
          rcases List.mem_cons.mp hz with rfl | hz
          · exact absurd hx (hnone s s')
          · exact ih ⟨z, hz, hnone⟩ fun y hy => herr y (List.mem_cons_of_mem x hy)

theorem mapM_fails {f : α → Except ε β} {xs : List α} {Q : ε → Prop}
    (hbad : ∃ x ∈ xs, ∀ y, f x ≠ .ok y) (herr : ∀ x ∈ xs, ∀ e, f x = .error e → Q e) :
    ∃ e, xs.mapM f = .error e ∧ Q e := by
  rcases mapM_outcome f xs with ⟨-, -, hall⟩ | ⟨x, hx, e, hfx, hrun⟩
  · obtain ⟨x, hx, hnone⟩ := hbad
    obtain ⟨y, hy⟩ := hall x hx
    exact absurd hy (hnone y)
  · exact ⟨e, hrun, herr x hx e hfx⟩

end Failing

end FlowBlocks
