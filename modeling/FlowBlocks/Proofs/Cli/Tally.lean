import Mathlib.Algebra.GroupWithZero.Nat
import FlowBlocks.Cli.Tally
import FlowBlocks.Proofs.Batch.Reads
import FlowBlocks.Proofs.Report.Dump
import FlowBlocks.Proofs.Text.Blanks
/-!
What failed, counted twice: by the rows of the summary and by the dumps. Both counts come to the files that
could not be read or parsed and the bodies without instructions.
-/
namespace FlowBlocks

namespace Bytes

/-- Replacing a byte keeps the others. -/
theorem mem_replace {a b : UInt8} (hne : b ≠ a) (new : Bytes) {s : Bytes} (h : b ∈ s) :
    b ∈ Bytes.replace [a] new s := by
  have honto : ∀ done, b ∈ done ∨ b ∈ s → b ∈ Bytes.replaceOnto [a] new done 0 s := by
    clear h
    induction s with
    | nil =>
        intro done h
        exact h.resolve_right List.not_mem_nil
    | cons c rest ih =>
        intro done h
        rw [Bytes.replaceOnto]
        split
        · next hc =>
            have hca : a = c := by simpa using hc
            apply ih
            rcases h with h | h
            · exact Or.inl (List.mem_append_right _ h)
            · exact Or.inr ((List.mem_cons.mp h).resolve_left fun hbc => hne (hbc.trans hca.symm))
        · apply ih
          rcases h with h | h
          · exact Or.inl (List.mem_cons_of_mem c h)
          · rcases List.mem_cons.mp h with rfl | h
            · exact Or.inl List.mem_cons_self
            · exact Or.inr h
  exact List.mem_reverse.mpr (honto [] (Or.inr h))

end Bytes

section Trim

open Utf8

theorem mem_dropWhile_of_not {α : Type} {p : α → Bool} {x : α} {xs : List α} (hx : p x = false) (h : x ∈ xs) :
    x ∈ xs.dropWhile p := by
  rw [← List.takeWhile_append_dropWhile (p := p) (l := xs)] at h
  refine (List.mem_append.mp h).resolve_left fun hmem => ?_
  rw [List.mem_takeWhile_imp hmem] at hx
  cases hx

/-- Trimming keeps what is not blank. -/
theorem mem_trim {b : UInt8} (hb : b < 0x80) (hsolid : isBlank b.toNat = false) {s : Bytes} (h : b ∈ s) :
    b ∈ trim s := by
  obtain ⟨front, back, rfl⟩ := List.append_of_mem h
  have hrune : (⟨b.toNat, [b]⟩ : Rune) ∈ runes (front ++ b :: back) := by
    rw [runes_append_ascii hb]
    exact List.mem_append_right _ List.mem_cons_self
  refine List.mem_flatMap.mpr ⟨⟨b.toNat, [b]⟩, ?_, List.mem_cons_self⟩
  have hrune' : Rune.isBlank ⟨b.toNat, [b]⟩ = false := hsolid
  rw [List.mem_reverse]
  apply mem_dropWhile_of_not hrune'
  rw [List.mem_reverse]
  exact mem_dropWhile_of_not hrune' hrune

end Trim

theorem FileFailure.colon_mem (e : FileFailure) : byte ':' ∈ e.message := by
  cases e with
  | unreadable cause => exact List.mem_append_left _ (by decide)
  | malformed file cause =>
      cases cause with
      | malformed line e => simp [FileFailure.message, ListingError.message, show byte ':' ∈ bytes ":" by decide]
      | lineTooLong =>
          exact List.mem_append_right _ (by decide)

namespace Table

variable (style : TableStyle) (rows : List Row)

theorem lines_eq : ∃ above, lines style rows = above ++ [totals rows] ∧ above ≠ [] ∧
    ∀ piece ∈ above, ∃ text, piece = text ++ [10] := by
  refine ⟨_, rfl, List.cons_ne_nil _ _, fun piece hpiece => ?_⟩
  rcases List.mem_cons.mp hpiece with rfl | hpiece
  · exact ⟨_, rfl⟩
  · obtain ⟨cell, -, rfl⟩ := List.mem_map.mp hpiece
    exact ⟨_, rfl⟩

/-- The last line of a table gives the totals. -/
theorem print_text : ∃ front, (print style rows {}).2.text = front ++ [10] ++ totals rows := by
  obtain ⟨above, hlines, hne, hended⟩ := lines_eq style rows
  obtain ⟨before, last, rfl⟩ := (List.eq_nil_or_concat above).resolve_left hne
  obtain ⟨text, rfl⟩ := hended last (by simp)
  refine ⟨before.flatten ++ text, ?_⟩
  rw [print, Writer.writeAll_roomy rfl, hlines]
  simp

end Table

namespace Cli

open Batch

theorem colon_mem_oneLine {s : Bytes} (h : byte ':' ∈ s) : byte ':' ∈ oneLine s :=
  Bytes.mem_replace (by decide) _ (mem_trim (by decide) (by decide) h)

/-- A status with a colon in it is a failure. -/
theorem failed_of_colon {row : Row} (h : byte ':' ∈ row.status) : row.failed = true := by
  have hne : ∀ status, byte ':' ∉ status → row.status ≠ status := by
    rintro status hstatus rfl
    exact hstatus h
  simp [Row.failed, hne (bytes "ok") (by decide), hne (bytes "cached") (by decide)]

namespace Tally

theorem foldl_append_counts (ts : List Tally) (t : Tally) :
    (ts.foldl append t).failed = t.failed + (ts.map (·.failed)).sum ∧
      (ts.foldl append t).total = t.total + (ts.map (·.total)).sum := by
  induction ts generalizing t with
  | nil => exact ⟨rfl, rfl⟩
  | cons u ts ih =>
      obtain ⟨hfailed, htotal⟩ := ih (t.append u)
      rw [List.foldl_cons, hfailed, htotal, List.map_cons, List.map_cons, List.sum_cons, List.sum_cons]
      exact ⟨Nat.add_assoc _ _ _, Nat.add_assoc _ _ _⟩

theorem failed_sum (ts : List Tally) : (sum ts).failed = (ts.map (·.failed)).sum :=
  (foldl_append_counts ts {}).1.trans (Nat.zero_add _)

theorem total_sum (ts : List Tally) : (sum ts).total = (ts.map (·.total)).sum :=
  (foldl_append_counts ts {}).2.trans (Nat.zero_add _)

end Tally

/-- Counts bodies of a listing. One that could not be read or parsed counts as one body. -/
def count (p : Body → Bool) : Except FileFailure (List Body) → Nat
  | .error _ => 1
  | .ok bodies => bodies.countP p

/-- How many listings could not be read or parsed. -/
def unread (xs : List (Except FileFailure (List Body))) : Nat := xs.countP fun x => x.toOption.isNone

/-- The bodies of the other listings. -/
def parsed (xs : List (Except FileFailure (List Body))) : List Body := xs.flatMap fun x => x.toOption.getD []

/-- The bodies that fail, a listing that came to nothing among them. -/
def failing (xs : List (Except FileFailure (List Body))) : Nat := unread xs + (parsed xs).countP (·.size = 0)

/-- The bodies in all, a listing that came to nothing among them. -/
def counted (xs : List (Except FileFailure (List Body))) : Nat := unread xs + (parsed xs).length

theorem sum_count (p : Body → Bool) (xs : List (Except FileFailure (List Body))) :
    (xs.map (count p)).sum = unread xs + (parsed xs).countP p := by
  induction xs with
  | nil => rfl
  | cons x rest ih =>
      rw [List.map_cons, List.sum_cons, ih, unread, unread, parsed, parsed, List.flatMap_cons, List.countP_append,
        List.countP_cons]
      cases x with
      | error e =>
          simp only [count, Except.toOption, Option.isNone_none, if_true, Option.getD_none, List.countP_nil]
          omega
      | ok bodies =>
          simp only [count, Except.toOption, Option.isNone_some, Bool.false_eq_true, if_false, Option.getD_some]
          omega

theorem sum_failing (xs : List (Except FileFailure (List Body))) :
    (xs.map (count (·.size = 0))).sum = failing xs :=
  sum_count _ xs

theorem sum_counted (xs : List (Except FileFailure (List Body))) :
    (xs.map (count fun _ => true)).sum = counted xs := by
  rw [sum_count, List.countP_true, counted]

/-- Nothing fails just where every listing could be read and parsed and no body is empty. -/
theorem failing_eq_zero {xs : List (Except FileFailure (List Body))} :
    failing xs = 0 ↔ ∀ x ∈ xs, ∃ bodies, x = .ok bodies ∧ ∀ b ∈ bodies, b.size ≠ 0 := by
  rw [failing, Nat.add_eq_zero_iff, unread, List.countP_eq_zero, List.countP_eq_zero]
  constructor
  · rintro ⟨hread, hbodies⟩ x hx
    cases x with
    | error e => exact absurd rfl (hread _ hx)
    | ok bodies =>
        refine ⟨bodies, rfl, fun b hb => ?_⟩
        simpa using hbodies b (List.mem_flatMap.mpr ⟨_, hx, hb⟩)
  · intro h
    constructor
    · intro x hx
      obtain ⟨bodies, rfl, -⟩ := h x hx
      exact Bool.false_ne_true
    · intro b hb
      obtain ⟨x, hx, hmem⟩ := List.mem_flatMap.mp hb
      obtain ⟨bodies, rfl, hsizes⟩ := h x hx
      simpa using hsizes b hmem

section Bodies

variable {o : BatchOptions} {b : Body} (hb : b.Sound) (hfit : b.size < 0x100000000)
include hb hfit

theorem bodyRow_failed {r : FileResult} (hr : r.cached = false) :
    (bodyRow r (bodyOutcome o b)).failed = decide (b.size = 0) := by
  by_cases hsize : b.size = 0
  · have hstatus : (bodyRow r (bodyOutcome o b)).status = oneLine (bytes "blockgraph: body has no units") := by
      rw [bodyRow, bodyOutcome_void hsize]
      rfl
    rw [decide_eq_true hsize]
    apply failed_of_colon
    rw [hstatus]
    exact colon_mem_oneLine (by decide)
  · obtain ⟨outline, hfailure, hviolations, -, -⟩ := bodyOutcome_built (o := o) hb hsize hfit
    have hstatus : (bodyRow r (bodyOutcome o b)).status = bytes "ok" := by
      rw [bodyRow, hfailure, hviolations, hr]
      rfl
    rw [decide_eq_false hsize, Row.failed, hstatus]
    decide

theorem ofBody_counts (style : DumpStyle) (path : Bytes) :
    (Tally.ofBody style path (bodyOutcome o b)).failed = (if b.size = 0 then 1 else 0) ∧
      (Tally.ofBody style path (bodyOutcome o b)).total = 1 := by
  by_cases hsize : b.size = 0
  · rw [if_pos hsize, Tally.ofBody, bodyOutcome_void hsize]
    exact ⟨rfl, rfl⟩
  · obtain ⟨outline, hfailure, -, houtline, hrange⟩ := bodyOutcome_built (o := o) hb hsize hfit
    rw [if_neg hsize, Tally.ofBody, hfailure, houtline]
    dsimp only
    rw [Outline.dump, hrange]
    dsimp only
    rw [Writer.writeAll_roomy rfl]
    exact ⟨rfl, rfl⟩

end Bodies

theorem ofBodies_counts {o : BatchOptions} {bodies : List Body}
    (h : ∀ b ∈ bodies, b.Sound ∧ b.size < 0x100000000) (style : DumpStyle) (path : Bytes) :
    (Tally.sum ((bodies.map (bodyOutcome o)).map (Tally.ofBody style path))).failed =
        bodies.countP (·.size = 0) ∧
      (Tally.sum ((bodies.map (bodyOutcome o)).map (Tally.ofBody style path))).total = bodies.length := by
  rw [Tally.failed_sum, Tally.total_sum]
  induction bodies with
  | nil => exact ⟨rfl, rfl⟩
  | cons b rest ih =>
      obtain ⟨hb, hfit⟩ := h b List.mem_cons_self
      obtain ⟨hfailed, htotal⟩ := ofBody_counts (o := o) hb hfit style path
      obtain ⟨hrest, hrest'⟩ := ih fun b hb => h b (List.mem_cons_of_mem _ hb)
      simp only [List.map_cons, List.sum_cons, hfailed, htotal, hrest, hrest', List.countP_cons,
        decide_eq_true_eq, List.length_cons]
      exact ⟨Nat.add_comm _ _, Nat.add_comm _ _⟩

section Files

variable {o : BatchOptions} {x : Except FileFailure (List Body)}
  (hx : ∀ bodies, x = .ok bodies → ∀ b ∈ bodies, b.Sound ∧ b.size < 0x100000000)
include hx

theorem fileRows_counts (path : Bytes) :
    (fileRows (resultOf o path x)).countP Row.failed = count (·.size = 0) x ∧
      (fileRows (resultOf o path x)).length = count (fun _ => true) x := by
  cases x with
  | error e =>
      have hfailed : Row.failed { file := path, body := bytes "-", status := oneLine e.message } = true :=
        failed_of_colon (colon_mem_oneLine e.colon_mem)
      exact ⟨List.countP_singleton.trans (if_pos hfailed), rfl⟩
  | ok bodies =>
      refine ⟨?_, by simp [fileRows, resultOf, count]⟩
      rw [fileRows, resultOf]
      dsimp only
      rw [List.map_map, List.countP_map, count]
      refine List.countP_congr fun b hb => ?_
      obtain ⟨hsound, hfit⟩ := hx bodies rfl b hb
      rw [Function.comp_apply, Function.comp_apply, bodyRow_failed hsound hfit rfl]

theorem ofFile_counts (style : DumpStyle) (heading : Bool) (path : Bytes) :
    (Tally.ofFile style heading (resultOf o path x)).failed = count (·.size = 0) x ∧
      (Tally.ofFile style heading (resultOf o path x)).total = count (fun _ => true) x := by
  cases x with
  | error e => exact ⟨rfl, rfl⟩
  | ok bodies =>
      obtain ⟨hfailed, htotal⟩ := ofBodies_counts (o := o) (hx bodies rfl) style path
      have hlength : bodies.length = count (fun _ => true) (.ok bodies) := by rw [count, List.countP_true]
      exact ⟨(Nat.zero_add _).trans hfailed, (Nat.zero_add _).trans (htotal.trans hlength)⟩

end Files

section Runs

variable {o : BatchOptions} (ho : o.store = none) (files : List Bytes) (r : Trace.Recorder)
include ho

/-- The rows of a batch count what was not read, and the bodies; those that failed are the empty ones. -/
theorem summaryRows_run :
    (summaryRows (Batch.run o false 0 files r).1.results).countP Row.failed = failing (readings o files r) ∧
      (summaryRows (Batch.run o false 0 files r).1.results).length = counted (readings o files r) := by
  rw [summaryRows, List.countP_flatMap, List.length_flatMap, ← sum_failing, ← sum_counted]
  refine ⟨congrArg List.sum (run_results_map ho fun path x hx => ?_),
    congrArg List.sum (run_results_map ho fun path x hx => ?_)⟩
  · exact (fileRows_counts (readings_fit hx) path).1
  · exact (fileRows_counts (readings_fit hx) path).2

theorem ofFiles_run (style : DumpStyle) (quiet : Bool) :
    (Tally.ofFiles style quiet (Batch.run o false 0 files r).1.results).failed = failing (readings o files r) ∧
      (Tally.ofFiles style quiet (Batch.run o false 0 files r).1.results).total = counted (readings o files r) := by
  rw [Tally.ofFiles, Tally.failed_sum, Tally.total_sum, List.map_map, List.map_map, ← sum_failing, ← sum_counted]
  refine ⟨congrArg List.sum (run_results_map ho fun path x hx => ?_),
    congrArg List.sum (run_results_map ho fun path x hx => ?_)⟩
  · exact (ofFile_counts (readings_fit hx) style _ path).1
  · exact (ofFile_counts (readings_fit hx) style _ path).2

end Runs

end Cli

end FlowBlocks
