import Mathlib.Data.List.Rotate
import FlowBlocks.Proofs.Batch.Results
/-!
Histories of a store. A history runs files in any order with one store, which starts without records and is
filled by these runs alone; so every record in it was filed by one of the runs. A batch runs its files one
after the other and thereby continues a history.
-/
namespace FlowBlocks.Batch

open Trace

/-- A file that is run: with which options, under which span, and in which state. -/
structure Visit where
  options : BatchOptions
  parent : Nat
  path : Bytes
  before : Recorder

namespace Visit

def result (v : Visit) : FileResult := (runFile v.options v.parent v.path v.before).1.1

def after (v : Visit) : Recorder := (runFile v.options v.parent v.path v.before).2

/-- The disk that the file is read from. -/
def disk (v : Visit) : Disk := (opened v.parent v.path v.before).host.disk

/-- The listing, where it can be read. -/
def source? (v : Visit) : Option Bytes := (v.disk.read v.path).toOption

end Visit

/-- No trace is written over a record. -/
def Apart (site : Bytes → List Bytes) (r : Recorder) : Prop :=
  ∀ place ∈ r.sink.places, ∀ key, place ≠ site key

/-- A batch has its records at `site`, whichever path it knows the store by, and does not verify. -/
structure Uses (site : Bytes → List Bytes) (o : BatchOptions) (cwd : List Bytes) : Prop where
  store : ∃ s, o.store = some s ∧ s.site cwd = site
  unverified : o.verify = false

/-- Histories of the store whose records are at `site`, latest run first. It starts without records. Between
runs anything may happen to the disk as long as the store gains no record. -/
inductive Visits (site : Bytes → List Bytes) : List Visit → Recorder → Prop
  | start {r : Recorder} (blank : ∀ key content, r.host.disk.node? (site key) ≠ some (.file content))
      (apart : Apart site r) : Visits site [] r
  | outside {vs : List Visit} {r r' : Recorder} (earlier : Visits site vs r)
      (spared : ∀ key content, r'.host.disk.node? (site key) = some (.file content) →
        r.host.disk.node? (site key) = some (.file content))
      (apart : Apart site r') : Visits site vs r'
  | file {vs : List Visit} (v : Visit) (earlier : Visits site vs v.before)
      (uses : Uses site v.options v.before.host.disk.cwd) : Visits site (v :: vs) v.after

/-- Every record of the store was filed by one of the runs. -/
structure Kept (site : Bytes → List Bytes) (vs : List Visit) (r : Recorder) : Prop where
  apart : Apart site r
  records : ∀ key content, r.host.disk.node? (site key) = some (.file content) →
    ∃ v ∈ vs, ∃ src, v.source? = some src ∧ Filed v.options v.path src key content

section History

variable {site : Bytes → List Bytes} {vs : List Visit} {r r' : Recorder}

theorem Kept.of_gains (h : Kept site vs r)
    (hgain : Recorder.Gains (fun place _ => place ∈ r.sink.places) r r') : Kept site vs r' := by
  refine ⟨?_, ?_⟩
  · intro place hplace
    rw [hgain.places] at hplace
    exact h.apart place hplace
  · intro key content hnode
    rcases hgain.disk.files _ content hnode with hold | hnew
    · exact h.records key content hold
    · exact absurd rfl (h.apart _ hnew key)

theorem Kept.of_traces {α : Type} {x : Recorded α} (h : Kept site vs r) (hx : Recorder.OnlyTraces x) :
    Kept site vs (x r).2 :=
  h.of_gains (hx.gains fun _ hplace _ => hplace)

theorem Kept.opened {v : Visit} (h : Kept site vs v.before) :
    Kept site vs (opened v.parent v.path v.before) :=
  h.of_traces (Recorder.onlyTraces_begin _ _ _)

/-- What a run adds to the records is the record of its own listing. -/
theorem Kept.step {v : Visit} (h : Kept site vs v.before)
    (hu : Uses site v.options v.before.host.disk.cwd) : Kept site (v :: vs) v.after := by
  obtain ⟨⟨s, hs, rfl⟩, -⟩ := hu
  have hgain := runFile_gains hs v.parent v.path v.before
  refine ⟨?_, ?_⟩
  · intro place hplace
    rw [Visit.after, hgain.places] at hplace
    exact h.apart place hplace
  · intro key content hnode
    rcases hgain.disk.files _ content hnode with hold | hplace | hfree | ⟨src, key', hread, hfiled, hsite⟩
    · obtain ⟨w, hw, hrest⟩ := h.records key content hold
      exact ⟨w, List.mem_cons_of_mem v hw, hrest⟩
    · exact absurd rfl (h.apart _ hplace key)
    · exact absurd rfl (hfree key)
    · rw [← Store.site_inj hsite] at hfiled
      refine ⟨v, List.mem_cons_self, src, ?_, hfiled⟩
      rw [Visit.source?, Visit.disk, hread]
      rfl

theorem Visits.kept (h : Visits site vs r) : Kept site vs r := by
  induction h with
  | start blank apart => exact ⟨apart, fun key content hnode => absurd hnode (blank key content)⟩
  | outside _ spared apart ih =>
      exact ⟨apart, fun key content hnode => ih.records key content (spared key content hnode)⟩
  | file v _ uses ih => exact ih.step uses

theorem Visits.of_traces {α : Type} {x : Recorded α} (h : Visits site vs r) (hx : Recorder.OnlyTraces x) :
    Visits site vs (x r).2 := by
  have hgain := hx.gains (S := fun place _ => place ∈ r.sink.places) fun _ hplace _ => hplace
  refine .outside h (fun key content hnode => ?_) (h.kept.of_traces hx).apart
  rcases hgain.disk.files _ content hnode with hold | hnew
  · exact hold
  · exact absurd rfl (h.kept.apart _ hnew key)

theorem Visits.unverified (h : Visits site vs r) : ∀ v ∈ vs, v.options.verify = false := by
  induction h with
  | start => exact fun _ hv => absurd hv List.not_mem_nil
  | outside _ _ _ ih => exact ih
  | file v _ uses ih =>
      intro w hw
      rcases List.mem_cons.mp hw with rfl | hw
      · exact uses.unverified
      · exact ih w hw

end History

/-- The files that are run one after the other. -/
def trail (o : BatchOptions) (parent : Nat) : List Bytes → Recorder → List Visit
  | [], _ => []
  | path :: rest, r =>
    let v : Visit := ⟨o, parent, path, r⟩
    v :: trail o parent rest v.after

/-- The span of a batch, and the state in which its files are run. -/
def begun (parent : Nat) (r : Recorder) : Span × Recorder :=
  Recorder.begin_ .driver (bytes "batch") parent r

/-- The files that a batch runs, in the order in which it runs them. -/
def order (o : BatchOptions) (parent : Nat) (files : List Bytes) (r : Recorder) : List Visit :=
  trail o ((begun parent r).1.under parent) (files.rotateLeft (deferred o.jobs files.length))
    (begun parent r).2

/-- The files that a batch runs, in the order of its results. -/
def visited (o : BatchOptions) (parent : Nat) (files : List Bytes) (r : Recorder) : List Visit :=
  (order o parent files r).rotateRight (deferred o.jobs files.length)

section Rotation

variable {α β : Type} (xs : List α) (n : Nat)

theorem rotateLeft_eq_rotate : xs.rotateLeft n = xs.rotate n := by
  unfold List.rotateLeft
  dsimp only
  split
  · next h =>
      match xs, h with
      | [], _ => rfl
      | [x], _ => exact (List.rotate_singleton x n).symm
  · exact List.rotate_eq_drop_append_take_mod.symm

theorem rotateRight_eq_rotate : xs.rotateRight n = xs.rotate (xs.length - n % xs.length) := by
  unfold List.rotateRight
  dsimp only
  split
  · next h =>
      match xs, h with
      | [], _ => rfl
      | [x], _ => exact (List.rotate_singleton x _).symm
  · exact (List.rotate_eq_drop_append_take (Nat.sub_le _ _)).symm

theorem map_rotateRight (f : α → β) : (xs.rotateRight n).map f = (xs.map f).rotateRight n := by
  rw [rotateRight_eq_rotate, rotateRight_eq_rotate, List.map_rotate, List.length_map]

theorem rotateRight_rotateLeft : (xs.rotateLeft n).rotateRight n = xs := by
  rw [rotateLeft_eq_rotate, rotateRight_eq_rotate, List.length_rotate, List.rotate_rotate,
    ← List.rotate_mod]
  cases xs with
  | nil => rfl
  | cons x xs =>
      have hlt : n % (x :: xs).length < (x :: xs).length := Nat.mod_lt n (Nat.succ_pos _)
      have hsum : (n + ((x :: xs).length - n % (x :: xs).length)) % (x :: xs).length = 0 := by
        rw [← Nat.mod_add_mod, Nat.add_sub_cancel' hlt.le, Nat.mod_self]
      rw [hsum, List.rotate_zero]

theorem perm_rotateRight : (xs.rotateRight n).Perm xs := by
  rw [rotateRight_eq_rotate]
  exact List.rotate_perm xs _

end Rotation

section Runs

variable (o : BatchOptions) (parent : Nat) (files : List Bytes) (r : Recorder)

theorem trail_paths : (trail o parent files r).map Visit.path = files := by
  induction files generalizing r with
  | nil => rfl
  | cons path rest ih => exact congrArg (path :: ·) (ih _)

theorem trail_options : ∀ v ∈ trail o parent files r, v.options = o := by
  induction files generalizing r with
  | nil => exact fun _ hv => absurd hv List.not_mem_nil
  | cons path rest ih =>
      intro v hv
      rcases List.mem_cons.mp hv with rfl | hv
      · rfl
      · exact ih _ v hv

theorem runFiles_results : (runFiles o parent files r).1.1 = (trail o parent files r).map Visit.result := by
  induction files generalizing r with
  | nil => rfl
  | cons path rest ih =>
      simp only [runFiles, Recorded.bind_apply, Recorded.pure_apply, trail, List.map_cons, ih]
      rfl

theorem visited_paths : (visited o parent files r).map Visit.path = files := by
  unfold visited order
  rw [map_rotateRight, trail_paths]
  exact rotateRight_rotateLeft files _

theorem visited_perm : (visited o parent files r).Perm (order o parent files r) := perm_rotateRight _ _

theorem visited_options : ∀ v ∈ visited o parent files r, v.options = o :=
  fun v hv => trail_options _ _ _ _ v ((visited_perm o parent files r).mem_iff.mp hv)

theorem run_results : (run o false parent files r).1.results = (visited o parent files r).map Visit.result := by
  cases files with
  | nil => rfl
  | cons path rest =>
      unfold visited order
      rw [map_rotateRight, ← runFiles_results]
      rfl

theorem run_cancelled_results : (run o true parent files r).1.results = files.map fun _ => {} := by
  cases files with
  | nil => rfl
  | cons path rest =>
      simp only [run, List.isEmpty_cons, Bool.false_eq_true, if_false, if_true, Recorded.bind_apply,
        Recorded.pure_apply]

end Runs

section Continued

variable {site : Bytes → List Bytes} {vs : List Visit} {r : Recorder} {o : BatchOptions}

theorem Uses.of_traces {α : Type} {x : Recorded α} (h : Uses site o r.host.disk.cwd)
    (hx : Recorder.OnlyTraces x) : Uses site o (x r).2.host.disk.cwd := by
  rw [(hx.gains (S := fun place _ => place ∈ r.sink.places) fun _ hplace _ => hplace).disk.cwd]
  exact h

theorem Visits.runFiles (h : Visits site vs r) (hu : Uses site o r.host.disk.cwd) (parent : Nat)
    (files : List Bytes) :
    Visits site ((trail o parent files r).reverse ++ vs) (runFiles o parent files r).2 := by
  induction files generalizing vs r with
  | nil => exact h
  | cons path rest ih =>
      obtain ⟨s, hs, -⟩ := hu.store
      have hafter : Uses site o (runFile o parent path r).2.host.disk.cwd := by
        rw [(runFile_gains hs parent path r).disk.cwd]
        exact hu
      have hlater := ih (Visits.file ⟨o, parent, path, r⟩ h hu) hafter
      rw [trail, List.reverse_cons, List.append_assoc, List.singleton_append]
      exact hlater

theorem Visits.begun (h : Visits site vs r) (parent : Nat) : Visits site vs (begun parent r).2 :=
  h.of_traces (Recorder.onlyTraces_begin _ _ _)

theorem Visits.ended (h : Visits site vs r) (span : Span) (files : List Bytes) :
    Visits site vs (Recorder.end_ (span.noting (bytes "files") (decimal files.length)) [] r).2 :=
  h.of_traces (Recorder.onlyTraces_end _ _)

/-- A batch continues a history by the files that it runs. -/
theorem Visits.run (h : Visits site vs r) (hu : Uses site o r.host.disk.cwd) (parent : Nat)
    (files : List Bytes) :
    Visits site ((order o parent files r).reverse ++ vs) (run o false parent files r).2 := by
  cases files with
  | nil => exact h
  | cons path rest =>
      have hbegun := hu.of_traces (Recorder.onlyTraces_begin .driver (bytes "batch") parent)
      have hfiles := (h.begun parent).runFiles hbegun ((Batch.begun parent r).1.under parent)
        ((path :: rest).rotateLeft (deferred o.jobs (path :: rest).length))
      exact hfiles.ended (Batch.begun parent r).1 (path :: rest)

theorem Visits.run_cancelled (h : Visits site vs r) (parent : Nat) (files : List Bytes) :
    Visits site vs (Batch.run o true parent files r).2 := by
  cases files with
  | nil => exact h
  | cons path rest => exact (h.begun parent).ended (Batch.begun parent r).1 (path :: rest)

end Continued

end FlowBlocks.Batch
