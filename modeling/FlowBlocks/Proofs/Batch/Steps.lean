import FlowBlocks.Proofs.Batch.Reads
import FlowBlocks.Proofs.Batch.Transparency
import FlowBlocks.Proofs.Store.Spared
/-!
Batches step by step. Running a file records events, and files at most once in between (`Visit.after_steps`). What
a batch keeps follows from that: what every file keeps holds along the batch, and a listing that is neither under
the trace nor among the records is read as it was before.
-/
namespace FlowBlocks

section Overwritten

variable {places : List (List Bytes)} {d d₁ : Disk}

theorem Disk.Overwritten.dir_iff (h : Disk.Overwritten places d d₁) (q : List Bytes) :
    d₁.node? q = some .dir ↔ d.node? q = some .dir := by
  rcases h.nodes q with hsame | ⟨-, a, b, ha, hb⟩
  · rw [hsame]
  · simp [ha, hb]

theorem Disk.Overwritten.sound (h : Disk.Overwritten places d d₁) (hd : d.Sound) : d₁.Sound := by
  intro place name hne
  rw [h.dir_iff]
  refine hd place name fun hnone => hne ?_
  rcases h.nodes (place ++ [name]) with hsame | ⟨-, a, b, ha, -⟩
  · rw [hsame, hnone]
  · rw [hnone] at ha
    cases ha

theorem Disk.Overwritten.keeps (h : Disk.Overwritten places d d₁) (hd : d.Sound) :
    Disk.Keeps (· ∈ places) d d₁ := by
  refine ⟨h.cwd, h.sound hd, fun q hq => (h.dir_iff q).mpr hq, fun q c hq hfile => ?_⟩
  rw [h.node?_eq hq, hfile]

end Overwritten

namespace Batch

open Trace

/-- What was filed, or not, is followed by events at most. -/
theorem keep_emits {o : BatchOptions} {s : Store} (ho : o.store = some s) (span : Span) (src : Bytes)
    (result : FileResult) (r : Recorder) :
    Recorder.Emits { r with host.disk :=
      (s.put (Int64.ofInt r.host.now.sec) (key o src) (record o result) r.host.disk).disk }
      (keep o span src result r).2 := by
  simp only [keep, ho, Recorded.bind_apply, Recorded.get_apply, Recorded.modify_apply]
  cases (s.put (Int64.ofInt r.host.now.sec) (key o src) (record o result) r.host.disk).error with
  | none => exact .refl _
  | some e => exact Recorder.onlyTraces_failure _ _ _ _ _

namespace Visit

variable {v : Visit} {s : Store} {src : Bytes} {bodies : List Body}

/-- The state in which what was built of a listing is filed. -/
def filing (v : Visit) (src : Bytes) (bodies : List Body) : Recorder :=
  (runBodies v.options ((fileSpan v.parent v.path v.before).under v.parent) v.path bodies
    (lookUp v.options (fileSpan v.parent v.path v.before) src (opened v.parent v.path v.before)).2).2

/-- The record that is filed. -/
def fresh (v : Visit) (src : Bytes) (bodies : List Body) : Record :=
  (Batch.record v.options (built v.options v.path src)).stamped (Int64.ofInt (v.filing src bodies).host.now.sec)

/-- What comes of filing it. -/
def filed (v : Visit) (s : Store) (src : Bytes) (bodies : List Body) : Store.Filed :=
  s.put (Int64.ofInt (v.filing src bodies).host.now.sec) (key v.options src)
    (Batch.record v.options (built v.options v.path src)) (v.filing src bodies).host.disk

/-- The state right after that. -/
def stored (v : Visit) (s : Store) (src : Bytes) (bodies : List Body) : Recorder :=
  { v.filing src bodies with host.disk := (v.filed s src bodies).disk }

theorem opened_emits (v : Visit) : Recorder.Emits v.before (opened v.parent v.path v.before) :=
  Recorder.onlyTraces_begin _ _ _ v.before

theorem filing_emits (v : Visit) (src : Bytes) (bodies : List Body) :
    Recorder.Emits v.before (v.filing src bodies) :=
  (v.opened_emits.trans (onlyTraces_lookUp v.options _ src _)).trans
    (onlyTraces_runBodies v.options _ v.path bodies _)

/-- A listing that is parsed and not served is filed. -/
theorem after_filed (hs : v.options.store = some s) (hsrc : v.source? = some src)
    (hparse : Listing.parse v.path src = .ok bodies) (hmissing : v.record? = none) :
    Recorder.Emits (v.stored s src bodies) v.after := by
  have hfound : (lookUp v.options (fileSpan v.parent v.path v.before) src
      (opened v.parent v.path v.before)).1 = none := by
    rw [lookUp_fst, ← hmissing, record?, hsrc]
    rfl
  have hresult : built v.options v.path src = { path := v.path, bodies := bodies.map (bodyOutcome v.options) } := by
    rw [built, hparse]
  rw [stored, filed, hresult, after, runFile_built (read_eq hsrc) hfound]
  simp only [buildFile, hparse, Recorded.bind_apply, Recorded.pure_apply, runBodies_fst]
  exact (keep_emits hs _ src _ (v.filing src bodies)).trans (Recorder.onlyTraces_end _ _ _)

/-- What running a file does: it records events, or files what it built in between. -/
theorem after_steps (hs : v.options.store = some s) :
    Recorder.Emits v.before v.after ∨
      ∃ src bodies, v.source? = some src ∧ Listing.parse v.path src = .ok bodies ∧ v.record? = none ∧
        Recorder.Emits (v.stored s src bodies) v.after := by
  cases hread : v.disk.read v.path with
  | error e =>
      refine Or.inl ?_
      rw [after, runFile_unread hread]
      exact v.opened_emits.trans (onlyTraces_refuse v.path _ _ _)
  | ok src =>
      have hsrc : v.source? = some src := by rw [source?, hread]; rfl
      have hlooked := v.opened_emits.trans
        (onlyTraces_lookUp v.options (fileSpan v.parent v.path v.before) src _)
      cases hfound : (lookUp v.options (fileSpan v.parent v.path v.before) src
          (opened v.parent v.path v.before)).1 with
      | some found =>
          refine Or.inl ?_
          rw [after, runFile_served hread hfound]
          exact hlooked.trans (Recorder.onlyTraces_end _ _ _)
      | none =>
          cases hparse : Listing.parse v.path src with
          | error e =>
              refine Or.inl ?_
              rw [after, runFile_built hread hfound]
              simp only [buildFile, hparse, Recorded.bind_apply, Recorded.pure_apply]
              exact hlooked.trans (onlyTraces_refuse v.path _ _ _)
          | ok bodies =>
              have hmissing : v.record? = none := by
                rw [← hfound, lookUp_fst, record?, hsrc]
                rfl
              exact Or.inr ⟨src, bodies, hsrc, hparse, hmissing, after_filed hs hsrc hparse hmissing⟩

end Visit

section Batches

variable {P : Recorder → Prop} {o : BatchOptions} {parent : Nat} {files : List Bytes} {r : Recorder} {v : Visit}

/-- What every file of a trail keeps holds along it. -/
theorem trail_invariant (hstep : ∀ v ∈ trail o parent files r, P v.before → P v.after) (h : P r) :
    (∀ v ∈ trail o parent files r, P v.before) ∧ P (runFiles o parent files r).2 := by
  induction files generalizing r with
  | nil => exact ⟨fun _ hv => absurd hv List.not_mem_nil, h⟩
  | cons path rest ih =>
      have hfirst := hstep ⟨o, parent, path, r⟩ List.mem_cons_self h
      obtain ⟨hbefore, hend⟩ := ih (fun v hv => hstep v (List.mem_cons_of_mem _ hv)) hfirst
      refine ⟨fun v hv => ?_, hend⟩
      rcases List.mem_cons.mp hv with rfl | hv
      · exact h
      · exact hbefore v hv

/-- What holds after one file of a trail, and is kept by the others, holds at the end. -/
theorem trail_since (hstep : ∀ v ∈ trail o parent files r, P v.before → P v.after)
    (hv : v ∈ trail o parent files r) (h : P v.after) : P (runFiles o parent files r).2 := by
  induction files generalizing r with
  | nil => exact absurd hv List.not_mem_nil
  | cons path rest ih =>
      have hrest := fun w hw => hstep w (List.mem_cons_of_mem _ hw)
      rcases List.mem_cons.mp hv with rfl | hv
      · exact (trail_invariant hrest h).2
      · exact ih hrest hv

theorem visited_invariant (hemits : ∀ {r r'}, Recorder.Emits r r' → P r → P r')
    (hstep : ∀ v ∈ visited o parent files r, P v.before → P v.after) (h : P r) :
    ∀ v ∈ visited o parent files r, P v.before := by
  have hmem := fun v => (visited_perm o parent files r).mem_iff (a := v)
  have hbegun : P (begun parent r).2 := hemits (Recorder.onlyTraces_begin _ _ _ r) h
  intro v hv
  exact (trail_invariant (fun w hw => hstep w ((hmem w).mpr hw)) hbegun).1 v ((hmem v).mp hv)

theorem visited_since (hemits : ∀ {r r'}, Recorder.Emits r r' → P r → P r')
    (hstep : ∀ v ∈ visited o parent files r, P v.before → P v.after) (hv : v ∈ visited o parent files r)
    (h : P v.after) : P (run o false parent files r).2 := by
  have hmem := fun v => (visited_perm o parent files r).mem_iff (a := v)
  have hend := trail_since (fun w hw => hstep w ((hmem w).mpr hw)) ((hmem v).mp hv) h
  cases files with
  | nil => exact absurd hv List.not_mem_nil
  | cons path rest => exact hemits (Recorder.onlyTraces_end _ _ _) hend

end Batches

/-- Nothing is lost but what the trace is written over, and what is in the directory of the records. -/
structure Spares (s : Store) (r r' : Recorder) : Prop where
  places : r'.sink.places = r.sink.places
  disk : Disk.Keeps (fun q => q ∈ r.sink.places ∨ Disk.siteOf r.host.disk.cwd s.recordDir <+: q)
    r.host.disk r'.host.disk

section Spares

variable {s : Store} {o : BatchOptions} {parent : Nat} {files : List Bytes} {r r₁ r₂ : Recorder} {v : Visit}

theorem Spares.trans (h : Spares s r r₁) (h' : Spares s r₁ r₂) : Spares s r r₂ := by
  have hdisk := h'.disk
  rw [h.places, h.disk.cwd] at hdisk
  exact ⟨h'.places.trans h.places, h.disk.trans hdisk⟩

theorem Spares.of_emits (h : Recorder.Emits r r₁) (hd : r.host.disk.Sound) : Spares s r r₁ := by
  obtain ⟨hplaces, hdisk⟩ := h.overwritten
  exact ⟨hplaces, (hdisk.keeps hd).mono fun _ => Or.inl⟩

theorem Spares.of_put (now : Int64) (key : Bytes) (x : Record) (hd : r.host.disk.Sound) :
    Spares s r { r with host.disk := (s.put now key x r.host.disk).disk } := by
  refine ⟨rfl, (s.put_keeps now key x hd).mono fun q hq => Or.inr ?_⟩
  rcases hq with ⟨n, rfl⟩ | ⟨-, rfl⟩
  · exact List.prefix_append _ _
  · rw [Store.site_eq]
    exact List.prefix_append _ _

theorem Spares.visit (h : Spares s r v.before) (hs : v.options.store = none ∨ v.options.store = some s) :
    Spares s r v.after := by
  rcases hs with hs | hs
  · exact h.trans (.of_emits (onlyTraces_runFile v.options v.parent v.path hs v.before) h.disk.sound)
  · rcases Visit.after_steps hs with hsteps | ⟨src, bodies, -, -, -, hsteps⟩
    · exact h.trans (.of_emits hsteps h.disk.sound)
    · have hfiling := h.trans (.of_emits (v.filing_emits src bodies) h.disk.sound)
      have hfiled : Spares s r (v.stored s src bodies) := hfiling.trans (.of_put _ _ _ hfiling.disk.sound)
      exact hfiled.trans (.of_emits hsteps hfiled.disk.sound)

/-- A listing that can be read, and is neither under the trace nor among the records. -/
structure Aside (s : Store) (path : Bytes) (r : Recorder) : Prop where
  tree : r.host.disk.Sound
  there : ∃ src, r.host.disk.read path = .ok src
  untraced : Disk.siteOf r.host.disk.cwd path ∉ r.sink.places
  outside : ¬Disk.siteOf r.host.disk.cwd s.recordDir <+: Disk.siteOf r.host.disk.cwd path

theorem Aside.read_eq {path : Bytes} (h : Aside s path r) (hspares : Spares s r r₁) :
    r₁.host.disk.read path = r.host.disk.read path := by
  obtain ⟨src, hsrc⟩ := h.there
  rw [hsrc, hspares.disk.read hsrc]
  rintro (htraced | hinside)
  · exact h.untraced htraced
  · exact h.outside hinside

/-- A listing aside of trace and store is read as it was before the batch. -/
theorem Aside.read_visited (ho : o.store = none ∨ o.store = some s) (hv : v ∈ visited o parent files r)
    (h : Aside s v.path r) : v.disk.read v.path = r.host.disk.read v.path := by
  have hemits : ∀ {r₁ r₂}, Recorder.Emits r₁ r₂ → Spares s r r₁ → Spares s r r₂ :=
    fun he hr => hr.trans (.of_emits he hr.disk.sound)
  have hstep : ∀ w ∈ visited o parent files r, Spares s r w.before → Spares s r w.after := by
    intro w hw hbefore
    rw [← visited_options o parent files r w hw] at ho
    exact hbefore.visit ho
  have hbefore := visited_invariant hemits hstep ⟨rfl, .refl h.tree⟩ v hv
  exact h.read_eq (hemits v.opened_emits hbefore)

end Spares

end Batch

end FlowBlocks
