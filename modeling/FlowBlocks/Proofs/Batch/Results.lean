import FlowBlocks.Batch
import FlowBlocks.Proofs.BlockFlow.Construct
import FlowBlocks.Proofs.Store
import FlowBlocks.Proofs.Trace
/-!
What running a file comes to. Its result is a function of the options, the path and the disk at that moment
(`fileResult`); on the disk it changes the files of the trace and at most one record of the store.
-/
namespace FlowBlocks.Batch

open Trace

/-- What comes of a body. -/
def bodyOutcome (o : BatchOptions) (b : Body) : BodyResult :=
  bodyResult o b (build o.policy.rule (b.flowGraph o.graph) b.handlers)

/-- What comes of a listing that is built. -/
def built (o : BatchOptions) (path src : Bytes) : FileResult :=
  match Listing.parse path src with
  | .error e => { path, failure := some (.malformed path e) }
  | .ok bodies => { path, bodies := bodies.map (bodyOutcome o) }

/-- The record that a batch finds for a listing. -/
def found? (o : BatchOptions) (src : Bytes) (d : Disk) : Option Record :=
  match o.store with
  | none => none
  | some store => if o.verify then none else (store.get (key o src) d).toOption.join

/-- What comes of a listing that is served. -/
def served (path : Bytes) (r : Record) : FileResult :=
  { path, bodies := (r.bodies.getD []).map ofBodyRecord, cached := true }

/-- What comes of a file on a disk. -/
def fileResult (o : BatchOptions) (path : Bytes) (d : Disk) : FileResult :=
  match d.read path with
  | .error e => { path, failure := some (.unreadable e) }
  | .ok src =>
    match found? o src d with
    | some r => served path r
    | none => built o path src

theorem fileResult_unread (o : BatchOptions) {path : Bytes} {d : Disk} {e : DiskError}
    (h : d.read path = .error e) : fileResult o path d = { path, failure := some (.unreadable e) } := by
  rw [fileResult, h]

theorem fileResult_read (o : BatchOptions) {path src : Bytes} {d : Disk} (h : d.read path = .ok src) :
    fileResult o path d = ((found? o src d).map (served path)).getD (built o path src) := by
  simp only [fileResult, h]
  cases found? o src d with
  | some found => rfl
  | none => rfl

/-- The span of a file. -/
def fileSpan (parent : Nat) (path : Bytes) (r : Recorder) : Span :=
  (Recorder.begin_ .driver (bytes "file:" ++ path) parent r).1

/-- The state in which a file is read: its span has begun. -/
def opened (parent : Nat) (path : Bytes) (r : Recorder) : Recorder :=
  (Recorder.begin_ .driver (bytes "file:" ++ path) parent r).2

section Results

variable (o : BatchOptions) (parent : Nat) (path : Bytes)

theorem runBodies_fst (bodies : List Body) (r : Recorder) :
    (runBodies o parent path bodies r).1.1 = bodies.map (bodyOutcome o) := by
  induction bodies generalizing r with
  | nil => rfl
  | cons b rest ih =>
      simp only [runBodies, runBody, Recorded.bind_apply, Recorded.pure_apply, buildTraced_fst, List.map_cons, ih]
      rfl

theorem buildFile_fst (span : Span) (src : Bytes) (r : Recorder) :
    (buildFile o parent span path src r).1.1 = built o path src := by
  unfold buildFile built
  cases Listing.parse path src with
  | error e => rfl
  | ok bodies =>
      simp only [Recorded.bind_apply, Recorded.pure_apply, runBodies_fst]

theorem lookUp_fst (span : Span) (src : Bytes) (r : Recorder) :
    (lookUp o span src r).1 = found? o src r.host.disk := by
  unfold lookUp found?
  cases o.store with
  | none => rfl
  | some store =>
      cases o.verify with
      | true => rfl
      | false =>
          simp only [Bool.false_eq_true, if_false, Recorded.bind_apply, Recorded.get_apply]
          cases store.get (key o src) r.host.disk with
          | ok found => rfl
          | error e => rfl

theorem runFile_fst (r : Recorder) :
    (runFile o parent path r).1.1 = fileResult o path (opened parent path r).host.disk := by
  unfold fileResult opened
  simp only [runFile, Recorded.bind_apply, Recorded.get_apply]
  cases (Recorder.begin_ .driver (bytes "file:" ++ path) parent r).2.host.disk.read path with
  | error e => rfl
  | ok src =>
      simp only [Recorded.bind_apply, lookUp_fst]
      cases found? o src (Recorder.begin_ .driver (bytes "file:" ++ path) parent r).2.host.disk with
      | some found => rfl
      | none => simp only [Recorded.bind_apply, Recorded.pure_apply, buildFile_fst]

end Results

section Traces

variable (o : BatchOptions) (parent : Nat) (path : Bytes)

theorem onlyTraces_runBodies (bodies : List Body) :
    Recorder.OnlyTraces (runBodies o parent path bodies) := by
  induction bodies with
  | nil => exact Recorder.onlyTraces_pure _
  | cons b rest ih =>
      have hbody : Recorder.OnlyTraces (runBody o parent path b) :=
        (onlyTraces_buildTraced _ _ _ _ _ parent).bind fun _ => Recorder.onlyTraces_pure _
      exact hbody.bind fun _ => ih.bind fun _ => Recorder.onlyTraces_pure _

theorem onlyTraces_lookUp (span : Span) (src : Bytes) : Recorder.OnlyTraces (lookUp o span src) := by
  unfold lookUp
  split
  · exact Recorder.onlyTraces_pure _
  · split
    · exact Recorder.onlyTraces_pure _
    · refine Recorder.onlyTraces_get.bind fun r => ?_
      split
      · exact Recorder.onlyTraces_pure _
      · exact (Recorder.onlyTraces_failure _ _ _ _).bind fun _ => Recorder.onlyTraces_pure _

theorem onlyTraces_refuse (span : Span) (failure : FileFailure) :
    Recorder.OnlyTraces (refuse span path failure) :=
  (Recorder.onlyTraces_failure _ _ _ _).bind fun _ =>
    (Recorder.onlyTraces_end _ _).bind fun _ => Recorder.onlyTraces_pure _

theorem onlyTraces_buildFile (ho : o.store = none) (span : Span) (src : Bytes) :
    Recorder.OnlyTraces (buildFile o parent span path src) := by
  unfold buildFile
  split
  · exact (onlyTraces_refuse path span _).bind fun _ => Recorder.onlyTraces_pure _
  · refine (onlyTraces_runBodies o _ path _).bind fun _ => ?_
    simp only [keep, ho]
    exact (Recorder.onlyTraces_pure ()).bind fun _ =>
      (Recorder.onlyTraces_end _ _).bind fun _ => Recorder.onlyTraces_pure _

/-- Without a store, running a file does nothing but record. -/
theorem onlyTraces_runFile (ho : o.store = none) : Recorder.OnlyTraces (runFile o parent path) := by
  refine (Recorder.onlyTraces_begin _ _ _).bind fun span => Recorder.onlyTraces_get.bind fun r => ?_
  split
  · exact (onlyTraces_refuse path span _).bind fun _ => Recorder.onlyTraces_pure _
  · refine (onlyTraces_lookUp o span _).bind fun found => ?_
    split
    · exact (Recorder.onlyTraces_end _ _).bind fun _ => Recorder.onlyTraces_pure _
    · exact (onlyTraces_buildFile o parent path ho span _).bind fun _ => Recorder.onlyTraces_pure _

end Traces

/-- What a batch may file for a listing that it reads: the record of what is built, under the key of the
listing. -/
def Filed (o : BatchOptions) (path src key content : Bytes) : Prop :=
  ∃ bodies now, Listing.parse path src = .ok bodies ∧ key = Batch.key o src ∧
    content = ((record o (built o path src)).stamped now).encode

/-- The files that running a file may leave behind: those of the trace, some at no site of a record, and
the record of the listing. -/
def Leaves (s : Store) (o : BatchOptions) (parent : Nat) (path : Bytes) (r : Recorder)
    (place : List Bytes) (content : Bytes) : Prop :=
  place ∈ r.sink.places ∨ (∀ key, place ≠ s.site r.host.disk.cwd key) ∨
    ∃ src key, (opened parent path r).host.disk.read path = .ok src ∧ Filed o path src key content ∧
      place = s.site r.host.disk.cwd key

section Disk

variable {s : Store} {o : BatchOptions} {parent : Nat} {path : Bytes} {r : Recorder}

theorem keep_gains {S : List Bytes → Bytes → Prop} (ho : o.store = some s) (span : Span) (src : Bytes)
    (result : FileResult) (hr : r.Admits S)
    (hfiles : ∀ now place content,
      s.Files r.host.disk.cwd (key o src) ((record o result).stamped now).encode place content →
        S place content) :
    Recorder.Gains S r (keep o span src result r).2 := by
  have hput := (s.put_gains (Int64.ofInt r.host.now.sec) (key o src) (record o result) r.host.disk).mono
    (hfiles (Int64.ofInt r.host.now.sec))
  have hfirst : Recorder.Gains S r { r with host.disk :=
      (s.put (Int64.ofInt r.host.now.sec) (key o src) (record o result) r.host.disk).disk } := ⟨rfl, hput⟩
  simp only [keep, ho, Recorded.bind_apply, Recorded.get_apply, Recorded.modify_apply]
  refine hfirst.trans ?_
  cases (s.put (Int64.ofInt r.host.now.sec) (key o src) (record o result) r.host.disk).error with
  | none => exact (Recorder.onlyTraces_pure ()).gains (hfirst.admits hr)
  | some e => exact (Recorder.onlyTraces_failure _ _ _ _).gains (hfirst.admits hr)

theorem buildFile_gains {S : List Bytes → Bytes → Prop} {src : Bytes} (ho : o.store = some s) (span : Span)
    (hr : r.Admits S)
    (hfiles : ∀ key place content, Filed o path src key content → place = s.site r.host.disk.cwd key →
      S place content)
    (hother : ∀ place content, (∀ key, place ≠ s.site r.host.disk.cwd key) → S place content) :
    Recorder.Gains S r (buildFile o parent span path src r).2 := by
  unfold buildFile
  cases hparse : Listing.parse path src with
  | error e => exact ((onlyTraces_refuse path span _).bind fun _ => Recorder.onlyTraces_pure _).gains hr
  | ok bodies =>
      have hbodies := (onlyTraces_runBodies o (span.under parent) path bodies).gains hr
      have hresult : ({ path, bodies := (runBodies o (span.under parent) path bodies r).1.1 } : FileResult) =
          built o path src := by
        rw [runBodies_fst, built, hparse]
      have hkeep := keep_gains (S := S) ho span src
        { path, bodies := (runBodies o (span.under parent) path bodies r).1.1 } (hbodies.admits hr) (by
          rintro now place content (hfree | ⟨hplace, hcontent⟩)
          · rw [hbodies.disk.cwd] at hfree
            exact hother place content hfree
          · rw [hbodies.disk.cwd] at hplace
            rw [hresult] at hcontent
            exact hfiles _ place content ⟨bodies, now, hparse, rfl, hcontent⟩ hplace)
      have hboth := hbodies.trans hkeep
      exact hboth.trans ((Recorder.onlyTraces_end _ _).gains (hboth.admits hr))

theorem runFile_unread {e : DiskError} (h : (opened parent path r).host.disk.read path = .error e) :
    (runFile o parent path r).2 =
      (refuse (fileSpan parent path r) path (.unreadable e) (opened parent path r)).2 := by
  unfold opened at h
  simp only [runFile, Recorded.bind_apply, Recorded.get_apply, h]
  rfl

theorem runFile_served {src : Bytes} {found : Record}
    (h : (opened parent path r).host.disk.read path = .ok src)
    (hfound : (lookUp o (fileSpan parent path r) src (opened parent path r)).1 = some found) :
    (runFile o parent path r).2 = (Recorder.end_ (fileSpan parent path r) (bytes "cached")
      (lookUp o (fileSpan parent path r) src (opened parent path r)).2).2 := by
  unfold opened at h hfound
  unfold fileSpan at hfound
  simp only [runFile, Recorded.bind_apply, Recorded.get_apply, h, hfound]
  rfl

theorem runFile_built {src : Bytes} (h : (opened parent path r).host.disk.read path = .ok src)
    (hfound : (lookUp o (fileSpan parent path r) src (opened parent path r)).1 = none) :
    (runFile o parent path r).2 = (buildFile o parent (fileSpan parent path r) path src
      (lookUp o (fileSpan parent path r) src (opened parent path r)).2).2 := by
  unfold opened at h hfound
  unfold fileSpan at hfound
  simp only [runFile, Recorded.bind_apply, Recorded.get_apply, h, hfound]
  rfl

/-- Running a file leaves the other records of its store alone. -/
theorem runFile_gains (ho : o.store = some s) (parent : Nat) (path : Bytes) (r : Recorder) :
    Recorder.Gains (Leaves s o parent path r) r (runFile o parent path r).2 := by
  have hr : r.Admits (Leaves s o parent path r) := fun place hplace _ => Or.inl hplace
  have hopen : Recorder.Gains (Leaves s o parent path r) r (opened parent path r) :=
    (Recorder.onlyTraces_begin .driver (bytes "file:" ++ path) parent).gains hr
  cases hread : (opened parent path r).host.disk.read path with
  | error e =>
      rw [runFile_unread hread]
      exact hopen.trans ((onlyTraces_refuse path _ _).gains (hopen.admits hr))
  | ok src =>
      have hlook := hopen.trans ((onlyTraces_lookUp o (fileSpan parent path r) src).gains (hopen.admits hr))
      cases hfound : (lookUp o (fileSpan parent path r) src (opened parent path r)).1 with
      | some found =>
          rw [runFile_served hread hfound]
          exact hlook.trans ((Recorder.onlyTraces_end _ _).gains (hlook.admits hr))
      | none =>
          rw [runFile_built hread hfound]
          refine hlook.trans (buildFile_gains ho _ (hlook.admits hr) ?_ ?_)
          · intro key place content hfiled hplace
            rw [hlook.disk.cwd] at hplace
            exact Or.inr (Or.inr ⟨src, key, hread, hfiled, hplace⟩)
          · intro place content hfree
            rw [hlook.disk.cwd] at hfree
            exact Or.inr (Or.inl hfree)

end Disk

end FlowBlocks.Batch
