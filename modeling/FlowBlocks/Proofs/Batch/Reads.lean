import FlowBlocks.Proofs.Batch.History
import FlowBlocks.Proofs.Disk.Tree
import FlowBlocks.Proofs.Listing.Spaced
import FlowBlocks.Proofs.Outline.Faithful
/-!
What a batch without a store makes of its files: it reads each of them at its turn, and a file that can be read
and parsed fails exactly at its bodies without instructions. Verification does not change what is read, and
neither does a trace that is written elsewhere.
-/
namespace FlowBlocks

namespace Disk

/-- Nothing but the contents of files at some places differs. -/
structure Overwritten (places : List (List Bytes)) (d d' : Disk) : Prop where
  cwd : d'.cwd = d.cwd
  nodes : ∀ q, d'.node? q = d.node? q ∨
    q ∈ places ∧ ∃ a b, d.node? q = some (.file a) ∧ d'.node? q = some (.file b)

section Overwritten

variable {places more : List (List Bytes)} {d d₁ d₂ : Disk} {path : Bytes}

theorem Overwritten.refl (d : Disk) : Overwritten places d d := ⟨rfl, fun _ => Or.inl rfl⟩

theorem Overwritten.trans (h : Overwritten places d d₁) (h' : Overwritten places d₁ d₂) :
    Overwritten places d d₂ := by
  refine ⟨h'.cwd.trans h.cwd, fun q => ?_⟩
  rcases h.nodes q with hfirst | ⟨hmem, a, b, ha, hb⟩
  · rw [← hfirst]
    exact h'.nodes q
  · rcases h'.nodes q with hsecond | ⟨-, b', c, -, hc⟩
    · exact Or.inr ⟨hmem, a, b, ha, hsecond.trans hb⟩
    · exact Or.inr ⟨hmem, a, c, ha, hc⟩

theorem Overwritten.mono (h : Overwritten places d d₁) (hsub : ∀ q ∈ places, q ∈ more) :
    Overwritten more d d₁ :=
  ⟨h.cwd, fun q => (h.nodes q).imp_right fun hq => ⟨hsub q hq.1, hq.2⟩⟩

theorem writeAt_overwritten (d : Disk) {place : List Bytes} (h : place ∈ places) (offset : Nat)
    (data : Bytes) : Overwritten places d (d.writeAt place offset data) := by
  unfold writeAt
  split
  · next c hfile =>
      have hroot : place ≠ [] := by
        rintro rfl
        cases hfile
      refine ⟨rfl, fun q => ?_⟩
      by_cases hq : q = place
      · subst hq
        exact Or.inr ⟨h, _, _, hfile, node?_put_self _ _ _ hroot⟩
      · exact Or.inl (node?_put_other _ _ _ _ hq)
  · exact .refl d

theorem Overwritten.walk_eq (h : Overwritten places d d₁) (place names : List Bytes) :
    d₁.walk place names = d.walk place names := by
  induction names generalizing place with
  | nil => rfl
  | cons name names ih =>
      rw [walk_cons, walk_cons]
      rcases h.nodes place with hsame | ⟨-, a, b, ha, hb⟩
      · rw [hsame]
        split
        · rfl
        · rfl
        · exact congrArg (turn place name >>= ·) (funext ih)
      · rw [ha, hb]

theorem Overwritten.locate_eq (h : Overwritten places d d₁) (path : Bytes) : d₁.locate path = d.locate path := by
  unfold locate
  rw [h.cwd]
  split
  · rfl
  · split
    · rfl
    · split
      · rfl
      · exact h.walk_eq _ _

theorem Overwritten.node?_eq (h : Overwritten places d d₁) {place : List Bytes} (hplace : place ∉ places) :
    d₁.node? place = d.node? place := by
  rcases h.nodes place with hsame | ⟨hmem, -⟩
  · exact hsame
  · exact absurd hmem hplace

/-- What stands elsewhere is found as before. -/
theorem Overwritten.stat_eq (h : Overwritten places d d₁) (hpath : siteOf d.cwd path ∉ places) :
    d₁.stat path = d.stat path := by
  have hlocate := h.locate_eq path
  cases hplace : d.locate path with
  | error e =>
      rw [stat, stat, hlocate, hplace]
      rfl
  | ok place =>
      rw [← FlowBlocks.Disk.locate_eq hplace] at hpath
      rw [stat_of_locate (hlocate.trans hplace), stat_of_locate hplace, h.node?_eq hpath]

theorem Overwritten.read_eq (h : Overwritten places d d₁) (hpath : siteOf d.cwd path ∉ places) :
    d₁.read path = d.read path := by
  rw [read, read, h.stat_eq hpath]

end Overwritten

end Disk

namespace Trace

namespace Sink

mutual

/-- A sink writes into its own files and nowhere else. -/
theorem emit_overwritten (e : Event) (h : Host) : (s : Sink) →
    Disk.Overwritten s.places h.disk (s.emit e h).2.2.disk
  | .silent => .refl h.disk
  | .stream l f o => by
      unfold emit
      split
      · have hnumber := number_disk e h
        rw [← hnumber]
        cases o with
        | memory m => exact .refl _
        | stderr => exact .refl _
        | file path place offset closed =>
            cases closed with
            | true => exact .refl _
            | false => exact Disk.writeAt_overwritten _ (List.mem_singleton.mpr rfl) _ _
      · exact .refl h.disk
  | .ring r => by
      unfold emit
      split
      · change Disk.Overwritten _ h.disk (number e h).2.disk
        rw [number_disk]
        exact .refl h.disk
      · exact .refl h.disk
  | .fan l sinks => by
      have hall := emitAll_overwritten (number e h).1 (number e h).2 sinks
      rw [number_disk] at hall
      exact hall

theorem emitAll_overwritten (e : Event) (h : Host) : (sinks : List Sink) →
    Disk.Overwritten (placesAll sinks) h.disk (emitAll e h sinks).2.disk
  | [] => .refl h.disk
  | s :: rest => by
      have hfirst := emit_overwritten e h s
      have hrest := emitAll_overwritten e (s.emit e h).2.2 rest
      exact (hfirst.mono fun _ => List.mem_append_left _).trans (hrest.mono fun _ => List.mem_append_right _)

end

end Sink

/-- Recording leaves all files but its own as they are. -/
theorem Recorder.Emits.overwritten {r r' : Recorder} (h : Recorder.Emits r r') :
    r'.sink.places = r.sink.places ∧ Disk.Overwritten r.sink.places r.host.disk r'.host.disk := by
  induction h with
  | refl r => exact ⟨rfl, .refl _⟩
  | @step r r' spans e rest ih =>
      have hplaces := (r.sink.emit_gains e { r.host with spans }).1
      have hdisk := r.sink.emit_overwritten e { r.host with spans }
      obtain ⟨hplaces', hdisk'⟩ := ih
      change _ = (r.sink.emit e { r.host with spans }).2.1.places at hplaces'
      change Disk.Overwritten (r.sink.emit e { r.host with spans }).2.1.places _ _ at hdisk'
      rw [hplaces] at hplaces' hdisk'
      exact ⟨hplaces', hdisk.trans hdisk'⟩

end Trace

namespace Batch

open Trace

/-- What comes of reading a file: its bodies, or why there are none. -/
def reading (path : Bytes) (d : Disk) : Except FileFailure (List Body) :=
  match d.read path with
  | .error e => .error (.unreadable e)
  | .ok src =>
    match Listing.parse path src with
    | .error e => .error (.malformed path e)
    | .ok bodies => .ok bodies

/-- What comes of the files of a batch, each read at its turn. -/
def readings (o : BatchOptions) (files : List Bytes) (r : Recorder) : List (Except FileFailure (List Body)) :=
  (visited o 0 files r).map fun v => reading v.path v.disk

/-- The result of a file that was read. -/
def resultOf (o : BatchOptions) (path : Bytes) : Except FileFailure (List Body) → FileResult
  | .error e => { path, failure := some e }
  | .ok bodies => { path, bodies := bodies.map (bodyOutcome o) }

section Bodies

variable {o : BatchOptions} {b : Body}

theorem bodyOutcome_void (h : b.size = 0) :
    (bodyOutcome o b).failure = some (.fault ((BuildError.emptyBody (U := Nat)).report position)) := by
  rw [bodyOutcome, build_empty h]
  rfl

/-- A sound body with instructions comes to an outline that passes the range check, and verifies. -/
theorem bodyOutcome_built (hb : b.Sound) (hne : b.size ≠ 0) (hfit : b.size < 0x100000000) :
    ∃ outline, (bodyOutcome o b).failure = none ∧ (bodyOutcome o b).violations = none ∧
      (bodyOutcome o b).outline = some outline ∧ Outline.rangeReport (some outline) = none := by
  have hg := Body.flowGraph_regular hb o.graph
  have hs := o.policy.singleEntry hg
  obtain ⟨blocks, ht, hbuild⟩ := build_of_regular hg hs (Nat.pos_of_ne_zero hne)
  have hformed := build_formed hbuild
  have hunits : (b.flowGraph o.graph).units = List.range b.size := rfl
  have hlen : (b.flowGraph o.graph).units.length < 0x100000000 := by rwa [hunits, List.length_range]
  have hnil : (b.flowGraph o.graph).units ≠ [] := by simpa [hunits] using hne
  have hverify := verify_assemble hg hs ht
  rw [bodyOutcome, hbuild, bodyResult]
  dsimp only
  rw [hformed.ofFlow_eq_ok hlen hnil]
  refine ⟨_, rfl, ?_, rfl, hformed.rangeReport_eq_none hlen _ _⟩
  dsimp only
  split
  · rw [BlockFlow.verdict, hverify]
  · rfl

end Bodies

section Readings

variable {o o' : BatchOptions} {path : Bytes} {d d' : Disk}

theorem reading_congr (h : d.read path = d'.read path) : reading path d = reading path d' := by
  rw [reading, reading, h]

theorem fileResult_reading (ho : o.store = none) : fileResult o path d = resultOf o path (reading path d) := by
  rw [fileResult, reading]
  cases d.read path with
  | error e => rfl
  | ok src =>
      have hfound : found? o src d = none := by rw [found?, ho]
      simp only [hfound, built]
      cases Listing.parse path src with
      | error e => rfl
      | ok bodies => rfl

/-- Bodies that were read are sound, and their instructions can be numbered on 32 bits as their lines are. -/
theorem reading_fit {bodies : List Body} (h : reading path d = .ok bodies) :
    ∀ b ∈ bodies, b.Sound ∧ b.size < 0x100000000 := by
  unfold reading at h
  split at h
  · cases h
  · split at h
    · cases h
    · next hparse =>
        cases h
        exact fun b hb =>
          ⟨Listing.parse_sound hparse b hb, Nat.lt_succ_of_le (Listing.parse_size_le hparse b hb)⟩

/-- Options without a store that build the same graphs do the same to a recorder. -/
structure Alike (o o' : BatchOptions) : Prop where
  graph : o.graph = o'.graph
  policy : o.policy = o'.policy
  store : o.store = none
  store' : o'.store = none

theorem Alike.runBodies_snd (h : Alike o o') (parent : Nat) (path : Bytes) (bodies : List Body) (r : Recorder) :
    (runBodies o parent path bodies r).2 = (runBodies o' parent path bodies r).2 := by
  induction bodies generalizing r with
  | nil => rfl
  | cons b rest ih =>
      simp only [runBodies, runBody, Recorded.bind_apply, Recorded.pure_apply, h.graph, h.policy, ih]

theorem Alike.buildFile_snd (h : Alike o o') (parent : Nat) (span : Span) (path src : Bytes) (r : Recorder) :
    (buildFile o parent span path src r).2 = (buildFile o' parent span path src r).2 := by
  unfold buildFile
  cases Listing.parse path src with
  | error e => rfl
  | ok bodies =>
      simp only [keep, h.store, h.store', Recorded.bind_apply, Recorded.pure_apply, h.runBodies_snd]

theorem Alike.runFile_snd (h : Alike o o') (parent : Nat) (path : Bytes) (r : Recorder) :
    (runFile o parent path r).2 = (runFile o' parent path r).2 := by
  simp only [runFile, Recorded.bind_apply, Recorded.get_apply]
  cases (Recorder.begin_ .driver (bytes "file:" ++ path) parent r).2.host.disk.read path with
  | error e => rfl
  | ok src =>
      simp only [lookUp, h.store, h.store', Recorded.bind_apply, Recorded.pure_apply, h.buildFile_snd]

theorem Alike.trail_reads (h : Alike o o') (parent : Nat) (files : List Bytes) (r : Recorder) :
    (trail o parent files r).map (fun v => reading v.path v.disk) =
      (trail o' parent files r).map (fun v => reading v.path v.disk) := by
  induction files generalizing r with
  | nil => rfl
  | cons path rest ih =>
      have hafter : Visit.after ⟨o, parent, path, r⟩ = Visit.after ⟨o', parent, path, r⟩ :=
        h.runFile_snd parent path r
      simp only [trail, List.map_cons, hafter, ih]
      rfl

end Readings

/-- Verification does not change what is read. -/
theorem readings_verify {o : BatchOptions} (ho : o.store = none) (verify : Bool) (files : List Bytes)
    (r : Recorder) : readings { o with verify } files r = readings o files r := by
  have halike : Alike { o with verify } o := ⟨rfl, rfl, ho, ho⟩
  unfold readings visited order
  rw [map_rotateRight, map_rotateRight, halike.trail_reads]

/-- Without a store the results of a batch are those of the files as they are read. -/
theorem run_results_map {α : Type} {o : BatchOptions} (ho : o.store = none) {files : List Bytes} {r : Recorder}
    {f : FileResult → α} {g : Except FileFailure (List Body) → α}
    (h : ∀ path, ∀ x ∈ readings o files r, f (resultOf o path x) = g x) :
    (run o false 0 files r).1.results.map f = (readings o files r).map g := by
  rw [run_results, readings, List.map_map, List.map_map]
  refine List.map_congr_left fun v hv => ?_
  have hresult : v.result = resultOf o v.path (reading v.path v.disk) := by
    rw [Visit.result, runFile_fst, visited_options o 0 files r v hv]
    exact fileResult_reading ho
  rw [Function.comp_apply, hresult]
  exact h v.path _ (List.mem_map_of_mem hv)

theorem readings_fit {o : BatchOptions} {files : List Bytes} {r : Recorder} {x : Except FileFailure (List Body)}
    (hx : x ∈ readings o files r) : ∀ bodies, x = .ok bodies → ∀ b ∈ bodies, b.Sound ∧ b.size < 0x100000000 := by
  rintro bodies rfl
  obtain ⟨v, -, hv⟩ := List.mem_map.mp hx
  exact reading_fit hv

section Elsewhere

variable {o : BatchOptions} {r : Recorder} {files : List Bytes}

theorem trail_readings (ho : o.store = none) (parent : Nat) (d : Disk)
    (hdisk : Disk.Overwritten r.sink.places d r.host.disk)
    (hfiles : ∀ path ∈ files, Disk.siteOf d.cwd path ∉ r.sink.places) :
    (trail o parent files r).map (fun v => reading v.path v.disk) = files.map fun path => reading path d := by
  -- `d` is the disk before the batch: the files run so far have only written to the trace
  induction files generalizing r with
  | nil => rfl
  | cons path rest ih =>
      obtain ⟨-, hopened⟩ := (Recorder.onlyTraces_begin .driver (bytes "file:" ++ path) parent r).overwritten
      obtain ⟨hplaces, hafter⟩ := (onlyTraces_runFile o parent path ho r).overwritten
      have hread : (opened parent path r).host.disk.read path = d.read path :=
        (hdisk.trans hopened).read_eq (hfiles path List.mem_cons_self)
      have hrest := ih (r := (runFile o parent path r).2) (by rw [hplaces]; exact hdisk.trans hafter)
        (by rw [hplaces]; exact fun path hpath => hfiles path (List.mem_cons_of_mem _ hpath))
      rw [trail, List.map_cons, List.map_cons]
      exact congrArg₂ List.cons (reading_congr hread) hrest

/-- Where the trace is written to none of the files, they are read as they were before the batch. -/
theorem readings_eq (ho : o.store = none)
    (hfiles : ∀ path ∈ files, Disk.siteOf r.host.disk.cwd path ∉ r.sink.places) :
    readings o files r = files.map fun path => reading path r.host.disk := by
  obtain ⟨hplaces, hdisk⟩ := (Recorder.onlyTraces_begin .driver (bytes "batch") 0 r).overwritten
  have hrotated : ∀ path ∈ files.rotateLeft (deferred o.jobs files.length),
      Disk.siteOf r.host.disk.cwd path ∉ (begun 0 r).2.sink.places := by
    intro path hpath
    rw [rotateLeft_eq_rotate, List.mem_rotate] at hpath
    have hsame : (begun 0 r).2.sink.places = r.sink.places := hplaces
    rw [hsame]
    exact hfiles path hpath
  have htrail := trail_readings ho ((begun 0 r).1.under 0) r.host.disk (r := (begun 0 r).2)
    (by rw [begun, hplaces]; exact hdisk) hrotated
  unfold readings visited order
  rw [map_rotateRight]
  refine (congrArg (List.rotateRight · _) htrail).trans ?_
  rw [← map_rotateRight, rotateRight_rotateLeft]

end Elsewhere

end Batch

end FlowBlocks
