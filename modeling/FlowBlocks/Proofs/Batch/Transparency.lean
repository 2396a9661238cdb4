import FlowBlocks.Proofs.Batch.History
import FlowBlocks.Proofs.Batch.Shown
/-!
When a store cannot be noticed. In a history of a store, a run shows what it would show without the store
exactly if the record that serves it was filed from a file of the same stem, or the listing names every body
itself: the stem goes into the name of a body and not into the key.
-/
namespace FlowBlocks

theorem GraphKind.name_plain (k : GraphKind) : 0 ∉ k.name := by
  cases k <;> decide

theorem Policy.name_plain (p : Policy) : 0 ∉ p.name := by
  cases p <;> decide

theorem GraphKind.name_inj {k l : GraphKind} (h : k.name = l.name) : k = l := by
  cases k <;> cases l <;> first | rfl | exact absurd h (by decide)

theorem Policy.name_inj {p q : Policy} (h : p.name = q.name) : p = q := by
  cases p <;> cases q <;> first | rfl | exact absurd h (by decide)

namespace Batch

open Trace

namespace Visit

/-- The same run without a store. -/
def bare (v : Visit) : Visit := { v with options := { v.options with store := none } }

/-- The bytes that the key of the listing is the digest of. -/
def hashed? (v : Visit) : Option Bytes :=
  v.source?.map fun src => Store.keySource src v.options.graph.name v.options.policy.name

/-- The record that serves the run. -/
def record? (v : Visit) : Option Record := v.source?.bind fun src => found? v.options src v.disk

/-- What the run builds can be stored: no text or list of it is too long for the header it gets. -/
def Fits (v : Visit) : Prop := v.bare.result.failure = none → (record v.options v.bare.result).Fits

instance : DecidablePred Fits := fun _ => inferInstanceAs (Decidable (_ → _))

/-- The record that serves the run was filed from a file of the same stem, or the listing names every body
itself. -/
def Agrees (v : Visit) : Prop :=
  ∀ found src, v.record? = some found → v.source? = some src →
    Path.stem found.file = Path.stem v.path ∨ ¬Listing.Unnamed src

/-- Another run of the same file has no store, and finds the same on the disk. -/
structure Without (v u : Visit) : Prop where
  options : u.options = { v.options with store := none }
  path : u.path = v.path
  listing : u.disk.read u.path = v.disk.read v.path

end Visit

/-- The digest has no collision among the bytes that the runs hash. -/
def CollisionFree (vs : List Visit) : Prop :=
  ∀ v ∈ vs, ∀ w ∈ vs, ∀ a b, v.hashed? = some a → w.hashed? = some b →
    Digest.sha256 a = Digest.sha256 b → a = b

section Served

variable {site : Bytes → List Bytes} {vs : List Visit} {v : Visit}

/-- Only the choices of graph and policy, and whether to verify, bear on what is built. -/
theorem built_congr {o o' : BatchOptions} (hg : o.graph = o'.graph) (hp : o.policy = o'.policy)
    (hv : o.verify = o'.verify) (path src : Bytes) : built o path src = built o' path src := by
  obtain ⟨graph, policy, jobs, store, verify⟩ := o
  obtain ⟨graph', policy', jobs', store', verify'⟩ := o'
  dsimp only at hg hp hv
  subst hg hp hv
  rfl

theorem Visit.read_eq {src : Bytes} (h : v.source? = some src) : v.disk.read v.path = .ok src := by
  rw [source?] at h
  cases hr : v.disk.read v.path with
  | error e => rw [hr] at h; cases h
  | ok found => rw [hr] at h; cases h; rfl

theorem Visit.bare_eq {src : Bytes} (h : v.source? = some src) :
    v.bare.result = built v.options v.path src := by
  rw [result, runFile_fst]
  exact (fileResult_read v.bare.options (read_eq h)).trans (built_congr rfl rfl rfl v.path src)

theorem Visit.result_eq {src : Bytes} (h : v.source? = some src) :
    v.result = (v.record?.map (served v.path)).getD (built v.options v.path src) := by
  rw [result, runFile_fst, record?, h, Option.bind_some]
  exact fileResult_read v.options (read_eq h)

theorem Visit.result_unread (h : v.source? = none) : v.result = v.bare.result := by
  cases hread : v.disk.read v.path with
  | error e =>
      rw [result, result, runFile_fst, runFile_fst]
      exact (fileResult_unread v.options hread).trans (fileResult_unread v.bare.options hread).symm
  | ok src => rw [source?, hread] at h; cases h

/-- Without a store only what is read from the disk matters. -/
theorem fileResult_congr {o : BatchOptions} {path : Bytes} {d d' : Disk} (ho : o.store = none)
    (h : d.read path = d'.read path) : fileResult o path d = fileResult o path d' := by
  rw [fileResult, fileResult, h]
  cases d'.read path with
  | error e => rfl
  | ok src => simp only [found?, ho]

theorem Visit.without_bare (v : Visit) : v.Without v.bare := ⟨rfl, rfl, rfl⟩

theorem Visit.Without.result_eq {u : Visit} (h : v.Without u) : u.result = v.bare.result := by
  obtain ⟨hoptions, hpath, hlisting⟩ := h
  obtain ⟨options, parent, path, before⟩ := u
  dsimp only at hoptions hpath
  subst hoptions hpath
  rw [result, result, runFile_fst, runFile_fst]
  exact fileResult_congr rfl hlisting

/-- A batch and the same batch without a store run the same files in the same order. -/
theorem visited_without {o : BatchOptions} {parent : Nat} {files : List Bytes} {r : Recorder} {u : Visit}
    (h : (v, u) ∈ (visited o parent files r).zip (visited { o with store := none } parent files r))
    (hlisting : u.disk.read u.path = v.disk.read v.path) : v.Without u := by
  obtain ⟨i, hi⟩ := List.mem_iff_getElem?.mp h
  obtain ⟨hv, hu⟩ := List.getElem?_zip_eq_some.mp hi
  have hpath : ∀ (o' : BatchOptions) (w : Visit), (visited o' parent files r)[i]? = some w →
      files[i]? = some w.path := by
    intro o' w hw
    rw [← visited_paths o' parent files r, List.getElem?_map, hw, Option.map_some]
  refine ⟨?_, ?_, hlisting⟩
  · rw [visited_options _ _ _ _ u (List.mem_of_getElem? hu), visited_options _ _ _ _ v (List.mem_of_getElem? hv)]
  · exact Option.some.inj ((hpath _ u hu).symm.trans (hpath _ v hv))

/-- A record that is found was filed by an earlier run for the same listing and the same choices. -/
theorem Visits.found {src : Bytes} {found : Record} (h : Visits site vs v.before)
    (hu : Uses site v.options v.before.host.disk.cwd) (hfree : CollisionFree (v :: vs))
    (hfit : ∀ w ∈ vs, w.Fits) (hsrc : v.source? = some src) (hrecord : v.record? = some found) :
    ∃ file bodies now, Listing.parse file src = .ok bodies ∧
      found = (record v.options (built v.options file src)).stamped now := by
  obtain ⟨⟨s, hs, hsite⟩, hv⟩ := hu.of_traces
    (Recorder.onlyTraces_begin .driver (bytes "file:" ++ v.path) v.parent)
  change s.site v.disk.cwd = site at hsite
  have hget : s.get (key v.options src) v.disk = .ok (some found) := by
    rw [Visit.record?, hsrc, Option.bind_some, found?, hs, hv] at hrecord
    change (s.get (key v.options src) v.disk).toOption.join = some found at hrecord
    cases hg : s.get (key v.options src) v.disk with
    | error e => rw [hg] at hrecord; cases hrecord
    | ok r => rw [hg] at hrecord; exact congrArg Except.ok hrecord
  obtain ⟨content, hnode, hdecode⟩ := Store.get_eq_some hget
  rw [hsite] at hnode
  obtain ⟨w, hw, src', hsrc', bodies, now, hparse, hkey, hcontent⟩ :=
    h.kept.opened.records _ content hnode
  have hwv := h.unverified w hw
  have hsame := hfree v List.mem_cons_self w (List.mem_cons_of_mem v hw) _ _
    (by rw [Visit.hashed?, hsrc, Option.map_some]) (by rw [Visit.hashed?, hsrc', Option.map_some]) hkey
  obtain ⟨hsrcs, hgraph, hpolicy⟩ := Store.keySource_inj (GraphKind.name_plain _) (GraphKind.name_plain _)
    (Policy.name_plain _) (Policy.name_plain _) hsame
  subst hsrcs
  have hbuilt : built w.options w.path src = built v.options w.path src :=
    built_congr (GraphKind.name_inj hgraph).symm (Policy.name_inj hpolicy).symm (hwv.trans hv.symm) w.path src
  have hrec : record w.options (built w.options w.path src) =
      record v.options (built v.options w.path src) := by
    rw [hbuilt, record, record, hgraph, hpolicy]
  have hfits : (record v.options (built v.options w.path src)).Fits := by
    have hbare := Visit.bare_eq hsrc'
    have hok : w.bare.result.failure = none := by rw [hbare, built, hparse]
    have := hfit w hw hok
    rwa [hbare, hrec] at this
  rw [hcontent, hrec] at hdecode
  exact ⟨w.path, bodies, now, hparse, decode_record hparse hfits hdecode⟩

theorem Visit.agrees_of_missing (h : v.record? = none) : v.Agrees := by
  intro found src hrecord
  rw [h] at hrecord
  cases hrecord

theorem Visit.agrees_iff {found : Record} {src : Bytes} (hrecord : v.record? = some found)
    (hsrc : v.source? = some src) :
    v.Agrees ↔ (Path.stem found.file = Path.stem v.path ∨ ¬Listing.Unnamed src) := by
  constructor
  · intro h
    exact h found src hrecord hsrc
  · intro h found' src' hrecord' hsrc'
    rw [hrecord] at hrecord'
    rw [hsrc] at hsrc'
    cases hrecord'
    cases hsrc'
    exact h

/-- A run shows what it would show without the store exactly if the record that serves it agrees. -/
theorem Visits.shown_iff (h : Visits site vs v.before) (hu : Uses site v.options v.before.host.disk.cwd)
    (hfree : CollisionFree (v :: vs)) (hfit : ∀ w ∈ vs, w.Fits) :
    v.result.shown = v.bare.result.shown ↔ v.Agrees := by
  cases hsrc : v.source? with
  | none =>
      have hmissing : v.record? = none := by rw [Visit.record?, hsrc, Option.bind_none]
      rw [Visit.result_unread hsrc]
      exact iff_of_true rfl (Visit.agrees_of_missing hmissing)
  | some src =>
      rw [Visit.result_eq hsrc, Visit.bare_eq hsrc]
      cases hrecord : v.record? with
      | none => exact iff_of_true rfl (Visit.agrees_of_missing hrecord)
      | some found =>
          obtain ⟨file, bodies, now, hparse, rfl⟩ := h.found hu hfree hfit hsrc hrecord
          have hfile : ((record v.options (built v.options file src)).stamped now).file = file := by
            rw [built, hparse]
            rfl
          rw [Option.map_some, Option.getD_some, served_shown hparse, built_shown_iff hparse,
            Visit.agrees_iff hrecord hsrc, hfile]

theorem CollisionFree.mono {ws : List Visit} (h : CollisionFree ws) (hsub : vs ⊆ ws) : CollisionFree vs :=
  fun v hv w hw => h v (hsub hv) w (hsub hw)

theorem Visits.all_shown_iff {r : Recorder} (h : Visits site vs r) (hfree : CollisionFree vs)
    (hfit : ∀ v ∈ vs, v.Fits) : ∀ v ∈ vs, v.result.shown = v.bare.result.shown ↔ v.Agrees := by
  induction h with
  | start => exact fun _ hv => absurd hv List.not_mem_nil
  | outside _ _ _ ih => exact ih hfree hfit
  | file v earlier uses ih =>
      have hfits := fun w hw => hfit w (List.mem_cons_of_mem v hw)
      intro w hw
      rcases List.mem_cons.mp hw with rfl | hw
      · exact earlier.shown_iff uses hfree hfits
      · exact ih (hfree.mono (List.subset_cons_self v _)) hfits w hw

end Served

/-- In every history of a store, what a run shows is what another run of the same file shows that has no
store, exactly if the record that serves it agrees. The results of a batch are those of the files it runs,
which are those of the same batch without a store, and running them continues the history. A batch that is
cancelled runs none. -/
theorem served_as_built_iff {site : Bytes → List Bytes} {vs : List Visit} {r : Recorder} (h : Visits site vs r)
    (hfree : CollisionFree vs) (hfit : ∀ v ∈ vs, v.Fits) :
    (∀ v ∈ vs, ∀ u, v.Without u → (v.result.shown = u.result.shown ↔ v.Agrees)) ∧
      (∀ o parent files, Uses site o r.host.disk.cwd →
        Visits site ((order o parent files r).reverse ++ vs) (run o false parent files r).2 ∧
          Visits site vs (run o true parent files r).2 ∧
          (run o true parent files r).1.results =
            (run { o with store := none } true parent files r).1.results) ∧
      ∀ o parent files,
        (run o false parent files r).1.results = (visited o parent files r).map Visit.result ∧
          (visited o parent files r).map Visit.path = files ∧
          (visited o parent files r).Perm (order o parent files r) ∧
          ∀ p ∈ (visited o parent files r).zip (visited { o with store := none } parent files r),
            p.2.disk.read p.2.path = p.1.disk.read p.1.path → p.1.Without p.2 := by
  refine ⟨?_, ?_, ?_⟩
  · intro v hv u hu
    rw [hu.result_eq]
    exact h.all_shown_iff hfree hfit v hv
  · intro o parent files hu
    refine ⟨h.run hu parent files, h.run_cancelled parent files, ?_⟩
    rw [run_cancelled_results, run_cancelled_results]
  · intro o parent files
    exact ⟨run_results o parent files r, visited_paths o parent files r, visited_perm o parent files r,
      fun _ hp hlisting => visited_without hp hlisting⟩

/-- Two files with the same listing, whose one body has no name of its own. -/
def twins : Recorder :=
  { host.disk.entries := [([bytes "a.bbl"], .file (bytes "return\n")),
      ([bytes "b.bbl"], .file (bytes "return\n"))] }

def twinOptions : BatchOptions := { store := some ⟨bytes "cache"⟩ }

def firstTwin : Visit := ⟨twinOptions, 0, bytes "a.bbl", twins⟩

def secondTwin : Visit := ⟨twinOptions, 0, bytes "b.bbl", firstTwin.after⟩

/-- Where the records of the twins are. -/
def twinSite : Bytes → List Bytes := Store.site ⟨bytes "cache"⟩ []

theorem twins_blank (key content : Bytes) : twins.host.disk.node? (twinSite key) ≠ some (.file content) := by
  intro hnode
  have hlisted : ∀ e ∈ twins.host.disk.entries, e.1.getLast?.bind List.getLast? = some (byte 'l') := by decide
  have hlast := hlisted _ (Disk.mem_entries _ _ hnode)
  rw [twinSite, Store.site_getLast?, Option.bind_some, List.getLast?_append] at hlast
  change some (byte 'p') = some (byte 'l') at hlast
  exact absurd hlast (by decide)

theorem twins_visits : Visits twinSite [secondTwin, firstTwin] secondTwin.after := by
  have hstart : Visits twinSite [] firstTwin.before :=
    .start twins_blank fun _ hplace => absurd hplace List.not_mem_nil
  have hfirst : Visits twinSite [firstTwin] firstTwin.after :=
    .file firstTwin hstart ⟨⟨⟨bytes "cache"⟩, rfl, rfl⟩, rfl⟩
  have hbefore : secondTwin.before = firstTwin.after := by rw [secondTwin]
  have hcwd : secondTwin.before.host.disk.cwd = [] := by decide +kernel
  rw [← hbefore] at hfirst
  refine .file secondTwin hfirst ⟨⟨⟨bytes "cache"⟩, rfl, ?_⟩, rfl⟩
  exact congrArg (Store.site _) hcwd

theorem twins_collisionFree : CollisionFree [secondTwin, firstTwin] := by
  have hsame : ∀ v ∈ [secondTwin, firstTwin], v.hashed? = firstTwin.hashed? := by decide +kernel
  intro v hv w hw a b ha hb _
  rw [hsame v hv] at ha
  rw [hsame w hw, ha] at hb
  exact Option.some.inj hb

theorem twins_served_as_built_iff :
    (firstTwin.result.shown = firstTwin.bare.result.shown ∧ firstTwin.Agrees) ∧
      secondTwin.result.shown ≠ secondTwin.bare.result.shown ∧ ¬secondTwin.Agrees := by
  have hiff := (served_as_built_iff twins_visits twins_collisionFree (by decide +kernel)).1
  have hfirst := hiff firstTwin (by simp) firstTwin.bare firstTwin.without_bare
  have hsecond := hiff secondTwin (by simp) secondTwin.bare secondTwin.without_bare
  have hsame : firstTwin.result.shown = firstTwin.bare.result.shown := by decide +kernel
  have hother : secondTwin.result.shown ≠ secondTwin.bare.result.shown := by decide +kernel
  exact ⟨⟨hsame, hfirst.mp hsame⟩, hother, fun hagrees => hother (hsecond.mpr hagrees)⟩

/-- The second file is served under the name of the first. -/
theorem second_run_misnamed :
    (run twinOptions false 0 [bytes "b.bbl"] (run twinOptions false 0 [bytes "a.bbl"] twins).2).1.results.map
        FileResult.shown ≠
      (run secondTwin.bare.options false 0 [bytes "b.bbl"]
        (run twinOptions false 0 [bytes "a.bbl"] twins).2).1.results.map FileResult.shown := by
  decide +kernel

end Batch

end FlowBlocks
