import FlowBlocks.Proofs.Batch.Steps
import FlowBlocks.Proofs.Store.Calls
/-!
Stores whose records are missing, of another version or damaged. A file that is not served gives what it would
give without a store, and filing what was built mends the store: the record is found again and serves the next
run.
-/
namespace FlowBlocks

theorem Digest.length_sha256 (s : Bytes) : (Digest.sha256 s).length = 32 := by
  simp [Digest.sha256, length_bigEndian]

namespace Store

/-- What is looked up right after it was filed. -/
theorem get_put {s : Store} {now : Int64} {key : Bytes} {r : Record} {d : Disk} (hd : d.Sound)
    (h : (s.put now key r d).error = none) :
    s.get key (s.put now key r d).disk = answer key (some (r.stamped now).encode) := by
  obtain ⟨-, -, hlocate, hnode, -⟩ := put_effect hd h
  unfold get
  dsimp only
  rw [Disk.stat_of_locate hlocate, hnode, wantsDirectory_placeOf]
  rfl

end Store

/-- An outline lists the units of its flow. -/
theorem Outline.ofFlow_unitList {U : Type} {render : U → Bytes} {name : Bytes} {f : BlockFlow U} {o : Outline}
    (h : Outline.ofFlow render name f = .ok o) : o.unitList = f.units.map render := by
  unfold Outline.ofFlow at h
  split at h
  · next hempty =>
      cases h
      rw [BlockFlow.units, List.isEmpty_iff.mp hempty]
      rfl
  · obtain ⟨blocks, -, h⟩ := bind_eq_ok.mp h
    obtain ⟨heads, -, h⟩ := bind_eq_ok.mp h
    obtain ⟨tails, -, h⟩ := bind_eq_ok.mp h
    obtain ⟨orphans, -, h⟩ := bind_eq_ok.mp h
    cases h
    rfl

namespace Batch

open Trace

/-- An outline that was built passes the range check, if it can be stored. -/
theorem bodyOutcome_outline {o : BatchOptions} {b : Body} {outline : Outline}
    (h : (bodyOutcome o b).outline = some outline) (hfit : outline.unitList.length < 0x100000000) :
    Outline.rangeReport (some outline) = none := by
  unfold bodyOutcome bodyResult at h
  split at h
  · cases h
  · next f hbuild =>
      split at h
      · cases h
      · next hflow =>
          cases h
          have hformed := build_formed hbuild
          have hcover : f.units = (b.flowGraph o.graph).units := hformed.tiling.covers
          rw [Outline.ofFlow_unitList hflow, List.length_map, hcover] at hfit
          rw [hformed.ofFlow_eq_ok hfit (build_units_ne_nil hbuild)] at hflow
          cases hflow
          exact hformed.rangeReport_eq_none hfit _ _

/-- The record of a listing reads back as it is. -/
theorem decode_fresh {o : BatchOptions} {path src : Bytes} {bodies : List Body}
    (hparse : Listing.parse path src = .ok bodies) (hfit : (record o (built o path src)).Fits) (now : Int64) :
    Record.decode ((record o (built o path src)).stamped now).encode =
      .ok ((record o (built o path src)).stamped now) := by
  have hbodies : (record o (built o path src)).bodies.getD [] =
      bodies.map fun b => bodyRecord (bodyOutcome o b) := by
    simp [record, built, hparse]
  have hgood : Record.badOutline? ((record o (built o path src)).bodies.getD []) = none := by
    rw [Record.badOutline?_eq_none]
    intro b hb outline houtline
    have hfits : b.Fits := hfit.2.2.2.2 b hb
    have hunits : outline.unitList.length < 0x100000000 := (hfits.2.1 outline houtline).2.1.1
    rw [hbodies] at hb
    obtain ⟨c, -, rfl⟩ := List.mem_map.mp hb
    exact bodyOutcome_outline houtline hunits
  have hread : Record.decode ((record o (built o path src)).stamped now).encode =
      .ok ((record o (built o path src)).stamped now).trimmed := by
    rw [Record.decode_stamped hfit now, hgood]
  rw [hread, decode_record hparse hfit hread]

namespace Visit

/-- Nothing is found for the listing: there is no record of it, or one of another version, or none that can be
read. -/
def Declined (v : Visit) (s : Store) : Prop :=
  ∀ src found, v.source? = some src → s.get (key v.options src) v.disk ≠ .ok (some found)

variable {v u : Visit} {s : Store} {src : Bytes} {bodies : List Body}

theorem record?_eq (hs : v.options.store = some s) (hsrc : v.source? = some src) :
    v.record? = if v.options.verify then none else (s.get (key v.options src) v.disk).toOption.join := by
  rw [record?, hsrc, Option.bind_some, found?, hs]

theorem record?_eq_none (hs : v.options.store = some s) (h : v.options.verify = true ∨ v.Declined s) :
    v.record? = none := by
  cases hsrc : v.source? with
  | none => rw [record?, hsrc, Option.bind_none]
  | some src =>
      rw [record?_eq hs hsrc]
      split
      · rfl
      · next hverify =>
          cases hget : s.get (key v.options src) v.disk with
          | error e => rfl
          | ok found =>
              cases found with
              | none => rfl
              | some found => exact absurd hget (h.resolve_left hverify src found hsrc)

/-- A file that is not served gives what it gives without a store. -/
theorem Without.result_of_missing (h : v.Without u) (hmissing : v.record? = none) : v.result = u.result := by
  rw [h.result_eq]
  cases hsrc : v.source? with
  | none => exact result_unread hsrc
  | some src => rw [Visit.result_eq hsrc, bare_eq hsrc, hmissing, Option.map_none, Option.getD_none]

theorem Fits.record (h : v.Fits) (hsrc : v.source? = some src) (hparse : Listing.parse v.path src = .ok bodies) :
    (Batch.record v.options (built v.options v.path src)).Fits := by
  rw [← bare_eq hsrc]
  refine h ?_
  rw [bare_eq hsrc, built, hparse]

end Visit

/-- A record with some property is found under a key, and no trace is written over it. -/
structure Stocked (s : Store) (key : Bytes) (good : Record → Prop) (r : Recorder) : Prop where
  tree : r.host.disk.Sound
  apart : s.site r.host.disk.cwd key ∉ r.sink.places
  found : ∃ found, good found ∧ s.get key r.host.disk = .ok (some found)

section Stocked

variable {s : Store} {k : Bytes} {good good' : Record → Prop} {r r' : Recorder} {v : Visit} {src : Bytes}
  {bodies : List Body}

theorem Stocked.imp (h : Stocked s k good r) (hgood : ∀ found, good found → good' found) :
    Stocked s k good' r := by
  obtain ⟨found, hfound, hget⟩ := h.found
  exact ⟨h.tree, h.apart, found, hgood found hfound, hget⟩

theorem Stocked.emits (h : Stocked s k good r) (he : Recorder.Emits r r') : Stocked s k good r' := by
  obtain ⟨hplaces, hdisk⟩ := he.overwritten
  have hkept := hdisk.keeps h.tree
  obtain ⟨found, hfound, hget⟩ := h.found
  refine ⟨hkept.sound, ?_, found, hfound, Store.get_kept hkept hget h.apart⟩
  rw [hkept.cwd, hplaces]
  exact h.apart

/-- What is filed is found. -/
theorem Visit.stocked (hparse : Listing.parse v.path src = .ok bodies)
    (hfit : (record v.options (built v.options v.path src)).Fits) (hd : (v.filing src bodies).host.disk.Sound)
    (hapart : s.site (v.filing src bodies).host.disk.cwd (key v.options src) ∉ (v.filing src bodies).sink.places)
    (hput : (v.filed s src bodies).error = none) :
    Stocked s (key v.options src) (· = v.fresh src bodies) (v.stored s src bodies) := by
  obtain ⟨hsound, hcwd, -⟩ := Store.put_effect hd hput
  refine ⟨hsound, ?_, v.fresh src bodies, rfl, ?_⟩
  · change s.site (v.filed s src bodies).disk.cwd _ ∉ _
    rw [filed, hcwd]
    exact hapart
  · refine (Store.get_put hd hput).trans ?_
    rw [Store.answer, decode_fresh hparse hfit]
    rfl

/-- Running a file keeps a record, or replaces it by its own. -/
theorem Stocked.visit (h : Stocked s k good v.before) (hs : v.options.store = some s)
    (hgood : ∀ src bodies, v.source? = some src → Listing.parse v.path src = .ok bodies → v.record? = none →
      key v.options src = k → (record v.options (built v.options v.path src)).Fits ∧ good (v.fresh src bodies)) :
    Stocked s k good v.after := by
  rcases Visit.after_steps hs with hsteps | ⟨src, bodies, hsrc, hparse, hmissing, hsteps⟩
  · exact h.emits hsteps
  · have hfiling := h.emits (v.filing_emits src bodies)
    refine Stocked.emits ?_ hsteps
    by_cases hput : (v.filed s src bodies).error = none ∧ key v.options src = k
    · obtain ⟨hput, rfl⟩ := hput
      obtain ⟨hfit, hfresh⟩ := hgood src bodies hsrc hparse hmissing rfl
      refine (Visit.stocked hparse hfit hfiling.tree hfiling.apart hput).imp ?_
      rintro _ rfl
      exact hfresh
    · have hkept := s.put_keeps (Int64.ofInt (v.filing src bodies).host.now.sec) (key v.options src)
        (record v.options (built v.options v.path src)) hfiling.tree
      obtain ⟨found, hfound, hget⟩ := hfiling.found
      refine ⟨hkept.sound, ?_, found, hfound, Store.get_kept hkept hget ?_⟩
      · change s.site (v.filed s src bodies).disk.cwd k ∉ _
        rw [Visit.filed, hkept.cwd]
        exact hfiling.apart
      · rintro (hbeside | ⟨hok, hsite⟩)
        · exact hbeside.ne_site k rfl
        · exact hput ⟨hok, (Store.site_inj hsite).symm⟩

/-- A record that is found serves the file, unless the batch verifies. -/
theorem Stocked.record? (h : Stocked s k good v.before) (hs : v.options.store = some s)
    (hverify : v.options.verify = false) (hsrc : v.source? = some src) (hkey : key v.options src = k) :
    ∃ found, good found ∧ v.record? = some found := by
  obtain ⟨found, hfound, hget⟩ := (h.emits v.opened_emits).found
  refine ⟨found, hfound, ?_⟩
  rw [Visit.record?_eq hs hsrc, hverify, hkey]
  change (s.get k v.disk).toOption.join = _
  rw [show s.get k v.disk = _ from hget]
  rfl

end Stocked

/-- In a batch with a store and the same batch without, a file that is not served comes to the same. -/
theorem results_of_missing {o : BatchOptions} {parent : Nat} {files : List Bytes} {r : Recorder} {i : Nat}
    {v u : Visit} (hv : (visited o parent files r)[i]? = some v)
    (hu : (visited { o with store := none } parent files r)[i]? = some u)
    (hlisting : u.disk.read u.path = v.disk.read v.path) (hmissing : v.record? = none) :
    (run o false parent files r).1.results[i]? =
      (run { o with store := none } false parent files r).1.results[i]? := by
  have hpair : (v, u) ∈ (visited o parent files r).zip (visited { o with store := none } parent files r) :=
    List.mem_of_getElem? (List.getElem?_zip_eq_some.mpr ⟨hv, hu⟩)
  rw [run_results, run_results, List.getElem?_map, List.getElem?_map, hv, hu, Option.map_some, Option.map_some,
    (visited_without hpair hlisting).result_of_missing hmissing]

section Repair

variable {o : BatchOptions} {s : Store} {parent : Nat} {files : List Bytes} {r : Recorder} {v : Visit}
  {src : Bytes} {bodies : List Body}

/-- The listing is read and parsed, and there is room for what is built of it: files can be written in the
directory of the records, and no directory or trace stands in the place of the record. -/
structure Visit.Mendable (v : Visit) (s : Store) (src : Bytes) (bodies : List Body) : Prop where
  source : v.source? = some src
  parsed : Listing.parse v.path src = .ok bodies
  tree : v.before.host.disk.Sound
  free : v.before.host.disk.node? (s.site v.before.host.disk.cwd (key v.options src)) ≠ some .dir
  apart : s.site v.before.host.disk.cwd (key v.options src) ∉ v.before.sink.places
  writable : s.Writable (key v.options src) (v.fresh src bodies).encode (v.filing src bodies).host.disk

/-- What was built is found from then on. -/
theorem Visit.Mendable.stocked (h : v.Mendable s src bodies) (hs : v.options.store = some s) (hfit : v.Fits)
    (hmissing : v.record? = none) : Stocked s (key v.options src) (· = v.fresh src bodies) v.after := by
  obtain ⟨hplaces, hdisk⟩ := (v.filing_emits src bodies).overwritten
  have hsound := hdisk.sound h.tree
  have hfree : (v.filing src bodies).host.disk.node?
      (s.site (v.filing src bodies).host.disk.cwd (key v.options src)) ≠ some .dir := by
    rw [hdisk.cwd, Ne, hdisk.dir_iff]
    exact h.free
  have hput := h.writable.put hsound (Digest.length_sha256 _) hfree
  refine (Visit.stocked h.parsed (hfit.record h.source h.parsed) hsound ?_ hput).emits
    (after_filed hs h.source h.parsed hmissing)
  rw [hdisk.cwd, hplaces]
  exact h.apart

/-- The record of a file of a batch that is filed under `k`. Only a batch that verifies files one twice. -/
def Refiled (o : BatchOptions) (parent : Nat) (files : List Bytes) (r : Recorder) (v : Visit) (k : Bytes)
    (found : Record) : Prop :=
  ∃ w ∈ visited o parent files r, (o.verify = false → w = v) ∧ ∃ src bodies, w.source? = some src ∧
    Listing.parse w.path src = .ok bodies ∧ key o src = k ∧ found = w.fresh src bodies

theorem Visit.Mendable.refiled (h : v.Mendable s src bodies) (ho : o.store = some s)
    (hv : v ∈ visited o parent files r) (hfit : ∀ w ∈ visited o parent files r, w.Fits)
    (hmissing : v.record? = none) :
    Stocked s (key o src) (Refiled o parent files r v (key o src)) (run o false parent files r).2 := by
  have hoptions := visited_options o parent files r
  have hfirst : Stocked s (key o src) (Refiled o parent files r v (key o src)) v.after := by
    have hstocked := h.stocked (by rw [hoptions v hv, ho]) (hfit v hv) hmissing
    rw [hoptions v hv] at hstocked
    refine hstocked.imp ?_
    rintro _ rfl
    exact ⟨v, hv, fun _ => rfl, src, bodies, h.source, h.parsed, rfl, rfl⟩
  refine visited_since (fun he hr => hr.emits he) (fun w hw hbefore => ?_) hv hfirst
  have hs : w.options.store = some s := by rw [hoptions w hw, ho]
  refine hbefore.visit hs fun src' bodies' hsrc hparse hnone hkey => ?_
  refine ⟨(hfit w hw).record hsrc hparse, w, hw, fun hverify => ?_, src', bodies', hsrc, hparse, ?_, rfl⟩
  · obtain ⟨found, -, hfound⟩ := hbefore.record? hs (by rw [hoptions w hw, hverify]) hsrc hkey
    rw [hnone] at hfound
    cases hfound
  · rw [← hkey, hoptions w hw]

/-- A batch that does not verify is given `found` for every listing with the key `k`. -/
def Serves (s : Store) (k : Bytes) (found : Record) (r : Recorder) : Prop :=
  ∀ (o : BatchOptions) (parent : Nat) (files : List Bytes) (i : Nat) (v : Visit) (src : Bytes),
    o.store = some s → o.verify = false → (visited o parent files r)[i]? = some v → v.source? = some src →
    key o src = k → (run o false parent files r).1.results[i]? = some (served v.path found)

/-- A record that is found serves its files, since none of them replaces it. -/
theorem Stocked.serves {k : Bytes} {found : Record} (h : Stocked s k (· = found) r) : Serves s k found r := by
  intro o parent files i v src ho hverify hi hsrc hkey
  have hv := List.mem_of_getElem? hi
  have hoptions := visited_options o parent files r
  have hserved : ∀ w ∈ visited o parent files r, ∀ src', w.source? = some src' → key o src' = k →
      Stocked s k (· = found) w.before → w.record? = some found := by
    intro w hw src' hsrc' hkey' hbefore
    rw [← hoptions w hw] at ho hverify hkey'
    obtain ⟨_, rfl, hrecord⟩ := hbefore.record? ho hverify hsrc' hkey'
    exact hrecord
  have hbefore : Stocked s k (· = found) v.before := by
    refine visited_invariant (fun he hr => hr.emits he) (fun w hw hbefore => ?_) h v hv
    refine hbefore.visit (by rw [hoptions w hw, ho]) fun src' bodies hsrc' _ hnone hkey' => ?_
    rw [hoptions w hw] at hkey'
    rw [hserved w hw src' hsrc' hkey' hbefore] at hnone
    cases hnone
  rw [run_results, List.getElem?_map, hi, Option.map_some, Visit.result_eq hsrc,
    hserved v hv src hsrc hkey hbefore]
  rfl

end Repair

/-- A store that has gone bad. Whatever stands where its records are, a file that is verified, or for which no
usable record is found, comes to what it comes to without the store: alone, and in a batch that reads the same
listing, as it does of one aside of trace and store. Where what was built can be filed, it is found right after;
at the end of the batch a record of the same key is found, and that serves the next batch. -/
theorem bad_store_harmless {o : BatchOptions} {s : Store} (ho : o.store = some s) (parent : Nat) (r : Recorder) :
    (∀ path, (∀ v ∈ visited o parent [path] r, o.verify = true ∨ v.Declined s) →
      (run o false parent [path] r).1.results =
        (run { o with store := none } false parent [path] r).1.results) ∧
    (∀ (files : List Bytes) (i : Nat) (v u : Visit), (visited o parent files r)[i]? = some v →
      (visited { o with store := none } parent files r)[i]? = some u →
      (Aside s v.path r → u.disk.read u.path = v.disk.read v.path) ∧
      (u.disk.read u.path = v.disk.read v.path → (o.verify = true ∨ v.Declined s) →
        (run o false parent files r).1.results[i]? =
          (run { o with store := none } false parent files r).1.results[i]?)) ∧
    ∀ (files : List Bytes) (v : Visit) (src : Bytes) (bodies : List Body), v ∈ visited o parent files r →
      (o.verify = true ∨ v.Declined s) → v.Mendable s src bodies →
      (∀ w ∈ visited o parent files r, w.Fits) →
      s.get (key o src) v.after.host.disk = .ok (some (v.fresh src bodies)) ∧
      ∃ found, Refiled o parent files r v (key o src) found ∧
        s.get (key o src) (run o false parent files r).2.host.disk = .ok (some found) ∧
        Serves s (key o src) found (run o false parent files r).2 := by
  have hmissing : ∀ files, ∀ v ∈ visited o parent files r,
      (o.verify = true ∨ v.Declined s) → v.record? = none := by
    intro files v hv h
    have hoptions := visited_options o parent files r v hv
    rw [← hoptions] at ho h
    exact Visit.record?_eq_none ho h
  refine ⟨?_, ?_, ?_⟩
  · intro path h
    let v : Visit := ⟨o, (begun parent r).1.under parent, path, (begun parent r).2⟩
    have hv : visited o parent [path] r = [v] := rfl
    have hnone := hmissing [path] v (by rw [hv]; exact List.mem_singleton_self v) (h v List.mem_cons_self)
    rw [run_results, run_results, hv, List.map_singleton, v.without_bare.result_of_missing hnone]
    rfl
  · intro files i v u hv hu
    refine ⟨fun haside => ?_, fun hlisting h => ?_⟩
    · have hpath : u.path = v.path := by
        have hpaths := (visited_paths { o with store := none } parent files r).trans
          (visited_paths o parent files r).symm
        have hi := congrArg (·[i]?) hpaths
        simpa [hv, hu] using hi
      rw [haside.read_visited (Or.inr ho) (List.mem_of_getElem? hv), hpath]
      rw [← hpath] at haside ⊢
      exact haside.read_visited (Or.inl rfl) (List.mem_of_getElem? hu)
    · exact results_of_missing hv hu hlisting (hmissing files v (List.mem_of_getElem? hv) h)
  · intro files v src bodies hv h hmend hfit
    have hnone := hmissing files v hv h
    have hoptions := visited_options o parent files r v hv
    obtain ⟨_, rfl, hget⟩ := (hmend.stocked (by rw [hoptions, ho]) (hfit v hv) hnone).found
    rw [hoptions] at hget
    have hend := hmend.refiled ho hv hfit hnone
    obtain ⟨found, hfound, hget'⟩ := hend.found
    have hstocked : Stocked s (key o src) (· = found) (run o false parent files r).2 :=
      ⟨hend.tree, hend.apart, found, rfl, hget'⟩
    exact ⟨hget, found, hfound, hget', hstocked.serves⟩

def twinStore : Store := ⟨bytes "cache"⟩

def twinListing : Bytes := bytes "return\n"

/-- The twins, and a store in which the record of their listing cannot be read. -/
def damaged : Recorder :=
  { host.disk.entries := twins.host.disk.entries ++ [([bytes "cache"], .dir),
      ([bytes "cache", bytes "graphs"], .dir), (twinSite (key twinOptions twinListing), .file (bytes "torn"))] }

def damagedTwin : Visit := ⟨twinOptions, 0, bytes "a.bbl", damaged⟩

def twinBodies : List Body := (Listing.parse damagedTwin.path twinListing).toOption.getD []

theorem damaged_aside : Aside twinStore (bytes "a.bbl") damaged :=
  ⟨Disk.sound_of_entries (by decide +kernel), ⟨twinListing, by decide +kernel⟩, List.not_mem_nil, by decide +kernel⟩

theorem damagedTwin_declined : damagedTwin.Declined twinStore := by
  have hsrc : damagedTwin.source? = some twinListing := by decide +kernel
  have hrefused : (twinStore.get (key twinOptions twinListing) damagedTwin.disk).isOk = false := by decide +kernel
  intro src found hfound hget
  rw [hsrc] at hfound
  cases hfound
  have hfound : twinStore.get (key twinOptions twinListing) damagedTwin.disk = .ok (some found) := hget
  rw [hfound] at hrefused
  cases hrefused

theorem damagedTwin_mendable : damagedTwin.Mendable twinStore twinListing twinBodies := by
  let disk := (damagedTwin.filing twinListing twinBodies).host.disk
  let content := (damagedTwin.fresh twinListing twinBodies).encode
  let temp := bytes "cache/graphs/tmp-0"
  have hwritable : twinStore.Writable (key damagedTwin.options twinListing) content disk :=
    ⟨by decide +kernel, disk, temp, (disk.write temp content).toOption.getD disk, by decide +kernel,
      by decide +kernel⟩
  exact ⟨by decide +kernel, by decide +kernel, damaged_aside.tree, by decide +kernel, List.not_mem_nil, hwritable⟩

/-- The first twin is built anew, and then the second is served. -/
theorem damaged_store_mended :
    (run twinOptions false 0 [bytes "a.bbl"] damaged).1.results =
        (run { twinOptions with store := none } false 0 [bytes "a.bbl"] damaged).1.results ∧
      ∃ found,
        twinStore.get (key twinOptions twinListing) (run twinOptions false 0 [bytes "a.bbl"] damaged).2.host.disk =
          .ok (some found) ∧
        (run twinOptions false 0 [bytes "b.bbl"] (run twinOptions false 0 [bytes "a.bbl"] damaged).2).1.results[0]? =
          some (served (bytes "b.bbl") found) := by
  obtain ⟨halone, -, hrepair⟩ := bad_store_harmless (s := twinStore) (rfl : twinOptions.store = _) 0 damaged
  have hvisited : visited twinOptions 0 [bytes "a.bbl"] damaged = [damagedTwin] := rfl
  obtain ⟨-, found, -, hget, hnext⟩ := hrepair [bytes "a.bbl"] damagedTwin twinListing twinBodies
    (by rw [hvisited]; exact List.mem_cons_self) (Or.inr damagedTwin_declined) damagedTwin_mendable
    (by decide +kernel)
  refine ⟨halone (bytes "a.bbl") ?_, found, hget,
    hnext twinOptions 0 [bytes "b.bbl"] 0 _ twinListing rfl rfl rfl ?_ rfl⟩
  · intro v hv
    rw [hvisited, List.mem_singleton] at hv
    subst hv
    exact Or.inr damagedTwin_declined
  · decide +kernel

end Batch

end FlowBlocks
