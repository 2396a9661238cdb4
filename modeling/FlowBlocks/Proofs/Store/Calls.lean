import FlowBlocks.Proofs.Record.Canonical
import FlowBlocks.Proofs.Store.Effects
/-!
A store as a finite map. What the files of a store hold is a map from keys to contents; filing, looking up
and clearing are the operations on that map, whatever order they come in.
-/
namespace FlowBlocks

namespace Store

/-- A tree in which the files of a store have the contents `m`. Where there are none, the directory of the
records may be missing. -/
structure Holds (s : Store) (m : Bytes → Option Bytes) (d : Disk) : Prop where
  sound : d.Sound
  zero : 0 ∉ s.recordDir
  short : s.recordDir.length + 68 < 4096
  nodes : ∀ key, key.length = 32 → d.node? (s.site d.cwd key) = (m key).map .file
  way : (∃ home, d.walk (Disk.start d.cwd s.recordDir) (Path.parts s.recordDir) = .ok home ∧
      d.node? home = some .dir) ∨
    d.stat s.recordDir = .error .missing ∧ ∀ key, key.length = 32 → m key = none

/-- What a look-up makes of the content that is found. -/
def answer (key : Bytes) : Option Bytes → Except Bytes (Option Record)
  | none => .ok none
  | some content =>
    match Record.decode content with
    | .ok r => .ok (some r)
    | .error (.otherSchema _) => .ok none
    | .error e => .error (bytes "decode " ++ keyName key ++ bytes ": " ++ e.message)

section Contents

variable {s : Store} {d : Disk} {m : Bytes → Option Bytes} {key : Bytes}

theorem length_entryName (hkey : key.length = 32) : (entryName key).length = 67 := by
  rw [entryName, List.length_append, length_keyName, hkey]
  rfl

theorem locate_placeOf (hzero : 0 ∉ s.recordDir) (hshort : s.recordDir.length + 68 < 4096)
    (hkey : key.length = 32) :
    d.locate (s.placeOf key) = d.walk (Disk.start d.cwd s.recordDir) (Path.parts s.recordDir) >>= fun p =>
      match d.node? p with
      | none => .error .missing
      | some (.file _) => .error .notDirectory
      | some .dir => .ok (p ++ [entryName key]) := by
  have hentry := length_entryName hkey
  have hzero' : 0 ∉ s.placeOf key := by
    rw [placeOf_eq]
    intro h
    rcases List.mem_append.mp h with h | h
    · exact hzero h
    · rcases List.mem_cons.mp h with h | h
      · exact absurd h (by decide)
      · exact zero_not_mem_entryName key h
  have hlen : (s.placeOf key).length < 4096 := by
    rw [placeOf_eq, List.length_append, List.length_cons, hentry]
    omega
  have hne : s.placeOf key ≠ [] := by
    rw [placeOf_eq]
    simp
  rw [Disk.locate_eq_walk hne hzero' hlen, start_placeOf, parts_placeOf_eq, Disk.walk_append]
  refine congrArg (_ >>= ·) (funext fun p => ?_)
  exact Disk.walk_name (entry_plain key) (by omega) d p

theorem locate_placeOf_within {home : List Bytes} (hzero : 0 ∉ s.recordDir)
    (hshort : s.recordDir.length + 68 < 4096) (hkey : key.length = 32)
    (hwalk : d.walk (Disk.start d.cwd s.recordDir) (Path.parts s.recordDir) = .ok home) :
    d.locate (s.placeOf key) = match d.node? home with
      | none => .error .missing
      | some (.file _) => .error .notDirectory
      | some .dir => .ok (home ++ [entryName key]) := by
  rw [locate_placeOf hzero hshort hkey, hwalk]
  rfl

theorem locate_recordDir (hzero : 0 ∉ s.recordDir) (hshort : s.recordDir.length + 68 < 4096) :
    d.locate s.recordDir = d.walk (Disk.start d.cwd s.recordDir) (Path.parts s.recordDir) :=
  Disk.locate_eq_walk s.recordDir_ne_nil hzero (by omega)

theorem locate_of_missing (hzero : 0 ∉ s.recordDir) (hshort : s.recordDir.length + 68 < 4096)
    (hkey : key.length = 32) (h : d.stat s.recordDir = .error .missing) :
    d.locate (s.placeOf key) = .error .missing := by
  have hdir := locate_recordDir (d := d) hzero hshort
  cases hwalk : d.walk (Disk.start d.cwd s.recordDir) (Path.parts s.recordDir) with
  | error e =>
      rw [hwalk] at hdir
      rw [Disk.stat, hdir] at h
      cases h
      rw [locate_placeOf hzero hshort hkey, hwalk]
      rfl
  | ok p =>
      rw [hwalk] at hdir
      rw [Disk.stat_of_locate hdir] at h
      rw [locate_placeOf_within hzero hshort hkey hwalk]
      cases hnode : d.node? p with
      | none => rfl
      | some n =>
          rw [hnode] at h
          cases n with
          | dir => cases h
          | file c =>
              dsimp only at h
              split at h <;> cases h

/-- Files can be written where the records are: the directory can be made and a new file written in it, and the
path of the record is not too long. -/
structure Writable (s : Store) (key content : Bytes) (d : Disk) : Prop where
  short : (s.placeOf key).length < 4096
  written : ∃ d₁ temp d₂, d.makeDirs s.recordDir = .ok d₁ ∧
    d₁.writeTemp s.recordDir (bytes "tmp-") content = .ok (temp, d₂)

/-- A file that can be written beside the records lies in their directory. -/
theorem walk_recordDir {name : Bytes} {place : List Bytes} (hname : Path.Plain name)
    (h : d.locate (Disk.inside s.recordDir name) = .ok place) :
    0 ∉ s.recordDir ∧ ∃ home, d.walk (Disk.start d.cwd s.recordDir) (Path.parts s.recordDir) = .ok home ∧
      d.node? home = some .dir := by
  rw [temp_eq] at h
  obtain ⟨-, hzero, -, hwalk⟩ := Disk.locate_eq_ok h
  rw [Path.parts_append, hname.parts_eq, Disk.walk_append, Disk.start,
    Path.isAbsolute_append s.recordDir_ne_nil] at hwalk
  obtain ⟨home, hway, hlast⟩ := bind_eq_ok.mp hwalk
  obtain ⟨hdir, -⟩ := Disk.walk_cons_eq_ok.mp hlast
  exact ⟨fun hmem => hzero (List.mem_append_left _ hmem), home, hway, hdir⟩

/-- A record is filed wherever files can be written, unless a directory stands in its place. -/
theorem Writable.put {now : Int64} {r : Record} (h : s.Writable key (r.stamped now).encode d) (hd : d.Sound)
    (hkey : key.length = 32) (hfree : d.node? (s.site d.cwd key) ≠ some .dir) :
    (s.put now key r d).error = none := by
  obtain ⟨d₁, temp, d₂, hdirs, htemp⟩ := h.written
  have hgrown := Disk.makeDirsWithin_grown hd hdirs
  obtain ⟨e, hwrite, hret⟩ := bind_eq_ok.mp htemp
  obtain ⟨rfl, rfl⟩ := Prod.mk.inj (Except.ok.inj hret)
  obtain ⟨hlocate, hstat⟩ := Disk.write_stat hgrown.sound hwrite
  obtain ⟨hzero, home, hway, hdir⟩ := walk_recordDir (tempName_plain _) hlocate
  have hkept := fun {q} => Disk.write_dirs (q := q) hgrown.sound hwrite
  have hcwd : e.cwd = d₁.cwd := (Disk.write_eq hwrite).1.cwd
  have hshort : s.recordDir.length + 68 < 4096 := by
    have hlen := h.short
    rw [placeOf_eq, List.length_append, List.length_cons, length_entryName hkey] at hlen
    omega
  have hnew : e.locate (s.placeOf key) = .ok (home ++ [entryName key]) := by
    have hway' : e.walk (Disk.start e.cwd s.recordDir) (Path.parts s.recordDir) = .ok home := by
      rw [hcwd]
      exact Disk.walk_mono (fun _ => hkept) hway
    rw [locate_placeOf_within hzero hshort hkey hway', hkept hdir]
  have hover : e.node? (home ++ [entryName key]) ≠ some .dir := by
    have hsite : home ++ [entryName key] = s.site d.cwd key := by
      rw [site_eq, Disk.walk_eq hway, hgrown.cwd]
      rfl
    rw [hsite, node?_prepared hd hdirs hwrite]
    exact hfree
  have hrename := Disk.rename_ok hstat hnew hover (s.wantsDirectory_placeOf key)
    (by rw [List.dropLast_concat]; exact hkept hdir)
  unfold Store.put
  dsimp only
  rw [directory_placeOf, hdirs]
  dsimp only
  rw [htemp]
  dsimp only
  rw [hrename]

/-- A look-up gives what the map has. -/
theorem Holds.get_eq (h : s.Holds m d) (hkey : key.length = 32) : s.get key d = answer key (m key) := by
  have hnode := h.nodes key hkey
  unfold get
  dsimp only
  rcases h.way with ⟨home, hwalk, hdir⟩ | ⟨hmissing, hnone⟩
  · have hlocate : d.locate (s.placeOf key) = .ok (s.site d.cwd key) := by
      rw [locate_placeOf_within h.zero h.short hkey hwalk, hdir, site_eq, Disk.walk_eq hwalk]
      rfl
    rw [Disk.stat_of_locate hlocate, hnode, wantsDirectory_placeOf]
    cases m key with
    | none => rfl
    | some content => rfl
  · rw [Disk.stat, locate_of_missing h.zero h.short hkey hmissing, hnone key hkey]
    rfl

theorem Holds.put {now : Int64} {r : Record} (h : s.Holds m d) (hkey : key.length = 32)
    (hok : (s.put now key r d).error = none) :
    s.Holds (Function.update m key (some (r.stamped now).encode)) (s.put now key r d).disk := by
  obtain ⟨hsound, hcwd, hlocate, hfiled, hothers⟩ := put_effect h.sound hok
  refine ⟨hsound, h.zero, h.short, ?_, Or.inl ?_⟩
  · intro other hother
    rw [hcwd]
    by_cases heq : other = key
    · subst heq
      rw [hfiled, Function.update_self]
      rfl
    · rw [hothers other heq, h.nodes other hother, Function.update_of_ne heq]
  · rw [locate_placeOf h.zero h.short hkey] at hlocate
    obtain ⟨home, hwalk, hhome⟩ := bind_eq_ok.mp hlocate
    refine ⟨home, hwalk, ?_⟩
    split at hhome
    · cases hhome
    · cases hhome
    · assumption

theorem Holds.clear (h : s.Holds m d) : (s.clear d).1 = none ∧ s.Holds (fun _ => none) (s.clear d).2 := by
  rcases h.way with ⟨home, hwalk, hdir⟩ | ⟨hmissing, hnone⟩
  · have hlen : s.recordDir.length < 4096 := by
      have := h.short
      omega
    obtain ⟨_, -, hparent⟩ := s.splitLast_recordDir
    obtain ⟨place, hhome, -, -⟩ := hparent d home h.zero hlen hwalk
    have hroot : home ≠ [] := by simp [hhome]
    rw [clear_eq h.zero hlen hwalk hdir]
    refine ⟨rfl, h.sound.dropTree home, h.zero, h.short, ?_, Or.inr ⟨?_, fun _ _ => rfl⟩⟩
    · intro key hkey
      refine Disk.node?_dropTree_below ?_ ?_
      · rw [site_eq, Disk.walk_eq hwalk]
        exact List.prefix_append _ _
      · simp [site_eq]
    · -- what led to the directory leads there still, or is gone itself
      have hlost : ∀ q, (d.dropTree home).node? q = d.node? q ∨ (d.dropTree home).node? q = none := by
        intro q
        by_cases hq : home <+: q
        · refine Or.inr (Disk.node?_dropTree_below hq ?_)
          rintro rfl
          exact hroot (List.prefix_nil.mp hq)
        · exact Or.inl (Disk.node?_dropTree_other hq)
      have hlocate := locate_recordDir (d := d.dropTree home) h.zero h.short
      rcases Disk.walk_lost hlost hwalk with hwalk' | hwalk'
      · rw [Disk.stat_of_locate (hlocate.trans hwalk'), Disk.node?_dropTree_below (List.prefix_refl home) hroot]
      · rw [Disk.stat, hlocate.trans hwalk']
        rfl
  · have hclear : s.clear d = (none, d) := by
      unfold Store.clear Disk.removeAll Disk.removeOne?
      rw [if_neg (by simpa using s.recordDir_ne_nil), endsWithDot_recordDir, if_neg Bool.false_ne_true, hmissing]
    rw [hclear]
    refine ⟨rfl, h.sound, h.zero, h.short, ?_, Or.inr ⟨hmissing, fun _ _ => rfl⟩⟩
    intro key hkey
    rw [h.nodes key hkey, hnone key hkey]

end Contents

/-- A tree in which a store has no records: none stands at the site of a key, and none is found. -/
structure Vacant (s : Store) (d : Disk) : Prop where
  sound : d.Sound
  nodes : ∀ key, key.length = 32 → d.node? (s.site d.cwd key) = none
  missing : ∀ key, key.length = 32 → d.stat (s.placeOf key) = .error .missing

theorem Vacant.fits {s : Store} {d : Disk} (h : s.Vacant d) :
    0 ∉ s.recordDir ∧ s.recordDir.length + 68 < 4096 := by
  have hkey : (List.replicate 32 (0 : UInt8)).length = 32 := rfl
  have hmissing := h.missing _ hkey
  rw [Disk.stat, Disk.locate, placeOf_eq] at hmissing
  have hlen : (s.recordDir ++ Path.slash :: entryName (List.replicate 32 0)).length =
      s.recordDir.length + 68 := by
    rw [List.length_append, List.length_cons, length_entryName hkey]
  split at hmissing
  · next hnil => simp at hnil
  · split at hmissing
    · cases hmissing
    · next hzero =>
        split at hmissing
        · cases hmissing
        · next hshort =>
            rw [hlen] at hshort
            refine ⟨fun hmem => hzero ?_, Nat.lt_of_not_le hshort⟩
            simp [hmem]

theorem Vacant.holds {s : Store} {d : Disk} (h : s.Vacant d) : s.Holds (fun _ => none) d := by
  obtain ⟨hzero, hshort⟩ := h.fits
  refine ⟨h.sound, hzero, hshort, h.nodes, ?_⟩
  have hkey : (List.replicate 32 (0 : UInt8)).length = 32 := rfl
  have hmissing := h.missing _ hkey
  have hdir := locate_recordDir (d := d) hzero hshort
  cases hwalk : d.walk (Disk.start d.cwd s.recordDir) (Path.parts s.recordDir) with
  | error e =>
      rw [hwalk] at hdir
      rw [Disk.stat, locate_placeOf hzero hshort hkey, hwalk] at hmissing
      cases hmissing
      refine Or.inr ⟨?_, fun _ _ => rfl⟩
      rw [Disk.stat, hdir]
      rfl
  | ok home =>
      rw [hwalk] at hdir
      cases hnode : d.node? home with
      | none =>
          refine Or.inr ⟨?_, fun _ _ => rfl⟩
          rw [Disk.stat_of_locate hdir, hnode]
      | some n =>
          cases n with
          | dir => exact Or.inl ⟨home, rfl, hnode⟩
          | file c =>
              rw [Disk.stat, locate_placeOf_within hzero hshort hkey hwalk, hnode] at hmissing
              cases hmissing

theorem vacant_of_missing {s : Store} {d : Disk} (hd : d.Sound) (hzero : 0 ∉ s.recordDir)
    (hshort : s.recordDir.length + 68 < 4096) (hstat : d.stat s.recordDir = .error .missing)
    (hnode : d.node? (Disk.siteOf d.cwd s.recordDir) = none) : s.Vacant d := by
  refine ⟨hd, ?_, ?_⟩
  · intro key _
    by_contra hfound
    rw [site_eq] at hfound
    have hdir := hd _ _ hfound
    rw [hnode] at hdir
    cases hdir
  · intro key hkey
    rw [Disk.stat, locate_of_missing hzero hshort hkey hstat]
    rfl

inductive Call
  | put (now : Int64) (key : Bytes) (r : Record)
  | get (key : Bytes)
  | clear

namespace Call

/-- The error that a call reports, and the disk after it. Looking up changes nothing. -/
def run (s : Store) (d : Disk) : Call → Option Bytes × Disk
  | put now key r => ((s.put now key r d).error, (s.put now key r d).disk)
  | get _ => (none, d)
  | clear => ((s.clear d).1.map DiskError.message, (s.clear d).2)

/-- Keys are digests, and records that are filed have a time and fit the encoding. -/
def Proper : Call → Prop
  | put _ key r => key.length = 32 ∧ r.written ≠ 0 ∧ r.Fits
  | get key => key.length = 32
  | clear => True

instance : DecidablePred Proper
  | put _ key r => inferInstanceAs (Decidable (key.length = 32 ∧ r.written ≠ 0 ∧ r.Fits))
  | get key => inferInstanceAs (Decidable (key.length = 32))
  | clear => inferInstanceAs (Decidable True)

/-- A call that is about another key. -/
def Spares (key : Bytes) : Call → Prop
  | put _ other _ => other ≠ key
  | get other => other ≠ key
  | clear => False

/-- The record last filed under a key, once a call is made. -/
def filed (key : Bytes) (last : Option Record) : Call → Option Record
  | put _ other r => if other = key then some r else last
  | get _ => last
  | clear => none

end Call

def after (s : Store) (d : Disk) (calls : List Call) : Disk := calls.foldl (fun d c => (c.run s d).2) d

def Succeed (s : Store) : Disk → List Call → Prop
  | _, [] => True
  | d, c :: calls => (c.run s d).1 = none ∧ Succeed s (c.run s d).2 calls

instance Succeed.decidable (s : Store) : (d : Disk) → (calls : List Call) → Decidable (s.Succeed d calls)
  | _, [] => .isTrue trivial
  | d, c :: calls => @instDecidableAnd _ _ _ (Succeed.decidable s (c.run s d).2 calls)

/-- The record last filed under a key since the store was last cleared. -/
def latest (key : Bytes) (calls : List Call) : Option Record := calls.foldl (Call.filed key) none

def shelved (m : Bytes → Option Record) (key : Bytes) : Option Bytes :=
  (m key).map fun r => (r.stamped 0).encode

section Runs

variable {s : Store} {d : Disk} {m : Bytes → Option Record}

theorem Holds.run {c : Call} (h : s.Holds (shelved m) d) (hc : c.Proper) (hok : (c.run s d).1 = none) :
    s.Holds (shelved fun key => c.filed key (m key)) (c.run s d).2 := by
  cases c with
  | put now key r =>
      obtain ⟨hkey, hwritten, -⟩ := hc
      have hstamped : r.stamped now = r.stamped 0 := by
        rw [Record.stamped, Record.stamped, if_neg hwritten, if_neg hwritten]
      have hmap : Function.update (shelved m) key (some (r.stamped now).encode) =
          shelved fun other => (Call.put now key r).filed other (m other) := by
        funext other
        by_cases heq : key = other
        · subst heq
          rw [Function.update_self, hstamped]
          simp [shelved, Call.filed]
        · rw [Function.update_of_ne (Ne.symm heq)]
          simp [shelved, Call.filed, heq]
      rw [← hmap]
      exact h.put hkey hok
  | get key => exact h
  | clear => exact h.clear.2

theorem Holds.after {calls : List Call} (h : s.Holds (shelved m) d) (hcalls : ∀ c ∈ calls, c.Proper)
    (hok : s.Succeed d calls) :
    s.Holds (shelved fun key => calls.foldl (Call.filed key) (m key)) (s.after d calls) := by
  induction calls generalizing d m with
  | nil => exact h
  | cons c calls ih =>
      have hfirst := h.run (hcalls c List.mem_cons_self) hok.1
      exact ih hfirst (fun c' hc' => hcalls c' (List.mem_cons_of_mem c hc')) hok.2

theorem latest_proper {calls : List Call} {key : Bytes} {r : Record} (hcalls : ∀ c ∈ calls, c.Proper)
    (h : latest key calls = some r) : r.written ≠ 0 ∧ r.Fits := by
  have hfold : ∀ (calls : List Call) (last : Option Record), (∀ c ∈ calls, c.Proper) →
      (∀ r ∈ last, r.written ≠ 0 ∧ r.Fits) →
        ∀ r ∈ calls.foldl (Call.filed key) last, r.written ≠ 0 ∧ r.Fits := by
    intro calls
    induction calls with
    | nil => exact fun last _ hlast => hlast
    | cons c calls ih =>
        intro last hcalls hlast
        refine ih _ (fun c' hc' => hcalls c' (List.mem_cons_of_mem c hc')) ?_
        have hc := hcalls c List.mem_cons_self
        cases c with
        | put now other r =>
            intro r' hr'
            change r' ∈ (if other = key then some r else last) at hr'
            split at hr'
            · cases hr'
              exact hc.2
            · exact hlast r' hr'
        | get other => exact hlast
        | clear => nofun
  exact hfold calls none hcalls nofun r h

/-- What is filed is found again, or refused for its outlines. -/
theorem answer_filed {key : Bytes} {r : Record} (hwritten : r.written ≠ 0) (hfit : r.Fits) :
    (Record.badOutline? (r.bodies.getD []) = none →
      answer key (some (r.stamped 0).encode) = .ok (some { r.trimmed with schema := 1 })) ∧
    (Record.badOutline? (r.bodies.getD []) ≠ none →
      ∃ e, answer key (some (r.stamped 0).encode) = .error e) := by
  have hstamped : (r.stamped 0).trimmed = { r.trimmed with schema := 1 } := by
    rw [Record.stamped, if_neg hwritten]
    rfl
  unfold answer
  dsimp only
  rw [Record.decode_stamped hfit]
  cases hbad : Record.badOutline? (r.bodies.getD []) with
  | none =>
      refine ⟨fun _ => ?_, fun hne => absurd rfl hne⟩
      rw [← hstamped]
  | some e =>
      refine ⟨fun hnone => absurd hnone (Option.some_ne_none _), fun _ => ?_⟩
      obtain ⟨-, b, -, -, report, -, -, -, -, rfl⟩ := Record.badOutline?_eq_some hbad
      exact ⟨_, rfl⟩

end Runs

end Store

/-- A store is a map. Of any calls that succeed on a store that was empty, in any order and over any keys, a
look-up finds the record that was filed last under its key since the store was last cleared, trimmed and with
the current version, and nothing exactly if there is none; the record is refused exactly if one of its outlines
does not pass the range check. A call about another key changes no look-up. -/
theorem store_is_map {s : Store} {d : Disk} {calls : List Store.Call} (hvacant : s.Vacant d)
    (hcalls : ∀ c ∈ calls, c.Proper) (hok : s.Succeed d calls) {key : Bytes} (hkey : key.length = 32) :
    (s.get key (s.after d calls) = .ok none ↔ Store.latest key calls = none) ∧
      (∀ r, Store.latest key calls = some r →
        (∀ b ∈ r.bodies.getD [], ∀ o ∈ b.outline, Outline.rangeReport (some o) = none) →
          s.get key (s.after d calls) = .ok (some { r.trimmed with schema := 1 })) ∧
      (∀ r, Store.latest key calls = some r →
        ¬(∀ b ∈ r.bodies.getD [], ∀ o ∈ b.outline, Outline.rangeReport (some o) = none) →
          ∃ e, s.get key (s.after d calls) = .error e) ∧
      ∀ c : Store.Call, c.Proper → c.Spares key → (c.run s (s.after d calls)).1 = none →
        s.get key (c.run s (s.after d calls)).2 = s.get key (s.after d calls) := by
  have hholds := (show s.Holds (Store.shelved fun _ => none) d from hvacant.holds).after hcalls hok
  have hget : s.get key (s.after d calls) =
      Store.answer key ((Store.latest key calls).map fun r => (r.stamped 0).encode) := hholds.get_eq hkey
  have hfiled : ∀ r, Store.latest key calls = some r →
      (Record.badOutline? (r.bodies.getD []) = none →
        s.get key (s.after d calls) = .ok (some { r.trimmed with schema := 1 })) ∧
      (Record.badOutline? (r.bodies.getD []) ≠ none → ∃ e, s.get key (s.after d calls) = .error e) := by
    intro r hr
    obtain ⟨hwritten, hfit⟩ := Store.latest_proper hcalls hr
    rw [hget, hr]
    exact Store.answer_filed hwritten hfit
  refine ⟨⟨?_, ?_⟩, ?_, ?_, ?_⟩
  · intro hmiss
    by_contra hlatest
    obtain ⟨r, hr⟩ := Option.ne_none_iff_exists'.mp hlatest
    by_cases hbad : Record.badOutline? (r.bodies.getD []) = none
    · rw [(hfiled r hr).1 hbad] at hmiss
      cases hmiss
    · obtain ⟨e, he⟩ := (hfiled r hr).2 hbad
      rw [he] at hmiss
      cases hmiss
  · intro hnone
    rw [hget, hnone]
    rfl
  · intro r hr hgood
    exact (hfiled r hr).1 (Record.badOutline?_eq_none.mpr hgood)
  · intro r hr hbad
    exact (hfiled r hr).2 fun hnone => hbad (Record.badOutline?_eq_none.mp hnone)
  · intro c hc hspares hcok
    have hkept : c.filed key (Store.latest key calls) = Store.latest key calls := by
      cases c with
      | put now other r => exact if_neg hspares
      | get other => rfl
      | clear => exact hspares.elim
    have hafter := (hholds.run hc hcok).get_eq hkey
    rw [hafter, hget]
    exact congrArg (fun last : Option Record => Store.answer key (last.map fun r => (r.stamped 0).encode)) hkept

def openedDisk : Disk := { entries := [([bytes "cache"], .dir)] }

theorem openedDisk_vacant : Store.Vacant ⟨bytes "cache"⟩ openedDisk := by
  have hempty : Disk.Sound {} := by
    intro place name h
    refine absurd ?_ h
    rw [Disk.node?_eq _ _ (by simp)]
    rfl
  have hmade : Disk.makeDirs {} (bytes "cache") = .ok openedDisk := by decide +kernel
  exact Store.vacant_of_missing (Disk.makeDirsWithin_grown hempty hmade).sound (by decide +kernel)
    (by decide +kernel) (by decide +kernel) (by decide +kernel)

/-- Calls on three keys: one record is found, one is refused, and one was cleared away. -/
theorem oneBlock_store_is_map :
    let key := fun b : UInt8 => List.replicate 32 b
    let calls : List Store.Call := [.put 9 (key 3) (oneBlock 0), .clear, .put 9 (key 1) (oneBlock 1),
      .put 9 (key 1) (oneBlock 0), .get (key 2), .put 9 (key 2) (oneBlock 1)]
    let disk := Store.after ⟨bytes "cache"⟩ openedDisk calls
    Store.get ⟨bytes "cache"⟩ (key 1) disk = .ok (some { (oneBlock 0).trimmed with schema := 1 }) ∧
      (∃ e, Store.get ⟨bytes "cache"⟩ (key 2) disk = .error e) ∧
      Store.get ⟨bytes "cache"⟩ (key 3) disk = .ok none := by
  intro key calls disk
  have hproper : ∀ c ∈ calls, c.Proper := by decide +kernel
  have hok : Store.Succeed ⟨bytes "cache"⟩ openedDisk calls := by decide +kernel
  have hkey : ∀ b, (key b).length = 32 := fun b => List.length_replicate
  obtain ⟨-, hfound, -, -⟩ := store_is_map openedDisk_vacant hproper hok (hkey 1)
  obtain ⟨-, -, hrefused, -⟩ := store_is_map openedDisk_vacant hproper hok (hkey 2)
  obtain ⟨hmiss, -, -, -⟩ := store_is_map openedDisk_vacant hproper hok (hkey 3)
  refine ⟨hfound _ rfl (by decide +kernel), hrefused _ rfl (by decide +kernel), hmiss.mpr rfl⟩

end FlowBlocks
