import FlowBlocks.Proofs.Disk.Tree
/-!
Where a store keeps its records, and what filing and clearing do to a tree. The records stand side by side in
one directory, which is made on the way and taken away as a whole.
-/
namespace FlowBlocks

namespace Disk

variable {d : Disk} {path : Bytes} {place : List Bytes}

theorem siteOf_append {name : Bytes} (hpath : path ≠ []) (hname : Path.Plain name) (cwd : List Bytes) :
    siteOf cwd (path ++ Path.slash :: name) = siteOf cwd path ++ [name] := by
  rw [siteOf, siteOf, Path.isAbsolute_append hpath, Path.parts_append, hname.parts_eq, follow_concat hname]

/-- The last name of a spelled-out path, split off. -/
theorem splitLast_spelled {rooted : Bool} {names : List Bytes} {name : Bytes}
    (h : Path.Direct rooted names) (hne : names ≠ []) (hname : Path.Plain name) :
    splitLast (Path.spelled rooted names ++ Path.slash :: name) = (Path.spelled rooted names, name) := by
  obtain ⟨b, rest, hjoin, hb⟩ := Path.join_head h hne
  have hleading : ¬((Path.spelled rooted names ++ Path.slash :: name).takeWhile (· == Path.slash)).length > 1 := by
    cases rooted <;> simp [Path.spelled, hjoin, hb]
  have hsolid : ∀ c ∈ name.reverse, (c != Path.slash) = true := by
    intro c hc
    simpa using fun heq : c = Path.slash => hname.no_slash (heq ▸ List.mem_reverse.mp hc)
  have hbody : Bytes.dropEndWhile (· == Path.slash) (Path.spelled rooted names ++ Path.slash :: name) =
      Path.spelled rooted names ++ Path.slash :: name := by
    obtain ⟨c, front, hfront⟩ := List.exists_cons_of_ne_nil (List.reverse_ne_nil_iff.mpr hname.ne_nil)
    have hc : c ≠ Path.slash := by simpa using hsolid c (by rw [hfront]; exact List.mem_cons_self)
    have hreverse : (Path.spelled rooted names ++ Path.slash :: name).reverse =
        c :: (front ++ Path.slash :: (Path.spelled rooted names).reverse) := by
      simp [hfront]
    rw [Bytes.dropEndWhile, hreverse, List.dropWhile_cons_of_neg (by simpa using hc), ← hreverse,
      List.reverse_reverse]
  have hlast : ((Path.spelled rooted names ++ Path.slash :: name).reverse.takeWhile (· != Path.slash)).reverse =
      name := by
    simp only [List.reverse_append, List.reverse_cons, List.append_assoc, List.singleton_append]
    rw [List.takeWhile_append_of_pos hsolid]
    simp
  have hbefore : (Path.spelled rooted names ++ Path.slash :: name).take
      ((Path.spelled rooted names ++ Path.slash :: name).length - name.length) =
        Path.spelled rooted names ++ [Path.slash] := by
    rw [List.append_cons]
    exact List.take_left' (by simp [Nat.add_sub_assoc])
  have hspelled := Path.spelled_ne_nil h hne
  unfold splitLast
  dsimp only
  rw [if_neg hleading, hbody]
  split
  · next hnil => simp at hnil
  · rw [hlast, hbefore, if_neg (by simpa using hname.ne_nil), if_neg (by simpa using hspelled),
      List.dropLast_concat]

end Disk

namespace Store

/-- The name of the file of a key. -/
def entryName (key : Bytes) : Bytes := keyName key ++ bytes ".mp"

theorem entry_plain (key : Bytes) : Path.Plain (entryName key) := entryName_plain key

theorem graphs_plain : Path.Plain (bytes "graphs") := Path.plain_of_length (by decide) (by decide)

/-- The directory of the records and the files in it, spelled out. -/
theorem recordDir_spelled (s : Store) : ∃ rooted names, Path.Direct rooted names ∧
    s.recordDir = Path.spelled rooted (names ++ [bytes "graphs"]) ∧
    ∀ key, s.placeOf key = Path.spelled rooted (names ++ [bytes "graphs"] ++ [entryName key]) := by
  have hgraphs : (bytes "graphs").isEmpty = false := rfl
  have hentry : ∀ key, (keyName key ++ bytes ".mp").isEmpty = false := by
    intro key
    simpa [entryName] using (entry_plain key).ne_nil
  by_cases hdir : s.dir = []
  · refine ⟨false, [], ⟨0, [], rfl, nofun, nofun⟩, ?_, ?_⟩
    · rw [recordDir, hdir]
      decide
    · intro key
      have hjoin : s.placeOf key = Path.clean (bytes "graphs" ++ Path.slash :: entryName key) := by
        simp [placeOf, Path.join, hdir, hgraphs, hentry, Bytes.join, entryName]
      rw [hjoin, Path.clean_append_plain (by decide) (entry_plain key)]
      rfl
  · have hne : s.dir.isEmpty = false := by simpa using hdir
    refine ⟨Path.isAbsolute s.dir, Path.cleaned (Path.isAbsolute s.dir) (Path.parts s.dir),
      Path.cleaned_direct fun _ => Path.mem_parts, ?_, ?_⟩
    · have hjoin : s.recordDir = Path.clean (s.dir ++ Path.slash :: bytes "graphs") := by
        simp [recordDir, Path.join, hne, hgraphs, Bytes.join]
      rw [hjoin, Path.clean_append_plain hdir graphs_plain]
    · intro key
      have hjoin : s.placeOf key =
          Path.clean ((s.dir ++ Path.slash :: bytes "graphs") ++ Path.slash :: entryName key) := by
        simp [placeOf, Path.join, hne, hgraphs, hentry, Bytes.join, entryName]
      rw [hjoin, Path.clean_append_plain (by simp) (entry_plain key), Path.isAbsolute_append hdir,
        Path.parts_append, graphs_plain.parts_eq, Path.cleaned_concat graphs_plain]

section Layout

variable (s : Store) (key : Bytes) (cwd : List Bytes)

theorem recordDir_ne_nil : s.recordDir ≠ [] := by
  obtain ⟨rooted, names, hdirect, hdir, -⟩ := s.recordDir_spelled
  rw [hdir]
  exact Path.spelled_ne_nil (hdirect.concat graphs_plain) (by simp)

theorem recordDir_getLast? : s.recordDir.getLast? = some (byte 's') := by
  obtain ⟨rooted, names, -, hdir, -⟩ := s.recordDir_spelled
  have hends : ∃ front, s.recordDir = front ++ bytes "graphs" := by
    by_cases hne : names = []
    · subst hne
      exact ⟨_, hdir⟩
    · rw [Path.spelled_concat hne, List.append_cons] at hdir
      exact ⟨_, hdir⟩
  obtain ⟨front, hends⟩ := hends
  rw [hends, List.getLast?_append]
  rfl

theorem endsWithDot_recordDir : Disk.endsWithDot s.recordDir = false := by
  have hlast := s.recordDir_getLast?
  rw [← Bool.not_eq_true, Disk.endsWithDot, Bool.or_eq_true, beq_iff_eq, List.isSuffixOf_iff_suffix]
  rintro (heq | ⟨front, heq⟩)
  · rw [heq] at hlast
    exact absurd hlast (by decide)
  · rw [← heq, List.getLast?_append] at hlast
    exact absurd hlast (by simp; decide)

theorem placeOf_eq : s.placeOf key = s.recordDir ++ Path.slash :: entryName key := by
  obtain ⟨rooted, names, -, hdir, hplace⟩ := s.recordDir_spelled
  rw [hplace, hdir, Path.spelled_concat (by simp)]

theorem directory_placeOf : Path.directory (s.placeOf key) = s.recordDir := by
  obtain ⟨rooted, names, hdirect, hdir, -⟩ := s.recordDir_spelled
  rw [placeOf_eq, hdir]
  exact Path.directory_spelled (hdirect.concat graphs_plain) (by simp) (entry_plain key).no_slash

theorem site_eq : s.site cwd key = Disk.siteOf cwd s.recordDir ++ [entryName key] := by
  rw [site, placeOf_eq, Disk.siteOf_append s.recordDir_ne_nil (entry_plain key)]

theorem start_placeOf : Disk.start cwd (s.placeOf key) = Disk.start cwd s.recordDir := by
  rw [placeOf_eq, Disk.start, Disk.start, Path.isAbsolute_append s.recordDir_ne_nil]

theorem parts_placeOf_eq : Path.parts (s.placeOf key) = Path.parts s.recordDir ++ [entryName key] := by
  rw [placeOf_eq, Path.parts_append, (entry_plain key).parts_eq]

theorem wantsDirectory_placeOf : Disk.wantsDirectory (s.placeOf key) = false := by
  rw [Disk.wantsDirectory, placeOf_eq, entryName, ← List.cons_append, ← List.append_assoc,
    List.getLast?_append]
  rfl

theorem length_keyName : (keyName key).length = 2 * key.length := by
  induction key with
  | nil => rfl
  | cons b key ih =>
      rw [keyName, List.flatMap_cons, List.length_append, ← keyName, ih, List.length_cons]
      simp [hexByte]
      omega

theorem zero_not_mem_entryName : (0 : UInt8) ∉ entryName key := by
  intro h
  rcases List.mem_append.mp h with h | h
  · obtain ⟨b, -, hb⟩ := List.mem_flatMap.mp h
    obtain ⟨n, hn, he⟩ := mem_hexByte hb
    have hdigit : ∀ n < 16, (0 : UInt8) ≠ byte (Nat.digitChar n) := by decide
    exact hdigit n hn he
  · exact absurd h (by decide)

end Layout

section Effects

variable {s : Store} {now : Int64} {key other : Bytes} {r : Record} {d : Disk}

/-- A record that is filed went through a file of its own beside its place. -/
theorem put_eq_ok (h : (s.put now key r d).error = none) : ∃ d₁ temp d₂,
    d.makeDirs s.recordDir = .ok d₁ ∧
      d₁.writeTemp s.recordDir (bytes "tmp-") (r.stamped now).encode = .ok (temp, d₂) ∧
      d₂.rename temp (s.placeOf key) = .ok (s.put now key r d).disk := by
  unfold put at h ⊢
  dsimp only at h ⊢
  rw [directory_placeOf] at h ⊢
  cases hdirs : d.makeDirs s.recordDir with
  | error e =>
      rw [hdirs] at h
      cases h
  | ok d₁ =>
      rw [hdirs] at h
      dsimp only at h ⊢
      cases htemp : d₁.writeTemp s.recordDir (bytes "tmp-") (r.stamped now).encode with
      | error e =>
          rw [htemp] at h
          cases h
      | ok made =>
          obtain ⟨temp, d₂⟩ := made
          rw [htemp] at h
          dsimp only at h ⊢
          refine ⟨d₁, temp, d₂, rfl, htemp, ?_⟩
          cases hrename : d₂.rename temp (s.placeOf key) with
          | error e =>
              rw [hrename] at h
              cases h
          | ok d₃ => rfl

theorem temp_eq (name : Bytes) : Disk.inside s.recordDir name = s.recordDir ++ Path.slash :: name := by
  have hdir : Disk.wantsDirectory s.recordDir = false := by
    rw [Disk.wantsDirectory, recordDir_getLast?]
    rfl
  rw [Disk.inside, hdir, if_neg Bool.false_ne_true, List.append_assoc, List.singleton_append]

theorem siteOf_temp (cwd : List Bytes) (n : Nat) :
    Disk.siteOf cwd (Disk.inside s.recordDir (bytes "tmp-" ++ decimal n)) =
      Disk.siteOf cwd s.recordDir ++ [bytes "tmp-" ++ decimal n] := by
  rw [temp_eq, Disk.siteOf_append s.recordDir_ne_nil (tempName_plain n)]

theorem temp_apart (cwd : List Bytes) (n : Nat) (key : Bytes) :
    ¬Disk.siteOf cwd s.recordDir ++ [bytes "tmp-" ++ decimal n] <+: s.site cwd key := by
  intro hprefix
  rw [site_eq] at hprefix
  have heq := hprefix.eq_of_length (by simp)
  exact tempName_ne_entryName n key (List.singleton_inj.mp (List.append_cancel_left heq))

/-- No directory is made at the site of a record. -/
theorem site_not_onWay (cwd : List Bytes) (key : Bytes) :
    ¬Disk.OnWay (Disk.start cwd s.recordDir) (Path.parts s.recordDir) (s.site cwd key) := by
  intro hway
  obtain ⟨rooted, names, hdirect, hdir, -⟩ := s.recordDir_spelled
  have hparts : Path.Direct rooted (Path.parts s.recordDir) := by
    rw [hdir, Path.parts_spelled (hdirect.concat graphs_plain)]
    exact hdirect.concat graphs_plain
  have hle := (hway.prefix_follow hparts).length_le
  rw [site_eq, List.length_append] at hle
  exact absurd hle (Nat.not_succ_le_self _)

/-- Nothing happens at the site of a record before the file beside it is moved there. -/
theorem node?_prepared {d₁ d₂ : Disk} {n : Nat} {content : Bytes} (hd : d.Sound)
    (hdirs : d.makeDirs s.recordDir = .ok d₁)
    (hwrite : d₁.write (Disk.inside s.recordDir (bytes "tmp-" ++ decimal n)) content = .ok d₂) (key : Bytes) :
    d₂.node? (s.site d.cwd key) = d.node? (s.site d.cwd key) := by
  have hgrown := Disk.makeDirsWithin_grown hd hdirs
  obtain ⟨-, -, hsame⟩ := Disk.write_sound hgrown.sound hwrite
  rw [hgrown.cwd, siteOf_temp] at hsame
  rw [hsame _ fun heq => s.temp_apart d.cwd n key (heq ▸ List.prefix_refl _)]
  rcases hgrown.nodes (s.site d.cwd key) with hkept | ⟨-, -, hway⟩
  · exact hkept
  · exact absurd hway (s.site_not_onWay d.cwd key)

/-- What filing a record does to a tree: the record stands under its key and can be looked up, and what stands
under other keys stays. -/
theorem put_effect (hd : d.Sound) (h : (s.put now key r d).error = none) :
    (s.put now key r d).disk.Sound ∧ (s.put now key r d).disk.cwd = d.cwd ∧
      (s.put now key r d).disk.locate (s.placeOf key) = .ok (s.site d.cwd key) ∧
      (s.put now key r d).disk.node? (s.site d.cwd key) = some (.file (r.stamped now).encode) ∧
      ∀ other, other ≠ key →
        (s.put now key r d).disk.node? (s.site d.cwd other) = d.node? (s.site d.cwd other) := by
  obtain ⟨d₁, temp, d₂, hdirs, htemp, hrename⟩ := put_eq_ok h
  generalize (s.put now key r d).disk = d₃ at hrename ⊢
  have hgrown := Disk.makeDirsWithin_grown hd hdirs
  obtain ⟨e, hwrite, hret⟩ := bind_eq_ok.mp htemp
  obtain ⟨rfl, rfl⟩ := Prod.mk.inj (Except.ok.inj hret)
  clear htemp hret
  generalize d₁.freeNumber s.recordDir (bytes "tmp-") (d₁.entries.length + 1) 0 = n at hwrite hrename
  obtain ⟨hgains, hcontent⟩ := Disk.write_eq hwrite
  obtain ⟨hsound, -, -⟩ := Disk.write_sound hgrown.sound hwrite
  have hcwd : e.cwd = d.cwd := hgains.cwd.trans hgrown.cwd
  rw [hgrown.cwd] at hcontent
  rw [← hcwd] at hcontent
  obtain ⟨hlocate, -, -, -⟩ := Disk.rename_eq_ok hrename hcontent
  obtain ⟨hsound', hcwd', hfiled, hdirs', hothers⟩ := Disk.rename_sound hsound hrename hcontent
  rw [hcwd] at hlocate hfiled hcwd' hothers
  rw [siteOf_temp] at hothers
  refine ⟨hsound', hcwd', ?_, hfiled, ?_⟩
  · obtain ⟨hne, hzero, hlen, hwalk⟩ := Disk.locate_eq_ok hlocate
    rw [hcwd] at hwalk
    rw [Disk.locate_eq_walk hne hzero hlen, hcwd']
    exact Disk.walk_mono hdirs' hwalk
  · intro other hother
    have hmoved := hothers (s.site d.cwd other) (fun heq => hother (site_inj heq)) (s.temp_apart d.cwd n other)
    rw [hmoved, node?_prepared hd hdirs hwrite]

/-- The directory that the records' directory is in. -/
theorem splitLast_recordDir (s : Store) : ∃ dir, Disk.splitLast s.recordDir = (dir, bytes "graphs") ∧
    ∀ d : Disk, ∀ home, 0 ∉ s.recordDir → s.recordDir.length < 4096 →
      d.walk (Disk.start d.cwd s.recordDir) (Path.parts s.recordDir) = .ok home →
        ∃ place, home = place ++ [bytes "graphs"] ∧ d.node? place = some .dir ∧
          d.stat dir = .ok (place, .dir) := by
  obtain ⟨rooted, names, hdirect, hdir, -⟩ := s.recordDir_spelled
  have hgraphs := hdirect.concat graphs_plain
  have hparts : Path.parts s.recordDir = names ++ [bytes "graphs"] := by
    rw [hdir, Path.parts_spelled hgraphs]
  have hstart : ∀ cwd, Disk.start cwd s.recordDir = if rooted then [] else cwd := by
    intro cwd
    rw [Disk.start, hdir, Path.isAbsolute_spelled hgraphs (by simp)]
  have hlast : ∀ d : Disk, ∀ home, d.walk (Disk.start d.cwd s.recordDir) (Path.parts s.recordDir) = .ok home →
      ∃ place, home = place ++ [bytes "graphs"] ∧ d.node? place = some .dir ∧
        d.walk (if rooted then [] else d.cwd) names = .ok place := by
    intro d home hwalk
    rw [hparts, hstart, Disk.walk_append] at hwalk
    obtain ⟨place, hfront, hlast⟩ := bind_eq_ok.mp hwalk
    obtain ⟨hplace, p, hturn, hend⟩ := Disk.walk_cons_eq_ok.mp hlast
    cases hend
    cases hturn
    exact ⟨place, rfl, hplace, hfront⟩
  by_cases hnames : names = []
  · subst hnames
    cases rooted with
    | true =>
        refine ⟨bytes "/", by rw [hdir]; decide, ?_⟩
        intro d home _ _ hwalk
        obtain ⟨place, hhome, hplace, hfront⟩ := hlast d home hwalk
        cases hfront
        exact ⟨[], hhome, rfl, rfl⟩
    | false =>
        refine ⟨bytes ".", by rw [hdir]; decide, ?_⟩
        intro d home _ _ hwalk
        obtain ⟨place, hhome, hplace, hfront⟩ := hlast d home hwalk
        cases hfront
        change d.node? d.cwd = some .dir at hplace
        have hlocate : d.locate (bytes ".") = .ok d.cwd := by
          rw [Disk.locate_eq_walk (by decide) (by decide) (by decide)]
          exact Disk.walk_cons_eq_ok.mpr ⟨hplace, d.cwd, rfl, rfl⟩
        refine ⟨d.cwd, hhome, hplace, ?_⟩
        rw [Disk.stat_of_locate hlocate, hplace]
  · rw [Path.spelled_concat hnames] at hdir
    refine ⟨Path.spelled rooted names, ?_, ?_⟩
    · rw [hdir, Disk.splitLast_spelled hdirect hnames graphs_plain]
    · intro d home hzero hlen hwalk
      obtain ⟨place, hhome, hplace, hfront⟩ := hlast d home hwalk
      have hlocate : d.locate (Path.spelled rooted names) = .ok place := by
        rw [hdir] at hzero hlen
        rw [Disk.locate_eq_walk (Path.spelled_ne_nil hdirect hnames) (fun h => hzero (List.mem_append_left _ h))
          (by rw [List.length_append] at hlen; omega), Disk.start, Path.isAbsolute_spelled hdirect hnames,
          Path.parts_spelled hdirect]
        exact hfront
      refine ⟨place, hhome, hplace, ?_⟩
      rw [Disk.stat_of_locate hlocate, hplace]

/-- Clearing takes the directory of the records away, with all below it. -/
theorem clear_eq (hzero : 0 ∉ s.recordDir) (hlen : s.recordDir.length < 4096) {home : List Bytes}
    (hwalk : d.walk (Disk.start d.cwd s.recordDir) (Path.parts s.recordDir) = .ok home)
    (hdir : d.node? home = some .dir) : s.clear d = (none, d.dropTree home) := by
  have hlocate : d.locate s.recordDir = .ok home := by
    rw [Disk.locate_eq_walk s.recordDir_ne_nil hzero hlen, hwalk]
  have hstat : d.stat s.recordDir = .ok (home, .dir) := by
    rw [Disk.stat_of_locate hlocate, hdir]
  obtain ⟨dir, hsplit, hparent⟩ := s.splitLast_recordDir
  obtain ⟨place, hhome, hplace, hstat'⟩ := hparent d home hzero hlen hwalk
  have hone : d.removeOne? s.recordDir =
      if d.hasBelow home = true then none else some (d.dropTree home) := by
    unfold Disk.removeOne?
    rw [hstat]
    dsimp only
    rw [hsplit]
    have hhere : bytes "graphs" ≠ bytes "." := by decide
    have hup : bytes "graphs" ≠ bytes ".." := by decide
    simp [hhere, hup]
  unfold clear Disk.removeAll
  rw [if_neg (by simpa using s.recordDir_ne_nil), endsWithDot_recordDir, if_neg Bool.false_ne_true, hone]
  cases d.hasBelow home with
  | false => rfl
  | true =>
      have hin : d.removeIn place (bytes "graphs") = (none, d.dropTree home) := by
        unfold Disk.removeIn
        rw [if_neg (by decide), hplace, hhome]
        rfl
      simp only [if_true, hsplit, hstat', hin]
      rfl

end Effects

end Store

end FlowBlocks
