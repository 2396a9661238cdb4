import FlowBlocks.Proofs.Store.Effects
/-!
What filing a record spares. Whether it succeeds or fails, directories stay, and so does every file but the
record under the key and the file that is written beside the records on the way there.
-/
namespace FlowBlocks

namespace Disk

/-- A tree has lost nothing but files at some places. -/
structure Keeps (may : List Bytes → Prop) (d d' : Disk) : Prop where
  cwd : d'.cwd = d.cwd
  sound : d'.Sound
  dirs : ∀ q, d.node? q = some .dir → d'.node? q = some .dir
  files : ∀ q c, ¬may q → d.node? q = some (.file c) → d'.node? q = some (.file c)

section Keeps

variable {may may' : List Bytes → Prop} {d d₁ d₂ : Disk} {path content : Bytes}

theorem Keeps.refl (hd : d.Sound) : Keeps may d d := ⟨rfl, hd, fun _ hq => hq, fun _ _ _ hq => hq⟩

theorem Keeps.trans (h : Keeps may d d₁) (h' : Keeps may d₁ d₂) : Keeps may d d₂ :=
  ⟨h'.cwd.trans h.cwd, h'.sound, fun q hq => h'.dirs q (h.dirs q hq),
    fun q c hmay hq => h'.files q c hmay (h.files q c hmay hq)⟩

theorem Keeps.mono (h : Keeps may d d₁) (hmay : ∀ q, may q → may' q) : Keeps may' d d₁ :=
  ⟨h.cwd, h.sound, h.dirs, fun q c hq => h.files q c fun hlost => hq (hmay q hlost)⟩

theorem Grown.keeps {root names : List Bytes} (h : Grown root names d d₁) : Keeps may d d₁ := by
  have hkept : ∀ q n, d.node? q = some n → d₁.node? q = some n := by
    intro q n hq
    rcases h.nodes q with hsame | ⟨hnone, -⟩
    · rw [hsame, hq]
    · rw [hq] at hnone
      cases hnone
  exact ⟨h.cwd, h.sound, fun q => hkept q .dir, fun q c _ => hkept q (.file c)⟩

theorem write_keeps (hd : d.Sound) (h : d.write path content = .ok d₁) :
    Keeps (· = siteOf d.cwd path) d d₁ := by
  obtain ⟨hsound, -, hsame⟩ := write_sound hd h
  refine ⟨(write_eq h).1.cwd, hsound, fun q => write_dirs hd h, fun q c hq hfile => ?_⟩
  rw [hsame q hq, hfile]

theorem writeTemp_keeps {dir stem temp : Bytes} (hd : d.Sound) (h : d.writeTemp dir stem content = .ok (temp, d₁)) :
    Keeps (· = siteOf d.cwd temp) d d₁ := by
  obtain ⟨e, hwrite, hret⟩ := bind_eq_ok.mp h
  obtain ⟨rfl, rfl⟩ := Prod.mk.inj (Except.ok.inj hret)
  exact write_keeps hd hwrite

/-- A file stands below no other file. -/
theorem Sound.file_apart {q q' : List Bytes} {c c' : Bytes} (hd : d.Sound) (hq : d.node? q = some (.file c))
    (hq' : d.node? q' = some (.file c')) (hne : q' ≠ q) : ¬q <+: q' := by
  intro hprefix
  have hdir := hd.dir_of_prefix (by rw [hq']; nofun) hprefix hne.symm
  rw [hq] at hdir
  cases hdir

theorem rename_keeps {old new : Bytes} (hd : d.Sound) (h : d.rename old new = .ok d₁)
    (hold : d.node? (siteOf d.cwd old) = some (.file content)) :
    Keeps (fun q => q = siteOf d.cwd old ∨ q = siteOf d.cwd new) d d₁ := by
  obtain ⟨hsound, hcwd, -, hdirs, hothers⟩ := rename_sound hd h hold
  refine ⟨hcwd, hsound, hdirs, fun q c hq hfile => ?_⟩
  obtain ⟨hne, hne'⟩ := not_or.mp hq
  rw [hothers q hne' (hd.file_apart hold hfile hne), hfile]

theorem removeFile_keeps (hd : d.Sound) (path : Bytes) : Keeps (· = siteOf d.cwd path) d (d.removeFile path) := by
  unfold removeFile
  split
  · next place c hstat =>
      obtain ⟨rfl, hplace⟩ := stat_eq hstat
      refine ⟨rfl, hd.dropTree _, fun q hq => ?_, fun q c' hne hfile => ?_⟩
      · rw [node?_dropTree_other (hd.not_prefix_file hplace hq), hq]
      · rw [node?_dropTree_other (hd.file_apart hplace hfile hne), hfile]
  · exact .refl hd

/-- A file that is kept is found where it was. -/
theorem Keeps.stat {place : List Bytes} (h : Keeps may d d₁) (hstat : d.stat path = .ok (place, .file content))
    (hplace : ¬may place) : d₁.stat path = .ok (place, .file content) := by
  obtain ⟨found, hlocate, hnode⟩ := bind_eq_ok.mp hstat
  obtain ⟨rfl, hfile⟩ := stat_eq hstat
  obtain rfl := locate_eq hlocate
  have hlocate' : d₁.locate path = .ok (siteOf d.cwd path) := by
    obtain ⟨hne, hzero, hlen, hwalk⟩ := locate_eq_ok hlocate
    rw [locate_eq_walk hne hzero hlen, h.cwd]
    exact walk_mono h.dirs hwalk
  rw [stat_of_locate hlocate', h.files _ _ hplace hfile]
  rw [hfile] at hnode
  exact hnode

theorem Keeps.read (h : Keeps may d d₁) (hread : d.read path = .ok content) (hpath : ¬may (siteOf d.cwd path)) :
    d₁.read path = .ok content := by
  unfold Disk.read at hread ⊢
  split at hread
  · cases hread
  · cases hread
  · next place c hstat =>
      cases hread
      obtain ⟨rfl, -⟩ := stat_eq hstat
      rw [h.stat hstat hpath]

end Keeps

end Disk

namespace Store

/-- The places beside the records at which files are written before they are moved. -/
def Beside (s : Store) (cwd : List Bytes) (q : List Bytes) : Prop :=
  ∃ n, q = Disk.siteOf cwd s.recordDir ++ [bytes "tmp-" ++ decimal n]

variable {s : Store} {now : Int64} {key : Bytes} {r : Record} {d d₁ : Disk}

theorem Beside.ne_site {cwd q : List Bytes} (h : s.Beside cwd q) (key : Bytes) : q ≠ s.site cwd key := by
  obtain ⟨n, rfl⟩ := h
  intro heq
  exact s.temp_apart cwd n key (heq ▸ List.prefix_refl _)

theorem put_keeps (s : Store) (now : Int64) (key : Bytes) (r : Record) (hd : d.Sound) :
    Disk.Keeps (fun q => s.Beside d.cwd q ∨ (s.put now key r d).error = none ∧ q = s.site d.cwd key) d
      (s.put now key r d).disk := by
  unfold put
  dsimp only
  rw [directory_placeOf]
  cases hdirs : d.makeDirs s.recordDir with
  | error e => exact .refl hd
  | ok d₁ =>
      have hgrown := Disk.makeDirsWithin_grown hd hdirs
      dsimp only
      cases htemp : d₁.writeTemp s.recordDir (bytes "tmp-") (r.stamped now).encode with
      | error e => exact hgrown.keeps
      | ok made =>
          obtain ⟨temp, d₂⟩ := made
          obtain ⟨⟨n, htempPath⟩, -, hcontent⟩ := Disk.writeTemp_eq htemp
          have hwritten := Disk.writeTemp_keeps hgrown.sound htemp
          have hbeside : s.Beside d.cwd (Disk.siteOf d₁.cwd temp) := ⟨n, by rw [hgrown.cwd, htempPath, siteOf_temp]⟩
          have hcwd := hwritten.cwd
          rw [← hcwd] at hcontent hbeside hwritten
          dsimp only
          cases hrename : d₂.rename temp (s.placeOf key) with
          | error e =>
              refine hgrown.keeps.trans ((hwritten.trans (Disk.removeFile_keeps hwritten.sound temp)).mono ?_)
              rintro q rfl
              exact Or.inl hbeside
          | ok d₃ =>
              have hmoved := Disk.rename_keeps hwritten.sound hrename hcontent
              refine hgrown.keeps.trans (((hwritten.mono fun _ => Or.inl).trans hmoved).mono ?_)
              rintro q (rfl | rfl)
              · exact Or.inl hbeside
              · rw [hcwd, hgrown.cwd]
                exact Or.inr ⟨rfl, rfl⟩

/-- A record that is kept is looked up as before. -/
theorem get_kept {may : List Bytes → Prop} (h : Disk.Keeps may d d₁) (hget : s.get key d = .ok (some r))
    (hsite : ¬may (s.site d.cwd key)) : s.get key d₁ = .ok (some r) := by
  unfold get at hget ⊢
  dsimp only at hget ⊢
  split at hget
  · cases hget
  · cases hget
  · cases hget
  · next place content hstat =>
      obtain ⟨rfl, -⟩ := Disk.stat_eq hstat
      rw [h.stat hstat hsite]
      exact hget

end Store

end FlowBlocks
