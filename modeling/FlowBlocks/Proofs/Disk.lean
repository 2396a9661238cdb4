import Mathlib.Data.List.Basic
import FlowBlocks.Disk
import FlowBlocks.Proofs.Collect
/-!
What operations on a disk add to it. A path can name only one place, which its text and the working
directory decide (`siteOf`). `Gains S d d'` says that the files of `d'` are files of `d` or among those
that `S` allows, and every operation is described by what it can gain.
-/
namespace FlowBlocks.Disk

/-- Where names lead from a place, by their text alone. -/
def follow (place : List Bytes) : List Bytes → List Bytes
  | [] => place
  | name :: rest =>
    if name = bytes "." then follow place rest
    else if name = bytes ".." then follow place.dropLast rest
    else follow (place ++ [name]) rest

/-- The only place that a path can name. -/
def siteOf (cwd : List Bytes) (path : Bytes) : List Bytes :=
  follow (if Path.isAbsolute path then [] else cwd) (Path.parts path)

theorem walk_eq {d : Disk} {place target : List Bytes} {names : List Bytes}
    (h : d.walk place names = .ok target) : target = follow place names := by
  induction names generalizing place with
  | nil => exact (Except.ok.inj h).symm
  | cons name rest ih =>
      unfold walk at h
      unfold follow
      split at h
      · cases h
      · cases h
      · split at h
        · next hdot => rw [if_pos hdot]; exact ih h
        · next hdot =>
            rw [if_neg hdot]
            split at h
            · next hup => rw [if_pos hup]; exact ih h
            · next hup =>
                rw [if_neg hup]
                split at h
                · cases h
                · exact ih h

theorem locate_eq {d : Disk} {path : Bytes} {place : List Bytes} (h : d.locate path = .ok place) :
    place = siteOf d.cwd path := by
  unfold locate at h
  split at h
  · cases h
  · split at h
    · cases h
    · split at h
      · cases h
      · exact walk_eq h

/-- A place that is found has the node that stands there. -/
theorem stat_eq {d : Disk} {path : Bytes} {place : List Bytes} {n : Node} (h : d.stat path = .ok (place, n)) :
    place = siteOf d.cwd path ∧ d.node? place = some n := by
  obtain ⟨found, hloc, hnode⟩ := bind_eq_ok.mp h
  have hsite := locate_eq hloc
  split at hnode
  · cases hnode
  · next hn =>
      cases hnode
      exact ⟨hsite, hn⟩
  · next hn =>
      split at hnode
      · cases hnode
      · cases hnode
        exact ⟨hsite, hn⟩

section Nodes

variable (d : Disk) (place other : List Bytes) (n : Node)

theorem entries_put :
    (d.put place n).entries = d.entries.filter (fun e => e.1 != place) ++ [(place, n)] := rfl

theorem entries_dropTree :
    (d.dropTree place).entries = d.entries.filter fun e => !place.isPrefixOf e.1 := rfl

theorem node?_eq (h : place ≠ []) :
    d.node? place = (d.entries.find? fun e => e.1 == place).map Prod.snd := by
  rw [node?, if_neg (by simpa using h)]

theorem node?_put_self (h : place ≠ []) : (d.put place n).node? place = some n := by
  have hnone : (d.entries.filter fun e => e.1 != place).find? (fun e => e.1 == place) = none := by
    refine List.find?_eq_none.mpr fun e he heq => ?_
    have hne := (List.mem_filter.mp he).2
    simp only [bne_iff_ne, beq_iff_eq] at hne heq
    exact hne heq
  rw [node?_eq _ _ h, entries_put, List.find?_append, hnone]
  simp

theorem node?_put_other (h : other ≠ place) : (d.put place n).node? other = d.node? other := by
  by_cases hroot : other = []
  · subst hroot
    rfl
  have hkept : (d.entries.filter fun e => e.1 != place).find? (fun e => e.1 == other) =
      d.entries.find? fun e => e.1 == other := by
    rw [List.find?_filter]
    congr 1
    funext e
    by_cases he : e.1 = other
    · simp [he, h]
    · simp [he]
  have hlast : [(place, n)].find? (fun e => e.1 == other) = none := by
    simp [Ne.symm h]
  rw [node?_eq _ _ hroot, node?_eq _ _ hroot, entries_put, List.find?_append, hkept, hlast, Option.or_none]

theorem mem_entries {content : Bytes} (h : d.node? place = some (.file content)) :
    (place, .file content) ∈ d.entries := by
  by_cases hroot : place = []
  · subst hroot
    cases h
  rw [node?_eq _ _ hroot] at h
  obtain ⟨e, he, hnode⟩ := Option.map_eq_some_iff.mp h
  have hplace : e.1 = place := by simpa using List.find?_some he
  rw [← hplace, ← hnode]
  exact List.mem_of_find?_eq_some he

theorem node?_dropTree {m : Node} (h : (d.dropTree place).node? other = some m) (hne : other ≠ []) :
    d.node? other = some m := by
  rw [node?_eq _ _ hne, entries_dropTree] at h
  rw [node?_eq _ _ hne]
  obtain ⟨e, he, rfl⟩ := Option.map_eq_some_iff.mp h
  rw [List.find?_filter] at he
  have hfirst : d.entries.find? (fun e => e.1 == other) = some e := by
    have hcond := List.find?_some he
    simp only [decide_eq_true_eq, beq_iff_eq, Bool.not_eq_true'] at hcond
    obtain ⟨hdrop, heq⟩ := hcond
    rw [← he]
    congr 1
    funext x
    by_cases hx : x.1 = other
    · rw [heq] at hdrop
      simp [hx, hdrop]
    · simp [hx]
  rw [hfirst]
  rfl

end Nodes

/-- The files of `d'` are files of `d`, or `allowed` where they stand and with what they hold. -/
structure Gains (allowed : List Bytes → Bytes → Prop) (d d' : Disk) : Prop where
  cwd : d'.cwd = d.cwd
  files : ∀ place content, d'.node? place = some (.file content) →
    d.node? place = some (.file content) ∨ allowed place content

section Gains

variable {S T : List Bytes → Bytes → Prop} {d d₁ d₂ : Disk}

theorem Gains.refl (d : Disk) : Gains S d d := ⟨rfl, fun _ _ => Or.inl⟩

theorem Gains.trans (h : Gains S d d₁) (h' : Gains S d₁ d₂) : Gains S d d₂ := by
  refine ⟨h'.cwd.trans h.cwd, fun place content hfile => ?_⟩
  rcases h'.files place content hfile with hold | hnew
  · exact h.files place content hold
  · exact Or.inr hnew

theorem Gains.mono (h : Gains S d d₁) (hST : ∀ place content, S place content → T place content) :
    Gains T d d₁ :=
  ⟨h.cwd, fun place content hfile => (h.files place content hfile).imp_right (hST place content)⟩

theorem gains_put_dir (d : Disk) (place : List Bytes) : Gains S d (d.put place .dir) := by
  refine ⟨rfl, fun other content hfile => Or.inl ?_⟩
  by_cases hroot : other = []
  · subst hroot
    cases hfile
  by_cases heq : other = place
  · subst heq
    rw [node?_put_self _ _ _ hroot] at hfile
    cases hfile
  · rwa [node?_put_other _ _ _ _ heq] at hfile

theorem gains_put_file (d : Disk) {place : List Bytes} {content : Bytes} (h : S place content) :
    Gains S d (d.put place (.file content)) := by
  refine ⟨rfl, fun other found hfile => ?_⟩
  by_cases hroot : other = []
  · subst hroot
    cases hfile
  by_cases heq : other = place
  · subst heq
    rw [node?_put_self _ _ _ hroot] at hfile
    cases hfile
    exact Or.inr h
  · rw [node?_put_other _ _ _ _ heq] at hfile
    exact Or.inl hfile

theorem gains_dropTree (d : Disk) (place : List Bytes) : Gains S d (d.dropTree place) := by
  refine ⟨rfl, fun other content hfile => Or.inl ?_⟩
  by_cases hroot : other = []
  · subst hroot
    cases hfile
  · exact node?_dropTree d place other hfile hroot

end Gains

section Operations

variable {S : List Bytes → Bytes → Prop} {d d' : Disk} {path : Bytes}

theorem during_eq_ok {α : Type} {action : String} {r : Except DiskCause α} {a : α}
    (h : during action path r = .ok a) : r = .ok a := by
  cases r with
  | error e => cases h
  | ok b => exact congrArg Except.ok (Except.ok.inj h)

theorem makeDir_gains (h : d.makeDir path = .ok d') : Gains S d d' := by
  obtain ⟨place, -, hput⟩ := bind_eq_ok.mp (during_eq_ok h)
  split at hput
  · cases hput
  · split at hput
    · cases hput
      exact gains_put_dir d place
    · cases hput

theorem makeDirsWithin_gains {n : Nat} (h : makeDirsWithin n d path = .ok d') : Gains S d d' := by
  induction n generalizing d d' path with
  | zero => exact makeDir_gains h
  | succ n ih =>
      unfold makeDirsWithin at h
      split at h
      · cases h
        exact .refl d
      · cases h
      · have hway : ∀ last : Disk → Except DiskError Disk, (∀ e, last e = .ok d' → Gains S e d') →
            (if (parentPath path).isEmpty then Except.ok d >>= last
              else makeDirsWithin n d (parentPath path) >>= last) = .ok d' → Gains S d d' := by
          intro last hlast h
          split at h
          · exact hlast d h
          · obtain ⟨e, hparent, h⟩ := bind_eq_ok.mp h
            exact (ih hparent).trans (hlast e h)
        refine hway _ (fun e hlast => ?_) h
        dsimp only at hlast
        split at hlast
        · next hmake =>
            cases hlast
            exact makeDir_gains hmake
        · split at hlast
          · cases hlast
            exact .refl _
          · cases hlast

theorem makeDirs_gains (h : d.makeDirs path = .ok d') : Gains S d d' := makeDirsWithin_gains h

/-- A file that is created stands empty where its path says. -/
theorem create_eq {place : List Bytes} (h : d.create path = .ok (place, d')) :
    place = siteOf d.cwd path ∧ place ≠ [] ∧ d' = d.put place (.file []) := by
  obtain ⟨found, hloc, hput⟩ := bind_eq_ok.mp (during_eq_ok h)
  have hsite := locate_eq hloc
  have hroot : d.node? found ≠ some .dir → found ≠ [] := by
    rintro hn rfl
    exact hn rfl
  split at hput
  · cases hput
  · next hn =>
      split at hput
      · cases hput
      · cases hput
        exact ⟨hsite, hroot (by rw [hn]; nofun), rfl⟩
  · next hn =>
      split at hput
      · cases hput
      · split at hput
        · cases hput
          exact ⟨hsite, hroot (by rw [hn]; nofun), rfl⟩
        · cases hput

theorem write_eq {content : Bytes} (h : d.write path content = .ok d') :
    Gains (fun place _ => place = siteOf d.cwd path) d d' ∧
      d'.node? (siteOf d.cwd path) = some (.file content) := by
  obtain ⟨⟨place, e⟩, hcreate, hput⟩ := bind_eq_ok.mp h
  obtain ⟨hsite, hroot, rfl⟩ := create_eq hcreate
  cases hput
  refine ⟨?_, ?_⟩
  · exact (gains_put_file d hsite).trans (gains_put_file _ hsite)
  · rw [← hsite]
    exact node?_put_self _ _ _ hroot

theorem writeAt_gains (d : Disk) {place : List Bytes} (h : ∀ content, S place content) (offset : Nat)
    (data : Bytes) : Gains S d (d.writeAt place offset data) := by
  unfold writeAt
  split
  · exact gains_put_file d (h _)
  · exact .refl d

/-- A temporary file is a new name in its directory. -/
theorem writeTemp_eq {dir stem content temp : Bytes} (h : d.writeTemp dir stem content = .ok (temp, d')) :
    (∃ n, temp = inside dir (stem ++ decimal n)) ∧
      Gains (fun place _ => place = siteOf d.cwd temp) d d' ∧
      d'.node? (siteOf d.cwd temp) = some (.file content) := by
  obtain ⟨e, hwrite, hret⟩ := bind_eq_ok.mp h
  cases hret
  exact ⟨⟨_, rfl⟩, write_eq hwrite⟩

/-- A file that is moved stands, as it was, where its new path says. -/
theorem rename_gains {old new : Bytes} {content : Bytes} (h : d.rename old new = .ok d')
    (hold : d.node? (siteOf d.cwd old) = some (.file content)) :
    Gains (fun place found => place = siteOf d.cwd new ∧ found = content) d d' := by
  have hmove := during_eq_ok h
  split at hmove
  · cases hmove
  · obtain ⟨⟨source, n⟩, hsource, hmove⟩ := bind_eq_ok.mp hmove
    obtain ⟨target, htarget, hmove⟩ := bind_eq_ok.mp hmove
    obtain ⟨hplace, hnode⟩ := stat_eq hsource
    rw [hplace, hold] at hnode
    cases hnode
    split at hmove
    · cases hmove
    · split at hmove
      · cases hmove
      · cases hmove
        exact (gains_dropTree d source).trans (gains_put_file _ ⟨locate_eq htarget, rfl⟩)

theorem removeFile_gains (d : Disk) (path : Bytes) : Gains S d (d.removeFile path) := by
  unfold removeFile
  split
  · exact gains_dropTree d _
  · exact .refl d

end Operations

end FlowBlocks.Disk
