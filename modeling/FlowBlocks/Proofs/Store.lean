import FlowBlocks.Proofs.Bytes
import FlowBlocks.Proofs.Disk
import FlowBlocks.Store
/-!
The files of a store. A key has one site, no two keys share theirs, and temporary files stand elsewhere.
So filing a record changes what is found under its own key only.
-/
namespace FlowBlocks

section Paths

theorem Path.parts_append (s t : Bytes) : parts (s ++ slash :: t) = parts s ++ parts t := by
  rw [parts, splitOn_append, List.filter_append]
  rfl

/-- A name that a path keeps as its last part: no slash in it, and neither empty nor made of dots. -/
structure Path.Plain (name : Bytes) : Prop where
  ne_nil : name ≠ []
  no_slash : slash ∉ name
  ne_here : name ≠ bytes "."
  ne_up : name ≠ bytes ".."

theorem Path.plain_of_length {name : Bytes} (hlen : 3 ≤ name.length) (hslash : slash ∉ name) :
    Plain name := by
  refine ⟨?_, hslash, ?_, ?_⟩ <;> rintro rfl <;> exact absurd hlen (by decide)

theorem Path.Plain.parts_eq {name : Bytes} (h : Plain name) : parts name = [name] := by
  rw [parts, splitOn_eq_singleton h.no_slash]
  simp [h.ne_nil]

theorem Path.Plain.cleanStep_eq {name : Bytes} (h : Plain name) (rooted : Bool) (done : List Bytes) :
    cleanStep rooted done name = name :: done := by
  unfold cleanStep
  rw [if_neg h.ne_here, if_neg h.ne_up]

theorem join_concat {sep : Bytes} {xs : List Bytes} (h : xs ≠ []) (x : Bytes) :
    Bytes.join sep (xs ++ [x]) = Bytes.join sep xs ++ sep ++ x := by
  induction xs with
  | nil => exact absurd rfl h
  | cons y ys ih =>
      cases ys with
      | nil => simp [Bytes.join]
      | cons z zs =>
          have hrest := ih (List.cons_ne_nil z zs)
          simp only [Bytes.join, List.cons_append, List.intersperse_cons_cons, List.flatten_cons,
            List.append_assoc] at hrest ⊢
          rw [hrest]

/-- Cleaning keeps a plain last part. -/
theorem Path.parts_clean {name : Bytes} (h : Plain name) (s : Bytes) :
    ∃ before, parts (clean (s ++ slash :: name)) = before ++ [name] := by
  have hfold : ((parts (s ++ slash :: name)).foldl (cleanStep (isAbsolute (s ++ slash :: name))) []).reverse =
      ((parts s).foldl (cleanStep (isAbsolute (s ++ slash :: name))) []).reverse ++ [name] := by
    rw [parts_append, h.parts_eq, List.foldl_append, List.foldl_cons, List.foldl_nil,
      h.cleanStep_eq, List.reverse_cons]
  rw [clean, hfold]
  generalize ((parts s).foldl (cleanStep (isAbsolute (s ++ slash :: name))) []).reverse = done
  obtain ⟨before, hbody⟩ : ∃ before, parts (Bytes.join [slash] (done ++ [name])) = before ++ [name] := by
    by_cases hdone : done = []
    · refine ⟨[], ?_⟩
      rw [hdone, List.nil_append]
      simpa [Bytes.join] using h.parts_eq
    · refine ⟨parts (Bytes.join [slash] done), ?_⟩
      rw [join_concat hdone, List.append_assoc, List.singleton_append, parts_append, h.parts_eq]
  have hslash : parts (slash :: Bytes.join [slash] (done ++ [name])) = before ++ [name] := by
    rw [← hbody]
    exact parts_append [] _
  have hne : Bytes.join [slash] (done ++ [name]) ≠ [] := by
    intro hnil
    rw [hnil] at hbody
    exact absurd hbody.symm (List.append_ne_nil_of_right_ne_nil _ (List.cons_ne_nil _ _))
  refine ⟨before, ?_⟩
  split
  · exact hslash
  · rw [if_neg (by simpa using hne)]
    exact hbody

theorem Disk.follow_concat {name : Bytes} (h : Path.Plain name) (place : List Bytes) (names : List Bytes) :
    follow place (names ++ [name]) = follow place names ++ [name] := by
  induction names generalizing place with
  | nil => simp only [List.nil_append, follow, if_neg h.ne_here, if_neg h.ne_up]
  | cons n names ih =>
      simp only [List.cons_append, follow, ih]
      split
      · rfl
      · split <;> rfl

/-- Where a path ends in a plain name, so does its site. -/
theorem Disk.siteOf_getLast? {name path : Bytes} {before : List Bytes} (h : Path.Plain name)
    (hparts : Path.parts path = before ++ [name]) (cwd : List Bytes) :
    (siteOf cwd path).getLast? = some name := by
  rw [siteOf, hparts, follow_concat h, List.getLast?_concat]

end Paths

section Names

theorem hexDigit_plain : ∀ n < 16, byte (Nat.digitChar n) ≠ Path.slash ∧ byte (Nat.digitChar n) ≠ byte 't' := by
  decide

theorem hexDigit_inj : ∀ m < 16, ∀ n < 16, byte (Nat.digitChar m) = byte (Nat.digitChar n) → m = n := by
  decide

theorem mem_hexByte {b c : UInt8} (h : c ∈ hexByte b) : ∃ n < 16, c = byte (Nat.digitChar n) := by
  have hb := b.toNat_lt
  simp only [hexByte, List.map_cons, List.map_nil, List.mem_cons, List.not_mem_nil, or_false] at h
  rcases h with rfl | rfl
  · exact ⟨b.toNat / 16, by omega, rfl⟩
  · exact ⟨b.toNat % 16, by omega, rfl⟩

theorem hexByte_inj {a b : UInt8} (h : hexByte a = hexByte b) : a = b := by
  have ha := a.toNat_lt
  have hb := b.toNat_lt
  simp only [hexByte, List.map_cons, List.map_nil, List.cons.injEq, and_true] at h
  have hhigh := hexDigit_inj _ (by omega) _ (by omega) h.1
  have hlow := hexDigit_inj _ (by omega) _ (by omega) h.2
  exact UInt8.toNat_inj.mp (by omega)

theorem Store.keyName_inj {k l : Bytes} (h : keyName k = keyName l) : k = l := by
  induction k generalizing l with
  | nil =>
      cases l with
      | nil => rfl
      | cons b l => simp [keyName, hexByte] at h
  | cons a k ih =>
      cases l with
      | nil => simp [keyName, hexByte] at h
      | cons b l =>
          rw [keyName, keyName, List.flatMap_cons, List.flatMap_cons] at h
          obtain ⟨hhead, htail⟩ := List.append_inj h rfl
          rw [hexByte_inj hhead, ih htail]

theorem Store.entryName_plain (key : Bytes) : Path.Plain (keyName key ++ bytes ".mp") := by
  refine Path.plain_of_length ?_ fun h => ?_
  · rw [List.length_append]
    exact Nat.le_add_left 3 _
  · rcases List.mem_append.mp h with h | h
    · obtain ⟨b, -, hb⟩ := List.mem_flatMap.mp h
      obtain ⟨n, hn, he⟩ := mem_hexByte hb
      exact (hexDigit_plain n hn).1 he.symm
    · exact absurd h (by decide)

theorem slash_not_mem_decimal (n : Nat) : Path.slash ∉ decimal n := by
  intro h
  obtain ⟨c, hc, he⟩ := List.mem_map.mp h
  have hdigit := Nat.isDigit_of_mem_toDigits (by decide) (by decide) hc
  rw [Char.isDigit, Bool.and_eq_true, decide_eq_true_eq, decide_eq_true_eq] at hdigit
  have hlow : 48 ≤ c.toNat := hdigit.1
  have hhigh : c.toNat ≤ 57 := hdigit.2
  have hcode : c.toNat.toUInt8.toNat = 47 := congrArg UInt8.toNat he
  have hsmall : c.toNat.toUInt8.toNat = c.toNat := UInt8.toNat_ofNat_of_lt (by omega : c.toNat < 256)
  omega

theorem Store.tempName_plain (n : Nat) : Path.Plain (bytes "tmp-" ++ decimal n) := by
  refine Path.plain_of_length ?_ fun h => ?_
  · rw [List.length_append]
    exact Nat.le_trans (by decide) (Nat.le_add_right 4 _)
  · rcases List.mem_append.mp h with h | h
    · exact absurd h (by decide)
    · exact slash_not_mem_decimal n h

theorem Store.tempName_ne_entryName (n : Nat) (key : Bytes) :
    bytes "tmp-" ++ decimal n ≠ keyName key ++ bytes ".mp" := by
  intro h
  have hhead : (keyName key ++ bytes ".mp").head? = some (byte 't') := by
    rw [← h]
    rfl
  cases key with
  | nil => exact absurd hhead (by decide)
  | cons b key =>
      have hb := b.toNat_lt
      exact (hexDigit_plain (b.toNat / 16) (by omega)).2 (Option.some.inj hhead)

/-- Texts before a separator that they do not hold can be told apart. -/
theorem append_sep_inj {sep : UInt8} {a b s t : Bytes} (ha : sep ∉ a) (hb : sep ∉ b)
    (h : a ++ sep :: s = b ++ sep :: t) : a = b ∧ s = t := by
  induction a generalizing b with
  | nil =>
      cases b with
      | nil => exact ⟨rfl, (List.cons.inj h).2⟩
      | cons y b => exact absurd ((List.cons.inj h).1 ▸ List.mem_cons_self) hb
  | cons x a ih =>
      cases b with
      | nil => exact absurd ((List.cons.inj h).1 ▸ List.mem_cons_self) ha
      | cons y b =>
          obtain ⟨hxy, hrest⟩ := List.cons.inj h
          obtain ⟨hab, hst⟩ := ih (fun hm => ha (List.mem_cons_of_mem x hm))
            (fun hm => hb (List.mem_cons_of_mem y hm)) hrest
          exact ⟨by rw [hxy, hab], hst⟩

/-- What is hashed tells listing, graph and policy. -/
theorem Store.keySource_inj {src src' graph graph' policy policy' : Bytes} (hg : 0 ∉ graph)
    (hg' : 0 ∉ graph') (hp : 0 ∉ policy) (hp' : 0 ∉ policy')
    (h : keySource src graph policy = keySource src' graph' policy') :
    src = src' ∧ graph = graph' ∧ policy = policy' := by
  simp only [keySource, List.append_assoc, List.singleton_append] at h
  have htail := (List.cons.inj (List.append_cancel_left (List.append_cancel_left h))).2
  obtain ⟨hgraph, hrest⟩ := append_sep_inj hg hg' htail
  obtain ⟨hpolicy, hsrc⟩ := append_sep_inj hp hp' hrest
  exact ⟨hsrc, hgraph, hpolicy⟩

end Names

namespace Store

variable {s : Store} {cwd : List Bytes} {d d' : Disk} {key other : Bytes} {r : Record}

/-- Where the record of a key stands. -/
def site (s : Store) (cwd : List Bytes) (key : Bytes) : List Bytes := Disk.siteOf cwd (s.placeOf key)

theorem parts_placeOf (s : Store) (key : Bytes) :
    ∃ before, Path.parts (s.placeOf key) = before ++ [keyName key ++ bytes ".mp"] := by
  have hname := entryName_plain key
  have hgraphs : (bytes "graphs").isEmpty = false := rfl
  have hentry : (keyName key ++ bytes ".mp").isEmpty = false := by simpa using hname.ne_nil
  rw [placeOf, Path.join]
  by_cases hdir : s.dir = []
  · simp only [hdir, List.filter_cons, List.isEmpty_nil, hgraphs, hentry, Bool.not_true, Bool.not_false,
      if_true, List.filter_nil, Bool.false_eq_true, if_false]
    have hjoin : Bytes.join [Path.slash] [bytes "graphs", keyName key ++ bytes ".mp"] =
        bytes "graphs" ++ Path.slash :: (keyName key ++ bytes ".mp") := by simp [Bytes.join]
    rw [hjoin]
    exact Path.parts_clean hname _
  · have hne : s.dir.isEmpty = false := by simpa using hdir
    simp only [List.filter_cons, hne, hgraphs, hentry, Bool.not_false, if_true, List.filter_nil]
    have hjoin : Bytes.join [Path.slash] [s.dir, bytes "graphs", keyName key ++ bytes ".mp"] =
        (s.dir ++ Path.slash :: bytes "graphs") ++ Path.slash :: (keyName key ++ bytes ".mp") := by
      simp [Bytes.join]
    rw [hjoin]
    exact Path.parts_clean hname _

theorem site_getLast? (s : Store) (cwd : List Bytes) (key : Bytes) :
    (s.site cwd key).getLast? = some (keyName key ++ bytes ".mp") := by
  obtain ⟨before, h⟩ := s.parts_placeOf key
  exact Disk.siteOf_getLast? (entryName_plain key) h cwd

theorem site_inj (h : s.site cwd key = s.site cwd other) : key = other := by
  have hlast := congrArg List.getLast? h
  rw [site_getLast?, site_getLast?] at hlast
  exact keyName_inj (List.append_cancel_right (Option.some.inj hlast))

/-- A temporary file stands at no site of a record, whatever its directory. -/
theorem temp_not_site (dir : Bytes) (n : Nat) (key : Bytes) :
    Disk.siteOf cwd (Disk.inside dir (bytes "tmp-" ++ decimal n)) ≠ s.site cwd key := by
  have hname := tempName_plain n
  have hparts : ∃ before, Path.parts (Disk.inside dir (bytes "tmp-" ++ decimal n)) =
      before ++ [bytes "tmp-" ++ decimal n] := by
    unfold Disk.inside
    split
    · next hslash =>
        rw [Disk.wantsDirectory, beq_iff_eq] at hslash
        obtain ⟨front, rfl⟩ := List.getLast?_eq_some_iff.mp hslash
        rw [List.append_assoc, List.singleton_append, Path.parts_append, hname.parts_eq]
        exact ⟨_, rfl⟩
    · rw [List.append_assoc, List.singleton_append, Path.parts_append, hname.parts_eq]
      exact ⟨_, rfl⟩
  obtain ⟨before, hparts⟩ := hparts
  intro h
  have hlast := congrArg List.getLast? h
  rw [Disk.siteOf_getLast? hname hparts, site_getLast?] at hlast
  exact tempName_ne_entryName n key (Option.some.inj hlast)

/-- The files that filing a record may leave behind: the record under its key, and files that stand at no
site of a record. -/
def Files (s : Store) (cwd : List Bytes) (key content : Bytes) (place : List Bytes) (found : Bytes) : Prop :=
  (∀ other, place ≠ s.site cwd other) ∨ place = s.site cwd key ∧ found = content

theorem put_gains (s : Store) (now : Int64) (key : Bytes) (r : Record) (d : Disk) :
    Disk.Gains (s.Files d.cwd key (r.stamped now).encode) d (s.put now key r d).disk := by
  unfold put
  dsimp only
  split
  · exact .refl d
  · next d₁ hdirs =>
      have hfirst : Disk.Gains (s.Files d.cwd key (r.stamped now).encode) d d₁ := Disk.makeDirs_gains hdirs
      split
      · exact hfirst
      · next temp d₂ htemp =>
          obtain ⟨⟨n, hpath⟩, hgain, hcontent⟩ := Disk.writeTemp_eq htemp
          have hcwd := hfirst.cwd
          have hsecond : Disk.Gains (s.Files d.cwd key (r.stamped now).encode) d d₂ := by
            refine hfirst.trans (hgain.mono fun place _ hplace => Or.inl fun other => ?_)
            rw [hplace, hpath, hcwd]
            exact temp_not_site _ n other
          have hcwd₂ : d₂.cwd = d.cwd := hsecond.cwd
          split
          · exact hsecond.trans (Disk.removeFile_gains d₂ temp)
          · next d₃ hrename =>
              rw [hcwd, ← hcwd₂] at hcontent
              refine hsecond.trans ((Disk.rename_gains hrename hcontent).mono fun place found hmoved => ?_)
              rw [hcwd₂] at hmoved
              exact Or.inr hmoved

/-- A record that is found stands at the site of its key. -/
theorem get_eq_some (h : s.get key d = .ok (some r)) :
    ∃ content, d.node? (s.site d.cwd key) = some (.file content) ∧ Record.decode content = .ok r := by
  unfold get at h
  dsimp only at h
  split at h
  · cases h
  · cases h
  · cases h
  · next place content hstat =>
      obtain ⟨hplace, hnode⟩ := Disk.stat_eq hstat
      rw [hplace] at hnode
      refine ⟨content, hnode, ?_⟩
      split at h
      · next hdecode =>
          cases h
          exact hdecode
      · cases h
      · cases h

end Store

end FlowBlocks
