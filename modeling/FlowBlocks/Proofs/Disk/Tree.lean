import FlowBlocks.Proofs.Path
/-!
Disks that are trees, and what operations that succeed do to each place of one. Directories are made on the
way to a path only, a file is written or moved where its path says, and whatever was found before is found
again unless it was taken away.
-/
namespace FlowBlocks.Disk

/-- Whatever stands below a place makes it a directory. -/
def Sound (d : Disk) : Prop := ∀ place name, d.node? (place ++ [name]) ≠ none → d.node? place = some .dir

section Trees

variable {d : Disk} {place other : List Bytes} {n : Node}

theorem sound_of_entries (h : ∀ e ∈ d.entries, d.node? e.1.dropLast = some .dir) : d.Sound := by
  intro place name hne
  rw [node?_eq _ _ (by simp)] at hne
  obtain ⟨n, hn⟩ := Option.ne_none_iff_exists'.mp hne
  obtain ⟨e, he, -⟩ := Option.map_eq_some_iff.mp hn
  have hplace : e.1 = place ++ [name] := by simpa using List.find?_some he
  have hparent := h e (List.mem_of_find?_eq_some he)
  rwa [hplace, List.dropLast_concat] at hparent

theorem Sound.dir_of_prefix (hd : d.Sound) (hother : d.node? other ≠ none) (h : place <+: other)
    (hne : place ≠ other) : d.node? place = some .dir := by
  obtain ⟨rest, rfl⟩ := h
  induction rest generalizing place with
  | nil => exact absurd (List.append_nil place).symm hne
  | cons name rest ih =>
      rw [List.append_cons] at hother
      by_cases hrest : rest = []
      · subst hrest
        exact hd place name (by simpa using hother)
      · have hnext : d.node? (place ++ [name]) = some .dir := ih hother (by simpa using hrest)
        exact hd place name (by rw [hnext]; nofun)

theorem Sound.not_prefix_file {content : Bytes} (hd : d.Sound) (hplace : d.node? place = some (.file content))
    (hother : d.node? other = some .dir) : ¬place <+: other := by
  intro h
  by_cases hne : place = other
  · rw [hne, hother] at hplace
    cases hplace
  · have hdir := hd.dir_of_prefix (by rw [hother]; nofun) h hne
    rw [hplace] at hdir
    cases hdir

theorem Sound.dir_of_dropLast (hd : d.Sound) (h : d.node? place = some .dir) :
    d.node? place.dropLast = some .dir := by
  rcases List.eq_nil_or_concat place with rfl | ⟨front, name, rfl⟩
  · rfl
  · rw [List.concat_eq_append] at h ⊢
    rw [List.dropLast_concat]
    exact hd front name (by rw [h]; nofun)

theorem Sound.put (hd : d.Sound) (hplace : place ≠ []) (hparent : d.node? place.dropLast = some .dir)
    (hnode : n = .dir ∨ d.node? place ≠ some .dir) : (d.put place n).Sound := by
  intro q name h
  by_cases heq : q ++ [name] = place
  · subst heq
    rw [List.dropLast_concat] at hparent
    rw [node?_put_other _ _ _ _ (by simp)]
    exact hparent
  · rw [node?_put_other _ _ _ _ heq] at h
    have hq := hd q name h
    by_cases hqp : q = place
    · subst hqp
      rcases hnode with rfl | hnode
      · exact node?_put_self _ _ _ hplace
      · exact absurd hq hnode
    · rw [node?_put_other _ _ _ _ hqp]
      exact hq

theorem node?_dropTree_below (h : place <+: other) (hne : other ≠ []) :
    (d.dropTree place).node? other = none := by
  rw [node?_eq _ _ hne, entries_dropTree, Option.map_eq_none_iff, List.find?_eq_none]
  intro e he heq
  have hkept := (List.mem_filter.mp he).2
  rw [beq_iff_eq] at heq
  rw [heq, List.isPrefixOf_iff_prefix.mpr h] at hkept
  cases hkept

theorem node?_dropTree_other (h : ¬place <+: other) : (d.dropTree place).node? other = d.node? other := by
  by_cases hroot : other = []
  · subst hroot
    rfl
  rw [node?_eq _ _ hroot, node?_eq _ _ hroot, entries_dropTree, List.find?_filter]
  congr 2
  funext e
  by_cases he : e.1 = other
  · have hkept : place.isPrefixOf e.1 = false := by
      rw [he, ← Bool.not_eq_true, List.isPrefixOf_iff_prefix]
      exact h
    rw [hkept, he]
    simp
  · simp [he]

theorem Sound.dropTree (hd : d.Sound) (place : List Bytes) : (d.dropTree place).Sound := by
  intro q name h
  have hkept : ¬place <+: q ++ [name] := by
    intro hprefix
    exact h (node?_dropTree_below hprefix (by simp))
  rw [node?_dropTree_other hkept] at h
  rw [node?_dropTree_other fun hbelow => hkept (hbelow.trans (List.prefix_append q [name]))]
  exact hd q name h

end Trees

section Walks

variable {d d' : Disk} {place target : List Bytes} {names : List Bytes}

/-- Where a name leads from a directory. -/
def turn (place : List Bytes) (name : Bytes) : Except DiskCause (List Bytes) :=
  if name = bytes "." then .ok place
  else if name = bytes ".." then .ok place.dropLast
  else if name.length > 255 then .error .nameTooLong
  else .ok (place ++ [name])

theorem walk_cons (d : Disk) (place : List Bytes) (name : Bytes) (rest : List Bytes) :
    d.walk place (name :: rest) = match d.node? place with
      | none => .error .missing
      | some (.file _) => .error .notDirectory
      | some .dir => turn place name >>= fun p => d.walk p rest := by
  rw [walk, turn]
  cases d.node? place with
  | none => rfl
  | some n =>
      cases n with
      | file content => rfl
      | dir =>
          dsimp only
          split
          · rfl
          · split
            · rfl
            · split <;> rfl

theorem walk_cons_eq_ok {name : Bytes} :
    d.walk place (name :: names) = .ok target ↔
      d.node? place = some .dir ∧ ∃ p, turn place name = .ok p ∧ d.walk p names = .ok target := by
  rw [walk_cons]
  cases d.node? place with
  | none => simp
  | some n =>
      cases n with
      | file content => simp
      | dir => simp [bind_eq_ok]

theorem walk_append (d : Disk) (place : List Bytes) (names more : List Bytes) :
    d.walk place (names ++ more) = d.walk place names >>= fun p => d.walk p more := by
  induction names generalizing place with
  | nil => rfl
  | cons name names ih =>
      rw [List.cons_append, walk_cons, walk_cons]
      split
      · rfl
      · rfl
      · cases turn place name with
        | error e => rfl
        | ok p => exact ih p

theorem walk_name {name : Bytes} (h : Path.Plain name) (hlen : name.length ≤ 255) (d : Disk)
    (place : List Bytes) :
    d.walk place [name] = match d.node? place with
      | none => .error .missing
      | some (.file _) => .error .notDirectory
      | some .dir => .ok (place ++ [name]) := by
  rw [walk_cons, turn, if_neg h.ne_here, if_neg h.ne_up, if_neg (Nat.not_lt.mpr hlen)]
  rfl

/-- Names lead where they led as long as directories stay directories. -/
theorem walk_mono (h : ∀ q, d.node? q = some .dir → d'.node? q = some .dir)
    (hwalk : d.walk place names = .ok target) : d'.walk place names = .ok target := by
  induction names generalizing place with
  | nil => exact hwalk
  | cons name names ih =>
      obtain ⟨hdir, p, hturn, hrest⟩ := walk_cons_eq_ok.mp hwalk
      exact walk_cons_eq_ok.mpr ⟨h place hdir, p, hturn, ih hrest⟩

/-- Where places were only taken away, names lead where they led or nowhere. -/
theorem walk_lost (h : ∀ q, d'.node? q = d.node? q ∨ d'.node? q = none)
    (hwalk : d.walk place names = .ok target) :
    d'.walk place names = .ok target ∨ d'.walk place names = .error .missing := by
  induction names generalizing place with
  | nil => exact Or.inl hwalk
  | cons name names ih =>
      obtain ⟨hdir, p, hturn, hrest⟩ := walk_cons_eq_ok.mp hwalk
      rcases h place with hsame | hgone
      · rw [walk_cons, hsame, hdir, hturn]
        exact ih hrest
      · rw [walk_cons, hgone]
        exact Or.inr rfl

end Walks

/-- Where the names of a path are followed from. -/
def start (cwd : List Bytes) (path : Bytes) : List Bytes := if Path.isAbsolute path then [] else cwd

section Paths

variable {d d' : Disk} {path : Bytes} {place : List Bytes}

theorem locate_eq_walk (hne : path ≠ []) (hzero : 0 ∉ path) (hlen : path.length < 4096) :
    d.locate path = d.walk (start d.cwd path) (Path.parts path) := by
  unfold locate
  rw [if_neg (by simpa using hne), if_neg (by simpa using hzero), if_neg (Nat.not_le.mpr hlen)]
  rfl

theorem locate_eq_ok (h : d.locate path = .ok place) :
    path ≠ [] ∧ 0 ∉ path ∧ path.length < 4096 ∧
      d.walk (start d.cwd path) (Path.parts path) = .ok place := by
  unfold locate at h
  split at h
  · cases h
  · next hne =>
      split at h
      · cases h
      · next hzero =>
          split at h
          · cases h
          · next hlen =>
              exact ⟨by simpa using hne, by simpa using hzero, Nat.lt_of_not_le hlen, h⟩

theorem parts_ne_nil (hne : path ≠ []) (hrel : Path.isAbsolute path = false) : Path.parts path ≠ [] := by
  obtain ⟨b, rest, rfl⟩ := List.exists_cons_of_ne_nil hne
  have hb : b ≠ Path.slash := by simpa [Path.isAbsolute] using hrel
  obtain ⟨piece, pieces, hsplit⟩ := List.exists_cons_of_ne_nil (splitOn_ne_nil Path.slash rest)
  rw [Path.parts, splitOn_cons _ b rest hsplit, if_neg hb]
  simp

/-- The parent of a path stands before one of its slashes. -/
theorem parentPath_append (h : parentPath path ≠ []) :
    ∃ rest, path = parentPath path ++ Path.slash :: rest := by
  have hcut : ∀ (p : UInt8 → Bool) (s : Bytes), ∃ rest, s = Bytes.dropEndWhile p s ++ rest := by
    intro p s
    refine ⟨(s.reverse.takeWhile p).reverse, ?_⟩
    rw [Bytes.dropEndWhile, ← List.reverse_append, List.takeWhile_append_dropWhile, List.reverse_reverse]
  unfold parentPath at h ⊢
  dsimp only at h ⊢
  obtain ⟨slashes, hbody⟩ := hcut (· == Path.slash) path
  obtain ⟨last, hlast⟩ := hcut (· != Path.slash) (Bytes.dropEndWhile (· == Path.slash) path)
  generalize hup : Bytes.dropEndWhile (· != Path.slash) (Bytes.dropEndWhile (· == Path.slash) path) = up at h hlast ⊢
  split at h
  · next hlen =>
      rw [if_pos hlen]
      have hne : (Bytes.dropEndWhile (· == Path.slash) path).reverse.dropWhile (· != Path.slash) ≠ [] := by
        intro hnil
        rw [Bytes.dropEndWhile, hnil] at hup
        subst hup
        exact absurd hlen (by decide)
      have hhead := List.head_dropWhile_not (· != Path.slash) hne
      have hends : up.getLast? = some Path.slash := by
        rw [← hup, Bytes.dropEndWhile, List.getLast?_reverse, List.head?_eq_some_head hne]
        simpa using hhead
      obtain ⟨front, rfl⟩ := List.getLast?_eq_some_iff.mp hends
      refine ⟨last ++ slashes, ?_⟩
      rw [List.dropLast_concat]
      calc path = front ++ [Path.slash] ++ last ++ slashes := by rw [← hlast]; exact hbody
        _ = front ++ Path.slash :: (last ++ slashes) := by simp
  · exact absurd rfl h

end Paths

section Making

variable {d d₁ d₂ : Disk} {path : Bytes} {root names more q : List Bytes}

theorem follow_append (place : List Bytes) (names more : List Bytes) :
    follow place (names ++ more) = follow (follow place names) more := by
  induction names generalizing place with
  | nil => rfl
  | cons name names ih =>
      simp only [List.cons_append, follow, ih]
      split
      · rfl
      · split <;> rfl

theorem follow_plain (h : ∀ name ∈ names, Path.Plain name) (place : List Bytes) :
    follow place names = place ++ names := by
  induction names generalizing place with
  | nil => exact (List.append_nil place).symm
  | cons name names ih =>
      have hname := h name List.mem_cons_self
      rw [follow, if_neg hname.ne_here, if_neg hname.ne_up, ih fun n hn => h n (List.mem_cons_of_mem name hn)]
      exact (List.append_cons place name names).symm

/-- A place on the way that names lead, reached by a plain one. -/
def OnWay (root names q : List Bytes) : Prop :=
  ∃ front name, front ++ [name] <+: names ∧ Path.Plain name ∧ q = follow root (front ++ [name])

theorem OnWay.mono (h : OnWay root names q) (hmore : names <+: more) : OnWay root more q := by
  obtain ⟨front, name, hprefix, hname, hq⟩ := h
  exact ⟨front, name, hprefix.trans hmore, hname, hq⟩

/-- Plain names after plain names: the way to a clean path never turns back. -/
theorem OnWay.prefix_follow {rooted : Bool} (h : OnWay root names q) (hnames : Path.Direct rooted names) :
    q <+: follow root names := by
  obtain ⟨front, name, ⟨rest, hrest⟩, hname, rfl⟩ := h
  obtain ⟨ups, downs, hsplit, -, hplain⟩ := hnames
  have hmem : ∀ n ∈ rest, Path.Plain n := by
    rw [← hrest, List.append_assoc] at hsplit
    rcases List.append_eq_append_iff.mp hsplit with ⟨more, hups, hdowns⟩ | ⟨more, hfront, hdowns⟩
    · cases more with
      | nil =>
          intro n hn
          refine hplain n ?_
          rw [List.nil_append] at hdowns
          simp [← hdowns, hn]
      | cons first more =>
          -- a plain name is no step up
          have hfirst : first = name := by simpa using (congrArg List.head? hdowns).symm
          have hmem : name ∈ List.replicate ups (bytes "..") := by
            rw [hups, hfirst]
            simp
          exact absurd (List.eq_of_mem_replicate hmem) hname.ne_up
    · intro n hn
      exact hplain n (by rw [hdowns]; simp [hn])
  rw [← hrest, follow_append root (front ++ [name]) rest, follow_plain hmem]
  exact List.prefix_append _ _

/-- Only a plain name leads where nothing stands. -/
theorem plain_of_turn {name : Bytes} (hd : d.Sound) (hroot : d.node? root = some .dir)
    (hturn : turn root name = .ok q) (hq : d.node? q = none) (hname : name ≠ [] ∧ Path.slash ∉ name) :
    Path.Plain name := by
  refine ⟨hname.1, hname.2, ?_, ?_⟩
  · rintro rfl
    cases hturn
    rw [hroot] at hq
    cases hq
  · rintro rfl
    cases hturn
    rw [hd.dir_of_dropLast hroot] at hq
    cases hq

theorem makeDir_eq_ok (hd : d.Sound) (h : d.makeDir path = .ok d₁) :
    ∃ q, OnWay (start d.cwd path) (Path.parts path) q ∧ q ≠ [] ∧ d.node? q = none ∧
      d.node? q.dropLast = some .dir ∧ d₁ = d.put q .dir := by
  obtain ⟨q, hloc, hput⟩ := bind_eq_ok.mp (during_eq_ok h)
  split at hput
  · cases hput
  · next hnone =>
      split at hput
      · next hparent =>
          cases hput
          refine ⟨q, ?_, ?_, hnone, hparent, rfl⟩
          · obtain ⟨hne, -, -, hwalk⟩ := locate_eq_ok hloc
            rcases List.eq_nil_or_concat (Path.parts path) with hparts | ⟨front, name, hparts⟩
            · rw [hparts] at hwalk
              cases hwalk
              unfold start at hnone
              split at hnone
              · cases hnone
              · next hrel => exact absurd hparts (parts_ne_nil hne (Bool.eq_false_iff.mpr hrel))
            · rw [List.concat_eq_append] at hparts
              have hq := walk_eq hwalk
              rw [hparts, walk_append] at hwalk
              obtain ⟨t, -, hlast⟩ := bind_eq_ok.mp hwalk
              obtain ⟨hdir, p, hturn, hend⟩ := walk_cons_eq_ok.mp hlast
              cases hend
              have hname := plain_of_turn hd hdir hturn hnone (Path.mem_parts (p := path) (by simp [hparts]))
              rw [hparts] at hq ⊢
              exact ⟨front, name, List.prefix_refl _, hname, hq⟩
          · rintro rfl
            cases hnone
      · cases hput

/-- A disk has grown by directories on a way. -/
structure Grown (root names : List Bytes) (d d₁ : Disk) : Prop where
  cwd : d₁.cwd = d.cwd
  sound : d₁.Sound
  nodes : ∀ q, d₁.node? q = d.node? q ∨
    d.node? q = none ∧ d₁.node? q = some .dir ∧ OnWay root names q

theorem Grown.refl (hd : d.Sound) : Grown root names d d := ⟨rfl, hd, fun _ => Or.inl rfl⟩

theorem Grown.mono (h : Grown root names d d₁) (hmore : names <+: more) : Grown root more d d₁ := by
  refine ⟨h.cwd, h.sound, fun q => (h.nodes q).imp_right ?_⟩
  rintro ⟨hnone, hdir, hway⟩
  exact ⟨hnone, hdir, hway.mono hmore⟩

theorem Grown.trans (h : Grown root names d d₁) (h' : Grown root names d₁ d₂) : Grown root names d d₂ := by
  refine ⟨h'.cwd.trans h.cwd, h'.sound, fun q => ?_⟩
  rcases h'.nodes q with hsame | ⟨hnone, hdir, hway⟩
  · rw [hsame]
    exact h.nodes q
  · rcases h.nodes q with hsame | ⟨-, hdir', -⟩
    · rw [hsame] at hnone
      exact Or.inr ⟨hnone, hdir, hway⟩
    · rw [hnone] at hdir'
      cases hdir'

theorem makeDir_grown (hd : d.Sound) (h : d.makeDir path = .ok d₁) :
    Grown (start d.cwd path) (Path.parts path) d d₁ := by
  obtain ⟨q, hway, hne, hnone, hparent, rfl⟩ := makeDir_eq_ok hd h
  refine ⟨rfl, hd.put hne hparent (Or.inl rfl), fun p => ?_⟩
  by_cases hp : p = q
  · subst hp
    exact Or.inr ⟨hnone, node?_put_self _ _ _ hne, hway⟩
  · exact Or.inl (node?_put_other _ _ _ _ hp)

theorem parts_parentPath (h : parentPath path ≠ []) (cwd : List Bytes) :
    Path.parts (parentPath path) <+: Path.parts path ∧ start cwd (parentPath path) = start cwd path := by
  obtain ⟨rest, hpath⟩ := parentPath_append h
  have hparts := Path.parts_append (parentPath path) rest
  have hrooted := Path.isAbsolute_append h (Path.slash :: rest)
  rw [← hpath] at hparts hrooted
  refine ⟨?_, ?_⟩
  · rw [hparts]
    exact List.prefix_append _ _
  · rw [start, start, hrooted]

/-- Makes the last directory of a path. It may be there by now. -/
def makeLast (d : Disk) (path : Bytes) : Except DiskError Disk :=
  match d.makeDir path with
  | .ok d => .ok d
  | .error e =>
    match d.stat path with
    | .ok (_, .dir) => .ok d
    | _ => .error e

theorem makeLast_grown (hd : d.Sound) (h : d.makeLast path = .ok d₁) :
    Grown (start d.cwd path) (Path.parts path) d d₁ := by
  unfold makeLast at h
  split at h
  · next hmake =>
      cases h
      exact makeDir_grown hd hmake
  · split at h
    · cases h
      exact .refl hd
    · cases h

/-- Directories are made on the way to a path and nowhere else. -/
theorem makeDirsWithin_grown {n : Nat} (hd : d.Sound) (h : makeDirsWithin n d path = .ok d₁) :
    Grown (start d.cwd path) (Path.parts path) d d₁ := by
  induction n generalizing d d₁ path with
  | zero => exact makeDir_grown hd h
  | succ n ih =>
      unfold makeDirsWithin at h
      split at h
      · cases h
        exact .refl hd
      · cases h
      · dsimp only at h
        split at h
        · exact makeLast_grown hd h
        · next hparent =>
            obtain ⟨e, hmade, h⟩ := bind_eq_ok.mp h
            have hne : parentPath path ≠ [] := by simpa using hparent
            obtain ⟨hparts, hstart⟩ := parts_parentPath hne d.cwd
            have he := (ih hd hmade).mono hparts
            rw [hstart] at he
            have hmade := makeLast_grown he.sound h
            rw [he.cwd] at hmade
            exact he.trans hmade

end Making

section Moving

variable {d d₁ : Disk} {path content : Bytes}

theorem Sound.node?_dropLast {place : List Bytes} (hd : d.Sound) (hne : place ≠ [])
    (h : d.node? place ≠ none) : d.node? place.dropLast = some .dir := by
  refine hd place.dropLast (place.getLast hne) ?_
  rwa [List.dropLast_append_getLast hne]

/-- A file is created in a directory, and not over one. -/
theorem create_over {place : List Bytes} (hd : d.Sound) (h : d.create path = .ok (place, d₁)) :
    d.node? place ≠ some .dir ∧ d.node? place.dropLast = some .dir := by
  have hroot := (create_eq h).2.1
  obtain ⟨found, -, hput⟩ := bind_eq_ok.mp (during_eq_ok h)
  split at hput
  · cases hput
  · next hfile =>
      split at hput
      · cases hput
      · cases hput
        exact ⟨by rw [hfile]; nofun, hd.node?_dropLast hroot (by rw [hfile]; nofun)⟩
  · next hnone =>
      split at hput
      · cases hput
      · split at hput
        · next hparent =>
            cases hput
            refine ⟨by rw [hnone]; nofun, ?_⟩
            rcases Bool.or_eq_true _ _ ▸ hparent with hempty | hdir
            · rw [List.isEmpty_iff.mp hempty]
              rfl
            · exact of_decide_eq_true hdir
        · cases hput

theorem write_sound (hd : d.Sound) (h : d.write path content = .ok d₁) :
    d₁.Sound ∧ d.node? (siteOf d.cwd path) ≠ some .dir ∧
      ∀ q, q ≠ siteOf d.cwd path → d₁.node? q = d.node? q := by
  obtain ⟨⟨place, e⟩, hcreate, hput⟩ := bind_eq_ok.mp h
  obtain ⟨hsite, hroot, he⟩ := create_eq hcreate
  obtain ⟨hover, hparent⟩ := create_over hd hcreate
  cases hput
  subst he
  rw [← hsite]
  have hfirst := hd.put (n := .file []) hroot hparent (Or.inr hover)
  have hdirs : ∀ q, q ≠ place → (d.put place (.file [])).node? q = d.node? q :=
    fun q hq => node?_put_other _ _ _ _ hq
  refine ⟨hfirst.put hroot ?_ (Or.inr ?_), hover, ?_⟩
  · rw [hdirs _ fun heq => ?_]
    · exact hparent
    · have hlen := congrArg List.length heq
      rw [List.length_dropLast] at hlen
      have := List.length_pos_of_ne_nil hroot
      omega
  · rw [node?_put_self _ _ _ hroot]
    nofun
  · intro q hq
    rw [node?_put_other _ _ _ _ hq, hdirs q hq]

theorem stat_of_locate {place : List Bytes} (h : d.locate path = .ok place) :
    d.stat path = match d.node? place with
      | none => .error .missing
      | some .dir => .ok (place, .dir)
      | some (.file c) => if wantsDirectory path then .error .notDirectory else .ok (place, .file c) := by
  rw [stat, h]
  rfl

/-- A path that a file is created at is walked to its end and does not ask for a directory. -/
theorem create_plain {place : List Bytes} (h : d.create path = .ok (place, d₁)) :
    d.locate path = .ok place ∧ wantsDirectory path = false := by
  obtain ⟨found, hloc, hput⟩ := bind_eq_ok.mp (during_eq_ok h)
  split at hput
  · cases hput
  · split at hput
    · cases hput
    · next hplain =>
        cases hput
        exact ⟨hloc, Bool.eq_false_iff.mpr hplain⟩
  · split at hput
    · cases hput
    · next hplain =>
        split at hput
        · cases hput
          exact ⟨hloc, Bool.eq_false_iff.mpr hplain⟩
        · cases hput

theorem write_dirs (hd : d.Sound) (h : d.write path content = .ok d₁) {q : List Bytes}
    (hq : d.node? q = some .dir) : d₁.node? q = some .dir := by
  obtain ⟨-, hover, hsame⟩ := write_sound hd h
  rw [hsame q fun heq => hover (heq ▸ hq), hq]

/-- A file that was written is found. -/
theorem write_stat (hd : d.Sound) (h : d.write path content = .ok d₁) :
    d.locate path = .ok (siteOf d.cwd path) ∧ d₁.stat path = .ok (siteOf d.cwd path, .file content) := by
  obtain ⟨hgains, hcontent⟩ := write_eq h
  obtain ⟨⟨place, e⟩, hcreate, -⟩ := bind_eq_ok.mp h
  obtain ⟨hlocate, hplain⟩ := create_plain hcreate
  obtain rfl := locate_eq hlocate
  have hlocate' : d₁.locate path = .ok (siteOf d.cwd path) := by
    obtain ⟨hne, hzero, hlen, hwalk⟩ := locate_eq_ok hlocate
    rw [locate_eq_walk hne hzero hlen, hgains.cwd]
    exact walk_mono (fun _ => write_dirs hd h) hwalk
  refine ⟨hlocate, ?_⟩
  rw [stat_of_locate hlocate', hcontent, hplain]
  rfl

/-- A file is moved into a directory and over a file, never over a directory. -/
theorem rename_ok {old new : Bytes} {source target : List Bytes} {n : Node} (hold : d.stat old = .ok (source, n))
    (hnew : d.locate new = .ok target) (hover : d.node? target ≠ some .dir) (hplain : wantsDirectory new = false)
    (hparent : d.node? target.dropLast = some .dir) :
    d.rename old new = .ok ((d.dropTree source).put target n) := by
  rw [rename]
  split
  · next hdir =>
      obtain ⟨rfl, hnode⟩ := stat_eq hdir
      rw [locate_eq hnew] at hover
      exact absurd hnode hover
  · rw [hold, hnew]
    simp only [during, bind, Except.bind, hplain, hparent]
    rfl

theorem rename_eq_ok {old new : Bytes} (h : d.rename old new = .ok d₁)
    (hold : d.node? (siteOf d.cwd old) = some (.file content)) :
    d.locate new = .ok (siteOf d.cwd new) ∧ d.node? (siteOf d.cwd new) ≠ some .dir ∧
      d.node? (siteOf d.cwd new).dropLast = some .dir ∧
      d₁ = (d.dropTree (siteOf d.cwd old)).put (siteOf d.cwd new) (.file content) := by
  have hmove := during_eq_ok h
  split at hmove
  · cases hmove
  · next hnew =>
      obtain ⟨⟨source, n⟩, hsource, hmove⟩ := bind_eq_ok.mp hmove
      obtain ⟨target, htarget, hmove⟩ := bind_eq_ok.mp hmove
      obtain ⟨rfl, hnode⟩ := stat_eq hsource
      rw [hold] at hnode
      cases hnode
      have hsite := locate_eq htarget
      subst hsite
      split at hmove
      · cases hmove
      · split at hmove
        · cases hmove
        · next hparent =>
            cases hmove
            refine ⟨htarget, ?_, by simpa using hparent, rfl⟩
            intro hdir
            refine hnew (siteOf d.cwd new) ?_
            rw [stat_of_locate htarget, hdir]

theorem rename_sound {old new : Bytes} (hd : d.Sound) (h : d.rename old new = .ok d₁)
    (hold : d.node? (siteOf d.cwd old) = some (.file content)) :
    d₁.Sound ∧ d₁.cwd = d.cwd ∧ d₁.node? (siteOf d.cwd new) = some (.file content) ∧
      (∀ q, d.node? q = some .dir → d₁.node? q = some .dir) ∧
      ∀ q, q ≠ siteOf d.cwd new → ¬siteOf d.cwd old <+: q → d₁.node? q = d.node? q := by
  obtain ⟨-, hover, hparent, rfl⟩ := rename_eq_ok h hold
  have hroot : siteOf d.cwd new ≠ [] := by
    intro hnil
    rw [hnil] at hover
    exact hover rfl
  have hkept : ∀ q, d.node? q = some .dir → (d.dropTree (siteOf d.cwd old)).node? q = some .dir := by
    intro q hq
    rw [node?_dropTree_other (hd.not_prefix_file hold hq), hq]
  have hover' : (d.dropTree (siteOf d.cwd old)).node? (siteOf d.cwd new) ≠ some .dir := by
    intro hdir
    exact hover (node?_dropTree _ _ _ hdir hroot)
  refine ⟨(hd.dropTree _).put hroot (hkept _ hparent) (Or.inr hover'), rfl, node?_put_self _ _ _ hroot, ?_, ?_⟩
  · intro q hq
    have hne : q ≠ siteOf d.cwd new := by
      rintro rfl
      exact hover hq
    rw [node?_put_other _ _ _ _ hne]
    exact hkept q hq
  · intro q hne hapart
    rw [node?_put_other _ _ _ _ hne, node?_dropTree_other hapart]

end Moving

end FlowBlocks.Disk
