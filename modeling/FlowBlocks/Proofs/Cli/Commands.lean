import FlowBlocks.Cli.Run
import FlowBlocks.Proofs.Cli.Tally
/-!
How the commands end. Inside a session that was opened, `check` and `blocks` fail alike: with the number of
bodies that could not be built, which is told by reading the files, and with nothing else.
-/
namespace FlowBlocks.Cli

open Batch

namespace Act

variable {α β : Type}

theorem bind_run (x : Act α) (f : α → Act β) (c : Console) :
    (x >>= f).run.run c = match x.run.run c with
      | (.ok a, c') => (f a).run.run c'
      | (.error e, c') => (.error e, c') := by
  rw [ExceptT.run_bind, StateT.run_bind]
  rcases x.run.run c with ⟨a | a, c'⟩ <;> rfl

theorem tryCatch_run (x : Act α) (f : CommandError → Act α) (c : Console) :
    (tryCatch x f).run.run c = match x.run.run c with
      | (.ok a, c') => (.ok a, c')
      | (.error e, c') => (f e).run.run c' := by
  rw [ExceptT.run_tryCatch, StateT.run_bind]
  rcases x.run.run c with ⟨a | a, c'⟩ <;> rfl

theorem bind_ok {x : Act α} {f : α → Act β} {c c' : Console} {a : α} (h : x.run.run c = (.ok a, c')) :
    (x >>= f).run.run c = (f a).run.run c' := by
  rw [bind_run, h]

/-- Whatever an action gives where it does not fail has a property. -/
def Yields (P : α → Prop) (x : Act α) : Prop := ∀ c a c', x.run.run c = (.ok a, c') → P a

theorem yields_pure {P : α → Prop} {a : α} (h : P a) : Yields P (pure a) := by
  intro c b c' hrun
  cases hrun
  exact h

theorem yields_bind {P : β → Prop} {x : Act α} {f : α → Act β} (hf : ∀ a, Yields P (f a)) :
    Yields P (x >>= f) := by
  intro c b c' hrun
  rw [bind_run] at hrun
  rcases hx : x.run.run c with ⟨e | a, c₁⟩
  · rw [hx] at hrun
    cases hrun
  · rw [hx] at hrun
    exact hf a c₁ b c' hrun

theorem yields_throw {P : β → Prop} (e : CommandError) (f : α → Act β) : Yields P (throw e >>= f) := by
  intro c b c' hrun
  cases hrun

/-- An action that neither fails nor prints. -/
def Silent (x : Act α) : Prop := ∀ c, ∃ a c', x.run.run c = (.ok a, c') ∧ c'.out = c.out

theorem silent_pure (a : α) : Silent (pure a) := fun c => ⟨a, c, rfl, rfl⟩

theorem silent_get : Silent get := fun c => ⟨c, c, rfl, rfl⟩

theorem silent_modify {f : Console → Console} (h : ∀ c, (f c).out = c.out) : Silent (modify f) :=
  fun c => ⟨(), f c, rfl, h c⟩

theorem Silent.bind {x : Act α} {f : α → Act β} (hx : Silent x) (hf : ∀ a, Silent (f a)) : Silent (x >>= f) := by
  intro c
  obtain ⟨a, c₁, hrun, hout⟩ := hx c
  obtain ⟨b, c₂, hrun', hout'⟩ := hf a c₁
  exact ⟨b, c₂, (bind_ok hrun).trans hrun', hout'.trans hout⟩

theorem silent_disk : Silent disk := silent_get.bind fun _ => silent_pure _

theorem silent_complain (s : Bytes) : Silent (complain s) := silent_modify fun _ => rfl

theorem silent_phase (name : Bytes) : Silent (phase name) := silent_modify fun _ => rfl

theorem silent_phases (phases : List Phase) : Silent (phases.forM fun p => phase p.name) := by
  induction phases with
  | nil => exact silent_pure ()
  | cons p rest ih => exact (silent_phase p.name).bind fun _ => ih

end Act

namespace Session

open Act

variable (s : Session)

theorem silent_stopProfiles : Silent s.stopProfiles := by
  unfold stopProfiles
  split
  · refine silent_disk.bind fun d => ?_
    split
    · exact silent_modify fun _ => rfl
    · exact silent_complain _
  · exact silent_pure ()

theorem silent_closeTrace (failed : Bool) : Silent (closeTrace failed) := by
  unfold closeTrace
  refine silent_get.bind fun c => ?_
  split
  · refine (silent_complain _).bind fun _ => ?_
    exact (silent_complain _).bind fun _ => silent_modify fun _ => rfl
  · exact (silent_complain _).bind fun _ => silent_modify fun _ => rfl

/-- A session can always be closed. -/
theorem silent_close (failed : Bool) : Silent (s.close failed) := by
  unfold close
  refine s.silent_stopProfiles.bind fun _ => (silent_closeTrace failed).bind fun _ => ?_
  exact silent_get.bind fun _ => silent_complain _

/-- A session has a store just where its settings ask for one. -/
theorem open_store (env : Environment) (o : Options) :
    Yields (fun s => s.options.store.isSome = s.settings.caching) (open_ env o) := by
  unfold open_
  refine yields_bind fun d => yields_bind fun found => ?_
  dsimp only
  split
  · exact yields_throw _ _
  · -- with or without a stopwatch, what follows is the same
    split
    on_goal 1 => refine yields_bind fun _ => ?_
    all_goals
      split
      · next hcaching =>
          refine yields_bind fun _ => yields_bind fun _ => ?_
          rw [pure_bind]
          exact yields_bind fun _ => yields_bind fun _ => yields_pure hcaching.symm
      · next hcaching =>
          rw [pure_bind]
          exact yields_bind fun _ => yields_bind fun _ => yields_pure (Bool.eq_false_iff.mpr hcaching).symm

/-- A session ends as its command ends. -/
theorem within_run {env : Environment} {o : Options} {c c' : Console} {s : Session}
    (hopen : (open_ env o).run.run c = (.ok s, c')) (command : Session → Act Unit) :
    ((within env o command).run.run c).1 = ((command s).run.run c').1 ∧
      ((within env o command).run.run c).2.out = ((command s).run.run c').2.out := by
  unfold within
  rw [bind_ok hopen, bind_run, tryCatch_run]
  rcases (command s).run.run c' with ⟨e | a, c₁⟩
  · obtain ⟨a, c₂, hclose, hout⟩ := s.silent_close true c₁
    dsimp only
    rw [bind_ok hclose]
    exact ⟨rfl, hout⟩
  · obtain ⟨a, c₂, hclose, hout⟩ := s.silent_close false c₁
    dsimp only
    rw [hclose]
    exact ⟨rfl, hout⟩

/-- Building files gives the results of the batch. -/
theorem build_run (verify : Bool) (files : List Bytes) (c : Console) : ∃ c',
    (s.build verify files).run.run c =
        (.ok (Batch.run { s.options with verify } false 0 files c.recorder).1.results, c') ∧
      c'.out = c.out := by
  have herror : (Batch.run { s.options with verify } false 0 files c.recorder).1.error = none := by
    cases files with
    | nil => rfl
    | cons path rest => rfl
  have hget : (get : Act Console).run.run c = (.ok c, c) := rfl
  unfold build
  rw [bind_ok hget]
  dsimp only at herror ⊢
  rcases hbatch : Batch.run { s.options with verify } false 0 files c.recorder with ⟨outcome, recorder⟩
  rw [hbatch] at herror
  dsimp only at herror ⊢
  obtain ⟨a, c₁, hphases, hout⟩ := silent_phases outcome.phases { c with recorder }
  have hmodify : (modify fun c => { c with recorder } : Act Unit).run.run c = (.ok (), { c with recorder }) := rfl
  rw [bind_ok hmodify, bind_ok hphases, herror]
  exact ⟨c₁, rfl, hout⟩

end Session

/-- How a command ends that found `failed` of `total` bodies failed. -/
def ending (failed total : Nat) : Except CommandError Unit :=
  if failed > 0 then .error (.failures failed total) else .ok ()

theorem settle_run (failed total : Nat) (c : Console) :
    (settle failed total).run.run c = (ending failed total, c) := by
  unfold settle ending
  split <;> rfl

theorem ending_eq_ok {failed total : Nat} : ending failed total = .ok () ↔ failed = 0 := by
  unfold ending
  split
  · next h => simp [Nat.ne_of_gt h]
  · next h => simp [Nat.eq_zero_of_not_pos h]

theorem ending_of_ne {failed total : Nat} (h : ending failed total ≠ .ok ()) :
    ending failed total = .error (.failures failed total) := by
  rw [Ne, ending_eq_ok] at h
  exact if_pos (Nat.pos_of_ne_zero h)

theorem check_run (s : Session) (files : List Bytes) (c : Console) {rows : List Row}
    (hrows : rows = summaryRows (Batch.run { s.options with verify := true } false 0 files c.recorder).1.results) :
    ∃ c', (check files s).run.run c = (ending (rows.countP Row.failed) rows.length, c') ∧
      c'.out = c.out ++ if !s.quiet || decide (rows.countP Row.failed > 0) then
        (Table.print { colored := s.color } rows {}).2.text else [] := by
  obtain ⟨c₁, hbuild, hout₁⟩ := s.build_run true files c
  obtain ⟨a, c₂, hphase, hout₂⟩ := Act.silent_phase (bytes "render") c₁
  unfold check
  rw [Act.bind_ok hbuild, Act.bind_ok hphase, ← hrows]
  dsimp only
  rw [← List.countP_eq_length_filter, ← hout₁, ← hout₂]
  split
  · refine ⟨_, (Act.bind_ok (x := printSummary s rows) rfl).trans (settle_run _ _ _), ?_⟩
    rfl
  · refine ⟨_, settle_run _ _ _, ?_⟩
    rw [List.append_nil]

theorem blocks_run (s : Session) (o : Options) (files : List Bytes) (c : Console) {tally : Tally}
    (htally : tally = Tally.ofFiles ⟨s.color, !o.noUnits, o.width⟩ s.quiet
      (Batch.run { s.options with verify := false } false 0 files c.recorder).1.results) :
    ((blocks o files s).run.run c).1 = ending tally.failed tally.total := by
  obtain ⟨c₁, hbuild, -⟩ := s.build_run false files c
  obtain ⟨a, c₂, hphase, -⟩ := Act.silent_phase (bytes "render") c₁
  unfold blocks
  rw [Act.bind_ok hbuild, Act.bind_ok hphase, ← htally]
  dsimp only
  rw [Act.bind_ok (x := Act.print tally.out) rfl, Act.bind_ok (x := Act.complain tally.err) rfl]
  split
  · rw [Act.bind_ok (x := printSummary s _) rfl, settle_run]
  · rw [settle_run]

section Sessions

variable {env : Environment} {o : Options} {files : List Bytes} {c c' : Console} {s : Session}
  (hopen : (Session.open_ env o).run.run c = (.ok s, c'))
include hopen

theorem Session.store_eq_none (hcaching : s.settings.caching = false) : s.options.store = none := by
  have hsome : s.options.store.isSome = s.settings.caching := Session.open_store env o c s c' hopen
  rwa [hcaching, Option.isSome_eq_false_iff, Option.isNone_iff_eq_none] at hsome

variable (hstore : s.options.store = none)
include hstore

theorem blocks_within :
    ((Session.within env o (blocks o files)).run.run c).1 =
      ending (failing (readings s.options files c'.recorder)) (counted (readings s.options files c'.recorder)) := by
  rw [← readings_verify hstore false files c'.recorder]
  obtain ⟨hfailed, htotal⟩ := ofFiles_run (o := { s.options with verify := false }) hstore files
    c'.recorder ⟨s.color, !o.noUnits, o.width⟩ s.quiet
  rw [(Session.within_run hopen (blocks o files)).1, blocks_run s o files c' rfl, hfailed, htotal]

theorem check_within :
    ((Session.within env o (check files)).run.run c).1 =
        ending (failing (readings s.options files c'.recorder)) (counted (readings s.options files c'.recorder)) ∧
      if s.quiet ∧ failing (readings s.options files c'.recorder) = 0 then
        ((Session.within env o (check files)).run.run c).2.out = c'.out
      else ∃ front, ((Session.within env o (check files)).run.run c).2.out = c'.out ++ front ++ [10] ++
        (decimal (counted (readings s.options files c'.recorder)) ++ bytes " bodies, " ++
          decimal (failing (readings s.options files c'.recorder)) ++ bytes " failed\n") := by
  rw [← readings_verify hstore true files c'.recorder]
  obtain ⟨hfailed, htotal⟩ := summaryRows_run (o := { s.options with verify := true }) hstore files
    c'.recorder
  obtain ⟨c₁, hrun, hout⟩ := check_run s files c' rfl
  obtain ⟨hended, hprinted⟩ := Session.within_run hopen (check files)
  rw [hrun] at hended hprinted
  dsimp only at hended hprinted
  rw [hfailed, htotal] at hended
  rw [hout, hfailed] at hprinted
  refine ⟨hended, ?_⟩
  split
  · next hquiet =>
      rw [if_neg (by simp [hquiet.1, hquiet.2]), List.append_nil] at hprinted
      exact hprinted
  · -- something failed, or the check is not quiet: the table is printed
    next hshown =>
      obtain ⟨front, hfront⟩ := Table.print_text { colored := s.color }
        (summaryRows (Batch.run { s.options with verify := true } false 0 files c'.recorder).1.results)
      rw [if_pos (by grind), hfront, Table.totals, ← List.countP_eq_length_filter, hfailed, htotal] at hprinted
      exact ⟨front, hprinted.trans (by simp only [List.append_assoc])⟩

end Sessions

/-- The `check` and `blocks` commands agree and are exact. In a session without a store, both succeed if every
file can be read and parsed and none of its bodies is empty, and otherwise both fail with the number of files
that cannot and of empty bodies, out of those files and all bodies of the others. The last line that `check`
prints gives the same numbers; a quiet one prints nothing where nothing failed. Each file counts as it is at its
turn, which is as it was when the session was opened unless the trace is written to it. -/
theorem check_blocks_exact {env : Environment} {o : Options} {files : List Bytes} {c c' : Console} {s : Session}
    (hopen : (Session.open_ env o).run.run c = (.ok s, c')) (hcaching : s.settings.caching = false) :
    let xs := readings s.options files c'.recorder
    (∀ command ∈ [check files, blocks o files],
      let ended := ((Session.within env o command).run.run c).1
      (ended = .ok () ↔ ∀ x ∈ xs, ∃ bodies, x = .ok bodies ∧ ∀ b ∈ bodies, b.size ≠ 0) ∧
      (ended ≠ .ok () → ended = .error (.failures (failing xs) (counted xs)))) ∧
    (let printed := ((Session.within env o (check files)).run.run c).2.out
      if s.quiet ∧ failing xs = 0 then printed = c'.out
      else ∃ front, printed = c'.out ++ front ++ [10] ++ (decimal (counted xs) ++ bytes " bodies, " ++
        decimal (failing xs) ++ bytes " failed\n")) ∧
    ((∀ path ∈ files, Disk.siteOf c'.recorder.host.disk.cwd path ∉ c'.recorder.sink.places) →
      xs = files.map fun path => reading path c'.recorder.host.disk) := by
  intro xs
  have hstore := Session.store_eq_none hopen hcaching
  obtain ⟨hcheck, hprinted⟩ := @check_within _ _ files _ _ _ hopen hstore
  have hblocks := @blocks_within _ _ files _ _ _ hopen hstore
  refine ⟨?_, hprinted, readings_eq hstore⟩
  intro command hcommand ended
  have hended : ended = ending (failing xs) (counted xs) := by
    rcases List.mem_pair.mp hcommand with rfl | rfl
    · exact hcheck
    · exact hblocks
  rw [hended]
  exact ⟨ending_eq_ok.trans failing_eq_zero, ending_of_ne⟩

/-- A console whose disk has one listing: of two bodies, one empty. -/
def oneListing : Console :=
  { recorder.host.disk.entries := [([bytes "one"], .file (bytes ".body f\n.body g\nreturn\n"))] }

theorem oneListing_check_blocks : ∃ s c', (Session.open_ {} {}).run.run oneListing = (.ok s, c') ∧
    s.settings.caching = false ∧
    (∀ command ∈ [check [bytes "one", bytes "two"], blocks {} [bytes "one", bytes "two"]],
      ((Session.within {} {} command).run.run oneListing).1 = .error (.failures 2 3)) ∧
    ∃ front, ((Session.within {} {} (check [bytes "one", bytes "two"])).run.run oneListing).2.out =
      c'.out ++ front ++ [10] ++ bytes "3 bodies, 2 failed\n" := by
  obtain ⟨s, c', hopen, hcaching, hstore, hplaces, hdisk⟩ : ∃ s c',
      (Session.open_ {} {}).run.run oneListing = (.ok s, c') ∧ s.settings.caching = false ∧
        s.options.store = none ∧ c'.recorder.sink.places = [] ∧
        c'.recorder.host.disk = oneListing.recorder.host.disk :=
    ⟨_, _, rfl, rfl, rfl, rfl, rfl⟩
  have hxs : readings s.options [bytes "one", bytes "two"] c'.recorder = _ :=
    readings_eq hstore (by simp [hplaces])
  have hcounts : ∃ xs, readings s.options [bytes "one", bytes "two"] c'.recorder = xs ∧ failing xs = 2 ∧
      counted xs = 3 := by
    refine ⟨_, hxs, ?_⟩
    rw [hdisk]
    decide +kernel
  obtain ⟨xs, rfl, hfailing, hcounted⟩ := hcounts
  obtain ⟨hends, hprinted, -⟩ := @check_blocks_exact _ _ [bytes "one", bytes "two"] _ _ _ hopen hcaching
  rw [hfailing, hcounted] at hends hprinted
  refine ⟨s, c', hopen, hcaching, fun command hcommand => ?_, ?_⟩
  · obtain ⟨hok, herror⟩ := hends command hcommand
    rw [← failing_eq_zero, hfailing] at hok
    exact herror fun h => absurd (hok.mp h) (by decide)
  · rw [if_neg fun h => absurd h.2 (by decide)] at hprinted
    exact hprinted

end FlowBlocks.Cli
