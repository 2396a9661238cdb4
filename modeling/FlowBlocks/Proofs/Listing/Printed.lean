import FlowBlocks.Proofs.Listing.Compose
import FlowBlocks.Proofs.Listing.Lines
import FlowBlocks.Proofs.Listing.Spaced
/-!
Printing and reading back. The lines of a body are read one by one as what they were printed of, so a printed
body is read as itself but for the lines its instructions stand on, wherever it stands. What is printed takes
no more lines than the listing did that it was read from: no instruction comes to stand further down than it
did, and so each still has a line number.
-/
namespace FlowBlocks

/-- The instruction as it is read from a line of its own. -/
def Instr.onLine (number : Nat) (x : Instr) : Instr := { x with index := 0, line := number }

/-- Instructions on consecutive lines. -/
def onLines (first : Nat) (xs : List Instr) : List Instr := (xs.zipIdx first).map fun (x, k) => x.onLine k

namespace Listing

section Steps

variable {file name : Bytes} {closed : List Body} {instrs : List Instr} {traps : List Trap}

/-- The reading of a body that has been opened behind others, with no label waiting. -/
def begun (closed : List Body) (name : Bytes) (instrs : List Instr) (traps : List Trap) : Progress :=
  ⟨closed, { name, opened := true, instrs, traps }⟩

theorem step_clean {line : Bytes} {l : Line} {number : Nat} (hline : Clean line)
    (hlen : line.length < bufferSize) (hread : Line.read number line = .ok l) (p : Progress) :
    step file p (line, number) = (p.add file l).mapError (ListingError.malformed number) := by
  refine step_of_read p hlen ?_
  rw [hline.dropReturn_eq, hread]

/-- A loop over lines that each add one item. -/
theorem foldlM_items {α β : Type} (shown : α → Bytes) (item : Nat → α → β) (state : List β → Progress)
    {xs : List α} {number : Nat}
    (hstep : ∀ x ∈ xs, ∀ done k, k < number + xs.length →
      step file (state done) (shown x, k) = .ok (state (done ++ [item k x])))
    (done : List β) :
    ((xs.map shown).zipIdx number).foldlM (step file) (state done) =
      .ok (state (done ++ (xs.zipIdx number).map fun (x, k) => item k x)) := by
  induction xs generalizing done number with
  | nil =>
      change Except.ok (state done) = Except.ok (state (done ++ []))
      rw [List.append_nil]
  | cons x xs ih =>
      rw [List.length_cons] at hstep
      have hrest := @ih (number + 1)
        (fun y hy done k hk => hstep y (List.mem_cons_of_mem x hy) done k (by omega)) (done ++ [item number x])
      rw [List.map_cons, List.zipIdx_cons, List.foldlM_cons, hstep x List.mem_cons_self done number (by omega)]
      rw [List.append_assoc] at hrest
      exact hrest

theorem foldlM_instrs {xs : List Instr} (hxs : ∀ x ∈ xs, x.Legible)
    (hnames : ∀ x ∈ xs, ∀ l ∈ x.labels, Name l) (hlen : ∀ x ∈ xs, x.render.length < bufferSize) {number : Nat}
    (hroom : ∀ i < xs.length, number + i ≤ Line.maxNumber) :
    ((xs.map Instr.render).zipIdx number).foldlM (step file) (begun closed name instrs traps) =
      .ok (begun closed name (instrs ++ onLines number xs) traps) := by
  refine foldlM_items Instr.render Instr.onLine (fun done => begun closed name done traps) ?_ instrs
  intro x hx done k hk
  have hlast := hroom (xs.length - 1) (Nat.sub_lt (List.length_pos_of_mem hx) Nat.one_pos)
  have hread : Line.read k x.render = _ := (hxs x hx).read_render (hnames x hx) (by omega)
  exact step_clean ((hxs x hx).clean (hnames x hx)) (hlen x hx) hread _

theorem foldlM_traps {ts : List Trap} (hts : ∀ t ∈ ts, t.Named)
    (hlen : ∀ t ∈ ts, t.print.length < bufferSize) (number : Nat) :
    ((ts.map Trap.print).zipIdx number).foldlM (step file) (begun closed name instrs traps) =
      .ok (begun closed name instrs (traps ++ ts)) := by
  have hstep : ∀ t ∈ ts, ∀ done k, k < number + ts.length →
      step file (begun closed name instrs done) (t.print, k) = .ok (begun closed name instrs (done ++ [t])) := by
    intro t ht done k _
    exact step_clean (hts t ht).clean (hlen t ht) ((hts t ht).read_print k) _
  rw [foldlM_items Trap.print (fun _ t => t) (begun closed name instrs) hstep]
  exact congrArg (fun done => Except.ok (begun closed name instrs (traps ++ done))) (List.zipIdx_map_fst number ts)

end Steps

end Listing

/-- A body that `Body.make` made. -/
def Body.Made (b : Body) : Prop := ∃ xs, Body.make b.name b.file xs b.traps = .ok b

/-- A body that is read back from its lines. -/
structure Body.Printable (b : Body) : Prop where
  name : Word b.name ∧ Inline b.name
  instrs : ∀ x ∈ b.instrs, x.Legible
  labels : ∀ x ∈ b.instrs, ∀ l ∈ x.labels, Name l
  traps : ∀ t ∈ b.traps, t.Named
  short : ∀ line ∈ b.printLines, line.length < Listing.bufferSize
  made : b.Made

namespace Body

theorem Printable.clean {b : Body} (h : b.Printable) : ∀ line ∈ b.printLines, Clean line := by
  intro line hline
  rcases List.mem_append.mp hline with hline | hline
  · rcases List.mem_cons.mp hline with rfl | hline
    · rw [bodyLine_eq]
      exact (spaced_clean (by simp [keyword_body]) h.name).1
    · obtain ⟨x, hx, rfl⟩ := List.mem_map.mp hline
      exact (h.instrs x hx).clean (h.labels x hx)
  · obtain ⟨t, ht, rfl⟩ := List.mem_map.mp hline
    exact (h.traps t ht).clean

/-- The body as it is read from lines of its own, its first instruction on line `first`. -/
def reread (first : Nat) (b : Body) : Body := { b with instrs := numbered (onLines first b.instrs) }

/-- The body without the lines its instructions stand on. -/
def unlined (b : Body) : Body := { b with instrs := b.instrs.map fun x => { x with line := 0 } }

/-- Whether instructions make a body does not hang on where they stand. -/
theorem make_of_onLine {name file : Bytes} {xs ys : List Instr} {traps : List Trap} {b : Body}
    (hbare : xs.map (Instr.onLine 0) = ys.map (Instr.onLine 0)) (h : make name file xs traps = .ok b) :
    make name file ys traps = .ok ⟨name, file, numbered ys, traps⟩ := by
  obtain ⟨-, hrep, hun, hbad, hfall⟩ := make_eq_ok h
  have hsites : labelSites ys = labelSites xs := by
    have hmap := labelSites_map (f := Instr.onLine 0) fun _ => rfl
    rw [← hmap ys, ← hbare, hmap]
  have hjumps : unresolved? (labelSites xs) ys = unresolved? (labelSites xs) xs := by
    have hmap := unresolved?_map (f := Instr.onLine 0) fun _ => rfl
    rw [← hmap _ ys, ← hbare, hmap]
  have hend : fallingEnd? ys = fallingEnd? xs := by
    have hmap := fallingEnd?_map (f := Instr.onLine 0) fun _ => rfl
    rw [← hmap ys, ← hbare, hmap]
  have hsize : ys.length = xs.length := by
    simpa using (congrArg List.length hbare).symm
  simp only [make, hsites, hjumps, hend, hsize, hrep, hun, hbad, hfall]

theorem make_reread {b : Body} (h : b.Made) (first : Nat) :
    make b.name b.file (onLines first b.instrs) b.traps = .ok (b.reread first) := by
  obtain ⟨xs, hmake⟩ := h
  have hinstrs : b.instrs = numbered xs := by rw [(make_eq_ok hmake).1]
  refine make_of_onLine ?_ hmake
  rw [hinstrs]
  apply List.ext_getElem?
  intro i
  simp only [onLines, getElem?_numbered, List.getElem?_map, List.getElem?_zipIdx, Option.map_map]
  rfl

theorem reread_unlined {b : Body} (h : b.Made) (first : Nat) : (b.reread first).unlined = b.unlined := by
  obtain ⟨xs, hmake⟩ := h
  have hinstrs : b.instrs = numbered xs := by rw [(make_eq_ok hmake).1]
  unfold reread unlined
  rw [hinstrs]
  congr 1
  apply List.ext_getElem?
  intro i
  simp only [onLines, getElem?_numbered, List.getElem?_map, List.getElem?_zipIdx, Option.map_map]
  rfl

/-- The bodies as they are read from what is printed of them behind `above` lines. -/
def rereadAll : Nat → List Body → List Body
  | _, [] => []
  | above, b :: bs => b.reread (above + 2) :: rereadAll (above + b.printLines.length) bs

/-- No instruction of `c` stands further down than the one at its position in `b`. -/
def NoFurtherDown (b c : Body) : Prop :=
  ∀ (i : Nat) (x y : Instr), b.instrs[i]? = some x → c.instrs[i]? = some y → y.line ≤ x.line

/-- Printed behind `above` lines, no instruction comes to stand further down than it did. -/
def Raised : Nat → List Body → Prop
  | _, [] => True
  | above, b :: bs =>
    (∀ i x, b.instrs[i]? = some x → above + 2 + i ≤ x.line) ∧ Raised (above + b.printLines.length) bs

theorem rereadAll_unlined {bs : List Body} (h : ∀ b ∈ bs, b.Made) (above : Nat) :
    (rereadAll above bs).map unlined = bs.map unlined := by
  induction bs generalizing above with
  | nil => rfl
  | cons b bs ih =>
      rw [rereadAll, List.map_cons, List.map_cons, reread_unlined (h b List.mem_cons_self),
        ih fun c hc => h c (List.mem_cons_of_mem b hc)]

theorem Raised.noFurtherDown {above : Nat} {bs : List Body} (h : Raised above bs) :
    List.Forall₂ NoFurtherDown bs (rereadAll above bs) := by
  induction bs generalizing above with
  | nil => exact .nil
  | cons b bs ih =>
      refine .cons (fun i x y hx hy => ?_) (ih h.2)
      rw [reread, getElem?_numbered, onLines, List.getElem?_map, List.getElem?_zipIdx, hx] at hy
      cases hy
      exact h.1 i x hx

/-- What is printed of a body closes what stands before it, and is taken in line by line. -/
theorem Printable.foldlM_printLines {b : Body} (h : b.Printable) {above : Nat}
    (hroom : ∀ i < b.instrs.length, above + 2 + i ≤ Line.maxNumber) {p : Listing.Progress} {closed : List Body}
    (hclose : p.draft.close b.file = .ok closed) :
    (b.printLines.zipIdx (above + 1)).foldlM (Listing.step b.file) p =
      .ok (Listing.begun (p.bodies ++ closed) b.name (onLines (above + 2) b.instrs) b.traps) := by
  have hbody : bytes ".body " ++ b.name ∈ b.printLines := List.mem_append_left _ List.mem_cons_self
  have hinstrs : ∀ x ∈ b.instrs, x.render ∈ b.printLines := fun x hx =>
    List.mem_append_left _ (List.mem_cons_of_mem _ (List.mem_map.mpr ⟨x, hx, rfl⟩))
  have htraps : ∀ t ∈ b.traps, t.print ∈ b.printLines := fun t ht =>
    List.mem_append_right _ (List.mem_map.mpr ⟨t, ht, rfl⟩)
  have hopen : Listing.step b.file p (bytes ".body " ++ b.name, above + 1) =
      .ok (Listing.begun (p.bodies ++ closed) b.name [] []) := by
    rw [Listing.step_clean (h.clean _ hbody) (h.short _ hbody) (read_bodyLine h.name (above + 1)),
      Listing.Progress.add_body, hclose]
    rfl
  rw [printLines, List.zipIdx_append, List.zipIdx_cons, List.foldlM_append, List.foldlM_cons, hopen]
  change (((b.instrs.map Instr.render).zipIdx (above + 2)).foldlM _ _ >>= _) = _
  rw [Listing.foldlM_instrs h.instrs h.labels (fun x hx => h.short _ (hinstrs x hx)) hroom]
  exact Listing.foldlM_traps h.traps (fun t ht => h.short _ (htraps t ht)) _

theorem Printable.close_begun {b : Body} (h : b.Printable) (closed : List Body) (first : Nat) :
    (Listing.begun closed b.name (onLines first b.instrs) b.traps).draft.close b.file = .ok [b.reread first] := by
  have htitle : (Listing.begun closed b.name (onLines first b.instrs) b.traps).draft.title b.file = b.name :=
    if_neg (by simpa [Listing.begun] using h.name.1.nonempty)
  have hmake := make_reread h.made first
  unfold Draft.close
  rw [htitle]
  simp [Listing.begun, Draft.isVoid, hmake]

theorem foldlM_bodies {file : Bytes} {bs : List Body} (h : ∀ b ∈ bs, b.Printable ∧ b.file = file)
    (hnumbered : ∀ b ∈ bs, ∀ x ∈ b.instrs, x.line ≤ Line.maxNumber) {above : Nat} (hraised : Raised above bs)
    {p : Listing.Progress} {closed : List Body} (hclose : p.draft.close file = .ok closed) :
    ∃ q last, ((bs.flatMap printLines).zipIdx (above + 1)).foldlM (Listing.step file) p = .ok q ∧
      q.draft.close file = .ok last ∧ q.bodies ++ last = p.bodies ++ closed ++ rereadAll above bs := by
  induction bs generalizing above p closed with
  | nil => exact ⟨p, closed, rfl, hclose, (List.append_nil _).symm⟩
  | cons b bs ih =>
      obtain ⟨hb, rfl⟩ := h b List.mem_cons_self
      have hroom : ∀ i < b.instrs.length, above + 2 + i ≤ Line.maxNumber := fun i hi =>
        Nat.le_trans (hraised.1 i _ (List.getElem?_eq_getElem hi))
          (hnumbered b List.mem_cons_self _ (List.getElem_mem hi))
      obtain ⟨q, last, hrun, hlast, hall⟩ := ih (fun c hc => h c (List.mem_cons_of_mem b hc))
        (fun c hc => hnumbered c (List.mem_cons_of_mem b hc)) hraised.2
        (hb.close_begun (p.bodies ++ closed) (above + 2))
      refine ⟨q, last, ?_, hlast, ?_⟩
      · rw [List.flatMap_cons, List.zipIdx_append, List.foldlM_append, hb.foldlM_printLines hroom hclose,
          Nat.add_right_comm]
        exact hrun
      · rw [hall, rereadAll, Listing.begun, List.append_assoc, List.singleton_append]

theorem rawLines_printAll {bs : List Body} (h : ∀ b ∈ bs, b.Printable) :
    Listing.rawLines (printAll bs) = bs.flatMap printLines := by
  refine Listing.rawLines_feeds fun line hline => ?_
  obtain ⟨b, hb, hline⟩ := List.mem_flatMap.mp hline
  exact ((h b hb).clean line hline).inline.noFeed

/-- Printed bodies are read back, each from where it is printed. -/
theorem parse_printAll {file : Bytes} {bs : List Body} (h : ∀ b ∈ bs, b.Printable ∧ b.file = file)
    (hnumbered : ∀ b ∈ bs, ∀ x ∈ b.instrs, x.line ≤ Line.maxNumber) (hraised : Raised 0 bs) :
    Listing.parse file (printAll bs) = .ok (rereadAll 0 bs) := by
  have hvoid : ({} : Listing.Progress).draft.close file = .ok [] := rfl
  obtain ⟨q, last, hrun, hclose, hall⟩ := foldlM_bodies h hnumbered hraised hvoid
  rw [Listing.parse_eq, rawLines_printAll fun b hb => (h b hb).1, hrun]
  change Listing.finish _ _ _ = _
  rw [Listing.finish, hclose]
  exact congrArg Except.ok hall

end Body

section Parsed

theorem Draft.close_made {file : Bytes} {d : Draft} {closed : List Body} (h : d.close file = .ok closed) :
    ∀ b ∈ closed, b.Made := by
  unfold Draft.close at h
  split at h
  · cases h
    simp
  · split at h
    · cases h
    · split at h
      · next b hmake =>
          cases h
          obtain ⟨hb, -⟩ := Body.make_eq_ok hmake
          intro c hc
          rw [List.mem_singleton.mp hc]
          exact ⟨d.instrs, by rw [hb] at hmake ⊢; exact hmake⟩
      · cases h

theorem Listing.Progress.add_made {file : Bytes} {p q : Progress} {line : Line} (hp : ∀ b ∈ p.bodies, b.Made)
    (h : p.add file line = .ok q) : ∀ b ∈ q.bodies, b.Made := by
  cases line with
  | body name =>
      obtain ⟨closed, hclose, hq⟩ := bind_eq_ok.mp h
      cases hq
      intro b hb
      rcases List.mem_append.mp hb with hb | hb
      · exact hp b hb
      · exact Draft.close_made hclose b hb
  | trap t =>
      cases h
      exact hp
  | code labels instr => cases instr <;> cases h <;> exact hp

theorem Listing.parse_made {file src : Bytes} {bodies : List Body} (h : parse file src = .ok bodies) :
    ∀ b ∈ bodies, b.Made := by
  obtain ⟨p, closed, hrun, hclose, rfl⟩ := parse_eq_ok h
  have hp : ∀ b ∈ p.bodies, b.Made := by
    refine foldlM_invariant (P := fun p => ∀ b ∈ p.bodies, b.Made) ?_ (by simp) hrun
    intro line _ p q hp hstep
    obtain ⟨-, l, -, hadd⟩ := step_eq_ok hstep
    exact Progress.add_made hp hadd
  intro b hb
  rcases List.mem_append.mp hb with hb | hb
  · exact hp b hb
  · exact Draft.close_made hclose b hb

/-- The labels of a trap that resolves stand in the body. -/
theorem Trap.named_of_range {xs : List Instr} {size : Nat} {t : Trap} {r : TrapRange}
    (hnames : ∀ x ∈ xs, ∀ l ∈ x.labels, Name l) (h : t.range (labelSites xs) size = .ok r) : t.Named := by
  have hsite : ∀ l i, siteOf? (labelSites xs) l = some i → Name l := by
    intro l i hl
    obtain ⟨x, hx, hmem⟩ := siteOf?_labelSites hl
    exact hnames x (List.mem_of_getElem? hx) l hmem
  obtain ⟨hfirst, hpast, hhandler, -⟩ := Trap.range_eq_ok h
  refine ⟨hsite _ _ hfirst, ?_, hsite _ _ hhandler⟩
  split at hpast
  · next hempty => exact Or.inl (List.isEmpty_iff.mp hempty)
  · exact Or.inr (hsite _ _ hpast)

theorem Draft.Legible.printable {d : Draft} {file : Bytes} (h : d.Legible) (hopen : d.opened = true)
    (hmade : (d.body file).Made) (hsound : (d.body file).Sound)
    (hascii : ∀ x ∈ (d.body file).instrs, ∀ l ∈ x.labels, Ascii l)
    (hshort : ∀ line ∈ (d.body file).printLines, line.length < Listing.bufferSize) :
    (d.body file).Printable := by
  have htitle : (d.body file).name = d.name := if_neg (by simpa using (h.named hopen).1.nonempty)
  have hlegible : ∀ x ∈ (d.body file).instrs, x.Legible := by
    intro y hy
    obtain ⟨x, hx, i, rfl⟩ := mem_numbered hy
    have hx := h.instrs x hx
    exact ⟨hx.labels, hx.undotted, hx.nonempty, hx.trimmed, hx.inline, hx.unlabelled, hx.kind⟩
  have hnames : ∀ x ∈ (d.body file).instrs, ∀ l ∈ x.labels, Name l := by
    intro x hx l hl
    exact (hlegible x hx).labels.names l hl (hascii x hx l hl)
  refine ⟨?_, hlegible, hnames, ?_, hshort, hmade⟩
  · rw [htitle]
    exact h.named hopen
  · intro t ht
    obtain ⟨r, hr⟩ := hsound.ranged t ht
    exact Trap.named_of_range hnames hr

theorem Draft.length_printLines {d : Draft} (hopen : d.opened = true) (file : Bytes) :
    (d.body file).printLines.length = d.lineCount := by
  simp only [Body.printLines, Draft.body, Draft.lineCount, Draft.opening, hopen, if_true, List.length_append,
    List.length_cons, List.length_map, length_numbered]
  omega

/-- What is printed of drafts takes no more lines than the drafts did. -/
theorem Listing.Spaced.raised {file : Bytes} {ds : List Draft} {above : Nat} (h : Spaced above ds)
    (hopen : ∀ d ∈ ds, d.opened = true) : Body.Raised above (ds.map (Draft.body file)) := by
  induction ds generalizing above with
  | nil => trivial
  | cons d ds ih =>
      obtain ⟨hbelow, hrest⟩ := h
      have hd := hopen d List.mem_cons_self
      refine ⟨fun i y hy => ?_, ?_⟩
      · rw [Draft.body, getElem?_numbered] at hy
        obtain ⟨x, hx, rfl⟩ := Option.map_eq_some_iff.mp hy
        have hlt := hbelow i x hx
        rw [Draft.opening, if_pos hd] at hlt
        dsimp only
        omega
      · rw [Draft.length_printLines hd]
        exact ih hrest fun e he => hopen e (List.mem_cons_of_mem d he)

end Parsed

/-- Bodies that a listing opens with `.body` lines and labels in ASCII are read back from what is printed of
them, if every printed line fits the reading buffer: with the same names, instructions and traps in the same
order, and only the lines of the instructions changed, none of which comes to stand further down. -/
theorem Listing.printed_bodies_read_back {file src : Bytes} {bodies : List Body} {ds : List Draft}
    (hparse : parse file src = .ok bodies) (hdrafts : drafts src = some ds)
    (hopen : ∀ d ∈ ds, d.opened = true)
    (hascii : ∀ b ∈ bodies, ∀ x ∈ b.instrs, ∀ l ∈ x.labels, ∀ c ∈ l, c < 0x80)
    (hshort : ∀ b ∈ bodies, ∀ line ∈ b.printLines, line.length < 65536) :
    ∃ again, parse file (Body.printAll bodies) = .ok again ∧
      again.map Body.unlined = bodies.map Body.unlined ∧ List.Forall₂ Body.NoFurtherDown bodies again := by
  obtain ⟨ds', hds', hbodies⟩ := parse_drafts hparse
  rw [hdrafts] at hds'
  cases hds'
  obtain rfl := Except.ok.inj (hparse.symm.trans (hbodies file))
  have hsound := parse_sound hparse
  have hmade := parse_made hparse
  have hnumbered := (forall_instrLines hparse).mp (parse_numbered hparse)
  have hraised : Body.Raised 0 (ds.map (Draft.body file)) := (drafts_spaced hdrafts).raised hopen
  have hprintable : ∀ b ∈ ds.map (Draft.body file), b.Printable ∧ b.file = file := by
    intro b hb
    have hb' := hb
    obtain ⟨d, hd, rfl⟩ := List.mem_map.mp hb'
    exact ⟨(drafts_legible hdrafts d hd).printable (hopen d hd) (hmade _ hb) (hsound _ hb) (hascii _ hb)
      (hshort _ hb), rfl⟩
  exact ⟨_, Body.parse_printAll hprintable hnumbered hraised, Body.rereadAll_unlined hmade 0, hraised.noFurtherDown⟩

/-- Labels on lines of their own and in a row, one of them a KELVIN SIGN, a text with `:=`, one that begins with
a dot, a trap among the instructions, and a second body. -/
def kelvinListing : Bytes :=
  bytes ".body m # one\n\u212A:\nb: .c: x:=1\n.trap K - e\nif p goto b\ne: .y = :\nreturn\n.body n\nthrow x"

theorem Listing.kelvin_listing_read_back : ∃ bodies again,
    parse (bytes "m.bbl") kelvinListing = .ok bodies ∧
    Body.printAll bodies =
      bytes ".body m\nK: b: .c: x:=1\nif p goto b\ne: .y = :\nreturn\n.trap K - e\n.body n\nthrow x\n" ∧
    parse (bytes "m.bbl") (Body.printAll bodies) = .ok again ∧
    again.map Body.unlined = bodies.map Body.unlined := by
  obtain ⟨bodies, hparse, hfacts⟩ := map_eq_ok.mp (by decide +kernel :
    (parse (bytes "m.bbl") kelvinListing).map (fun bodies => (Body.printAll bodies,
      decide (∀ b ∈ bodies, ∀ x ∈ b.instrs, ∀ l ∈ x.labels, ∀ c ∈ l, c < 0x80),
      decide (∀ b ∈ bodies, ∀ line ∈ b.printLines, line.length < 65536))) =
    .ok (bytes ".body m\nK: b: .c: x:=1\nif p goto b\ne: .y = :\nreturn\n.trap K - e\n.body n\nthrow x\n",
      true, true))
  obtain ⟨ds, hdrafts, hopen⟩ := Option.map_eq_some_iff.mp (by decide +kernel :
    (drafts kelvinListing).map (fun ds => decide (∀ d ∈ ds, d.opened = true)) = some true)
  obtain ⟨hprint, hfacts⟩ := Prod.mk.inj hfacts
  obtain ⟨hascii, hshort⟩ := Prod.mk.inj hfacts
  obtain ⟨again, hagain, heq, -⟩ := printed_bodies_read_back hparse hdrafts (of_decide_eq_true hopen)
    (of_decide_eq_true hascii) (of_decide_eq_true hshort)
  exact ⟨bodies, again, hparse, hprint, hagain, heq⟩

end FlowBlocks
