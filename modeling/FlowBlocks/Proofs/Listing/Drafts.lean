import FlowBlocks.Proofs.Listing.Sound
/-!
What a listing says apart from the file it stands in. Its drafts are put together from the lines alone; a
file only lends its stem to the draft that no `.body` line opens. A listing that is read from one file is
read from any, and the bodies come from the same drafts.
-/
namespace FlowBlocks

namespace Draft

/-- The body that a draft makes in a file. -/
def body (file : Bytes) (d : Draft) : Body := ⟨d.title file, file, numbered d.instrs, d.traps⟩

/-- The draft itself, unless it is void. -/
def kept (d : Draft) : List Draft := if d.isVoid then [] else [d]

/-- Whether a draft closes does not hang on the file. -/
theorem close_eq_ok {file : Bytes} {d : Draft} {closed : List Body} (h : d.close file = .ok closed) :
    closed = d.kept.map (body file) ∧ ∀ other, d.close other = .ok (d.kept.map (body other)) := by
  unfold close at h
  unfold kept
  split at h
  · next hvoid =>
      cases h
      rw [if_pos hvoid]
      refine ⟨rfl, fun other => ?_⟩
      rw [close, if_pos hvoid]
      rfl
  · next hvoid =>
      rw [if_neg hvoid]
      split at h
      · cases h
      · next hpending =>
          split at h
          · next b hmake =>
              cases h
              obtain ⟨hb, hrep, hun, hbad, hfall⟩ := Body.make_eq_ok hmake
              refine ⟨by rw [hb]; rfl, fun other => ?_⟩
              rw [close, if_neg hvoid, hpending]
              simp only [Body.make, hrep, hun, hbad, hfall]
              rfl
          · cases h

end Draft

namespace Listing

/-- The drafts closed so far and the one in the making. -/
structure Sketch where
  closed : List Draft := []
  draft : Draft := {}

namespace Sketch

/-- What the drafts amount to in a file. -/
def progress (file : Bytes) (q : Sketch) : Progress := ⟨q.closed.map (Draft.body file), q.draft⟩

/-- Takes in what a line says. -/
def add (q : Sketch) : Line → Sketch
  | .body name => ⟨q.closed ++ q.draft.kept, { name, opened := true }⟩
  | .trap t => { q with draft.traps := q.draft.traps ++ [t] }
  | .code labels none => { q with draft.pending := q.draft.pending ++ labels }
  | .code labels (some x) =>
    let x := { x with labels := q.draft.pending ++ labels }
    { q with draft.instrs := q.draft.instrs ++ [x], draft.pending := [] }

def step (q : Sketch) (line : Bytes × Nat) : Option Sketch :=
  (Line.read line.2 (dropReturn line.1)).toOption.map q.add

theorem add_eq_ok {file : Bytes} {q : Sketch} {line : Line} {p : Progress}
    (h : (q.progress file).add file line = .ok p) :
    p = (q.add line).progress file ∧
      ∀ other, (q.progress other).add other line = .ok ((q.add line).progress other) := by
  cases line with
  | body name =>
      obtain ⟨closed, hclose, hp⟩ := bind_eq_ok.mp h
      obtain ⟨hclosed, hother⟩ := Draft.close_eq_ok hclose
      cases hp
      refine ⟨?_, fun other => ?_⟩
      · rw [hclosed]
        simp only [progress, add, List.map_append]
      · have hclose' : q.draft.close other = .ok (q.draft.kept.map (Draft.body other)) := hother other
        simp only [Progress.add, progress, add, List.map_append, hclose']
        rfl
  | trap t =>
      cases h
      exact ⟨rfl, fun _ => rfl⟩
  | code labels instr =>
      cases instr with
      | none =>
          cases h
          exact ⟨rfl, fun _ => rfl⟩
      | some x =>
          cases h
          exact ⟨rfl, fun _ => rfl⟩

theorem step_eq_ok {file : Bytes} {q : Sketch} {line : Bytes × Nat} {p : Progress}
    (h : Listing.step file (q.progress file) line = .ok p) :
    ∃ q', q.step line = some q' ∧ p = q'.progress file ∧
      ∀ other, Listing.step other (q.progress other) line = .ok (q'.progress other) := by
  obtain ⟨hlen, l, hread, hadd⟩ := Listing.step_eq_ok h
  obtain ⟨hp, hother⟩ := add_eq_ok hadd
  refine ⟨q.add l, ?_, hp, fun other => ?_⟩
  · rw [step, hread]
    rfl
  · have hbind : (Line.read line.2 (dropReturn line.1) >>= (q.progress other).add other) =
        .ok ((q.add l).progress other) := by
      rw [hread]
      exact hother other
    rw [Listing.step, if_neg (Nat.not_le.mpr hlen), hbind]

theorem foldlM_eq_ok {file : Bytes} {lines : List (Bytes × Nat)} {q : Sketch} {p : Progress}
    (h : lines.foldlM (Listing.step file) (q.progress file) = .ok p) :
    ∃ q', lines.foldlM step q = some q' ∧ p = q'.progress file ∧
      ∀ other, lines.foldlM (Listing.step other) (q.progress other) = .ok (q'.progress other) := by
  induction lines generalizing q with
  | nil =>
      cases h
      exact ⟨q, rfl, rfl, fun _ => rfl⟩
  | cons line lines ih =>
      rw [List.foldlM_cons] at h
      obtain ⟨p₁, hstep, hrest⟩ := bind_eq_ok.mp h
      obtain ⟨q₁, hq₁, rfl, hother₁⟩ := step_eq_ok hstep
      obtain ⟨q', hq', hp, hother⟩ := ih hrest
      refine ⟨q', ?_, hp, fun other => ?_⟩
      · rw [List.foldlM_cons, hq₁]
        exact hq'
      · rw [List.foldlM_cons, hother₁ other]
        exact hother other

end Sketch

/-- The drafts of a listing, as its lines say, or nothing where a line cannot be read. -/
def drafts (src : Bytes) : Option (List Draft) :=
  (((rawLines src).zipIdx 1).foldlM Sketch.step {}).map fun q => q.closed ++ q.draft.kept

/-- Some body of the listing takes its name from the file. -/
def Unnamed (src : Bytes) : Prop := ∃ ds, drafts src = some ds ∧ ∃ d ∈ ds, d.name = []

/-- A listing that is read has drafts, and from any file it gives the bodies that they make there. -/
theorem parse_drafts {file src : Bytes} {bodies : List Body} (h : parse file src = .ok bodies) :
    ∃ ds, drafts src = some ds ∧ ∀ other, parse other src = .ok (ds.map (Draft.body other)) := by
  obtain ⟨p, closed, hrun, hclose, -⟩ := parse_eq_ok h
  obtain ⟨q, hq, rfl, hother⟩ := Sketch.foldlM_eq_ok (q := {}) hrun
  obtain ⟨-, hcloses⟩ := Draft.close_eq_ok hclose
  refine ⟨q.closed ++ q.draft.kept, ?_, fun other => ?_⟩
  · rw [drafts, hq]
    rfl
  · have hrun' : ((rawLines src).zipIdx 1).foldlM (step other) {} = .ok (q.progress other) := hother other
    have hclose' : (q.progress other).draft.close other = .ok (q.draft.kept.map (Draft.body other)) :=
      hcloses other
    rw [List.map_append]
    change (((rawLines src).zipIdx 1).foldlM (step other) {} >>= _) = _
    rw [hrun']
    simp only [Bind.bind, Except.bind, hclose']
    rfl

/-- Two files give the bodies of a listing the same names exactly if they have one stem or the listing
names every body itself. -/
theorem names_eq_iff {file other src : Bytes} {ds : List Draft} (h : drafts src = some ds) :
    (ds.map (Draft.body file)).map Body.name = (ds.map (Draft.body other)).map Body.name ↔
      (Path.stem file = Path.stem other ∨ ¬Unnamed src) := by
  rw [List.map_map, List.map_map, List.map_inj_left]
  constructor
  · intro heq
    by_cases hun : Unnamed src
    · obtain ⟨ds', hds', d, hd, hname⟩ := hun
      rw [h] at hds'
      cases hds'
      have htitle := heq d hd
      simp only [Function.comp, Draft.body, Draft.title, hname, List.isEmpty_nil, if_true] at htitle
      exact Or.inl htitle
    · exact Or.inr hun
  · intro hcond d hd
    change Draft.title file d = Draft.title other d
    unfold Draft.title
    split
    · next hempty =>
        rcases hcond with hstem | hnamed
        · exact hstem
        · exact absurd ⟨ds, h, d, hd, List.isEmpty_iff.mp hempty⟩ hnamed
    · rfl

end Listing

end FlowBlocks
