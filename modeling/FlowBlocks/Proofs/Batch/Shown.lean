import FlowBlocks.Proofs.Batch.Results
import FlowBlocks.Proofs.Listing.Drafts
import FlowBlocks.Proofs.Record.Canonical
/-!
What is shown of a file: its failure, and of each body the name, the outline and the text of a failure. A
record that fits keeps all of it. Building a listing from two files shows the same unless a body takes its
name from the file.
-/
namespace FlowBlocks

/-- What is shown of a body: its name, its outline, and the text of its failure. -/
structure BodyView where
  name : Bytes
  outline : Option Outline
  error : Option Bytes
deriving DecidableEq, Repr

/-- What is shown of a file: its failure, and what is shown of its bodies. -/
structure FileView where
  failure : Option FileFailure
  bodies : List BodyView
deriving DecidableEq, Repr

def BodyResult.shown (r : BodyResult) : BodyView :=
  ⟨r.name, r.outline, r.failure.map BodyFailure.message⟩

def FileResult.shown (r : FileResult) : FileView := ⟨r.failure, r.bodies.map BodyResult.shown⟩

theorem Body.flowGraph_congr {b c : Body} (hi : b.instrs = c.instrs) (ht : b.traps = c.traps)
    (k : GraphKind) : b.flowGraph k = c.flowGraph k := by
  obtain ⟨name, file, instrs, traps⟩ := b
  obtain ⟨name', file', instrs', traps'⟩ := c
  dsimp only at hi ht
  subst hi ht
  rfl

theorem Body.handlers_congr {b c : Body} (hi : b.instrs = c.instrs) (ht : b.traps = c.traps) :
    b.handlers = c.handlers := by
  unfold handlers find?
  rw [hi, ht]

/-- The name of an outline is the only thing in it that comes from a name. -/
theorem Outline.ofFlow_name {U : Type} (render : U → Bytes) (name other : Bytes) (f : BlockFlow U) :
    ofFlow render name f = (ofFlow render other f).map fun o => { o with name } := by
  unfold ofFlow
  split
  · rfl
  · cases f.blocks.mapM OutlineBlock.ofBlock with
    | error e => rfl
    | ok blocks =>
        cases f.heads.mapM (toWord (bytes "heads")) with
        | error e => rfl
        | ok heads =>
            cases f.tails.mapM (toWord (bytes "tails")) with
            | error e => rfl
            | ok tails =>
                cases f.orphans.mapM (toWord (bytes "orphans")) with
                | error e => rfl
                | ok orphans => rfl

/-- Orphans are listed only where there are any. -/
theorem Outline.ofFlow_orphans {U : Type} {render : U → Bytes} {name : Bytes} {f : BlockFlow U} {o : Outline}
    (h : ofFlow render name f = .ok o) : o.orphans ≠ some [] := by
  unfold ofFlow at h
  split at h
  · cases h
    nofun
  · obtain ⟨blocks, -, h⟩ := bind_eq_ok.mp h
    obtain ⟨heads, -, h⟩ := bind_eq_ok.mp h
    obtain ⟨tails, -, h⟩ := bind_eq_ok.mp h
    obtain ⟨orphans, -, h⟩ := bind_eq_ok.mp h
    cases h
    cases orphans <;> simp

namespace Batch

/-- What is shown of a body, under another name. -/
def titled (name : Bytes) (v : BodyView) : BodyView :=
  { v with name, outline := v.outline.map fun o => { o with name } }

theorem bodyResult_shown (o : BatchOptions) {b c : Body} (hi : b.instrs = c.instrs)
    (flow : Except (BuildError Nat) (BlockFlow Nat)) :
    (bodyResult o b flow).shown = titled b.name (bodyResult o c flow).shown := by
  have hrender : renderAt b = renderAt c := by
    funext i
    rw [renderAt, renderAt, hi]
  unfold bodyResult
  cases flow with
  | error e => rfl
  | ok f =>
      dsimp only
      rw [Outline.ofFlow_name (renderAt b) b.name c.name f, hrender]
      cases Outline.ofFlow (renderAt c) c.name f with
      | error e => rfl
      | ok outline => rfl

theorem bodyOutcome_shown (o : BatchOptions) {b c : Body} (hi : b.instrs = c.instrs)
    (ht : b.traps = c.traps) :
    (bodyOutcome o b).shown = titled b.name (bodyOutcome o c).shown := by
  rw [bodyOutcome, bodyOutcome, Body.flowGraph_congr hi ht, Body.handlers_congr hi ht]
  exact bodyResult_shown o hi _

theorem bodyOutcome_name (o : BatchOptions) (b : Body) : (bodyOutcome o b).name = b.name := by
  unfold bodyOutcome bodyResult
  split
  · rfl
  · split <;> rfl

theorem built_shown {o : BatchOptions} {path src : Bytes} {bodies : List Body}
    (h : Listing.parse path src = .ok bodies) :
    (built o path src).shown = ⟨none, bodies.map fun b => (bodyOutcome o b).shown⟩ := by
  rw [built, h, FileResult.shown, List.map_map]
  rfl

/-- Two files that hold one listing show the same exactly if they have one stem or the listing names every
body itself. -/
theorem built_shown_iff {o : BatchOptions} {file path src : Bytes} {bodies : List Body}
    (h : Listing.parse file src = .ok bodies) :
    (built o file src).shown = (built o path src).shown ↔
      (Path.stem file = Path.stem path ∨ ¬Listing.Unnamed src) := by
  obtain ⟨ds, hds, hparse⟩ := Listing.parse_drafts h
  rw [built_shown (hparse file), built_shown (hparse path), ← Listing.names_eq_iff hds]
  constructor
  · intro heq
    have hnames := congrArg (List.map BodyView.name) (FileView.mk.inj heq).2
    simpa only [List.map_map, Function.comp_def, BodyResult.shown, bodyOutcome_name] using hnames
  · intro hnames
    rw [List.map_map, List.map_map, List.map_inj_left] at hnames
    rw [List.map_map, List.map_map]
    refine congrArg (FileView.mk none) (List.map_congr_left fun d hd => ?_)
    have htitle : (d.body file).name = (d.body path).name := hnames d hd
    have hfile := bodyOutcome_shown o (b := d.body file) (c := d.body path) rfl rfl
    have hpath := bodyOutcome_shown o (b := d.body path) (c := d.body path) rfl rfl
    rw [htitle] at hfile
    exact hfile.trans hpath.symm

theorem fault_message_ne_nil (r : FaultReport) : (BodyFailure.fault r).message ≠ [] := by
  intro h
  simp only [BodyFailure.message, FaultReport.message, List.append_eq_nil_iff] at h
  exact absurd h.1.1.1.1 (by decide)

theorem outline_message_ne_nil (e : OutlineError) : (BodyFailure.outline e).message ≠ [] := by
  intro h
  simp only [BodyFailure.message, List.append_eq_nil_iff] at h
  exact absurd h.1 (by decide)

/-- A record keeps what is shown of a body: no failure has an empty text. -/
theorem ofBodyRecord_shown (o : BatchOptions) (b : Body) :
    (ofBodyRecord (bodyRecord (bodyOutcome o b))).shown = (bodyOutcome o b).shown := by
  have hkept : ∀ r : BodyResult, (∀ f, r.failure = some f → f.message ≠ []) →
      (ofBodyRecord (bodyRecord r)).shown = r.shown := by
    intro r hr
    cases hf : r.failure with
    | none => simp [ofBodyRecord, bodyRecord, BodyResult.shown, hf]
    | some f =>
        have hsome : f.message.isEmpty = false := by simpa using hr f hf
        simp only [ofBodyRecord, bodyRecord, BodyResult.shown, hf, Option.map_some, Option.getD_some, hsome,
          Bool.false_eq_true, if_false]
        rfl
  refine hkept _ fun f hf => ?_
  unfold bodyOutcome bodyResult at hf
  split at hf
  · cases hf
    exact fault_message_ne_nil _
  · split at hf
    · cases hf
      exact outline_message_ne_nil _
    · cases hf

theorem bodyRecord_listed (o : BatchOptions) (b : Body) : (bodyRecord (bodyOutcome o b)).Listed := by
  intro outline h
  unfold bodyOutcome bodyResult bodyRecord at h
  split at h
  · cases h
  · split at h
    · cases h
    · next hflow =>
        cases h
        exact Outline.ofFlow_orphans hflow

section Records

variable {o : BatchOptions} {file src : Bytes} {bodies : List Body}

/-- Whatever is read back from the record of a listing is that record. -/
theorem decode_record {now : Int64} {r : Record} (hparse : Listing.parse file src = .ok bodies)
    (hfit : (record o (built o file src)).Fits)
    (h : Record.decode ((record o (built o file src)).stamped now).encode = .ok r) :
    r = (record o (built o file src)).stamped now := by
  have hlisted : ∀ b ∈ (record o (built o file src)).bodies.getD [], b.Listed := by
    intro b hb
    rw [built, hparse] at hb
    simp only [record, Option.getD_some, List.map_map, List.mem_map] at hb
    obtain ⟨c, -, rfl⟩ := hb
    exact bodyRecord_listed o c
  have hread := record_append (r := (record o (built o file src)).stamped now) hfit hlisted []
  rw [List.append_nil] at hread
  rw [Record.decode, hread] at h
  exact (Record.checked_eq_ok h).1

/-- A listing that is served shows what was shown when it was built. -/
theorem served_shown (hparse : Listing.parse file src = .ok bodies) (path : Bytes) (now : Int64) :
    (served path ((record o (built o file src)).stamped now)).shown = (built o file src).shown := by
  rw [built_shown hparse]
  have hbodies : (built o file src).bodies = bodies.map (bodyOutcome o) := by rw [built, hparse]
  simp only [served, Record.stamped, record, hbodies, Option.getD_some, FileResult.shown, List.map_map]
  exact congrArg (FileView.mk none) (List.map_congr_left fun b _ => ofBodyRecord_shown o b)

end Records

end Batch

end FlowBlocks
