import FlowBlocks.Proofs.Listing.Sound
/-!
Changes to instructions that putting bodies together does not see. The checks of a body look at labels, targets
and kinds alone, so whatever else of the instructions is changed can be changed before or after a draft is
closed and a line is taken in.
-/
namespace FlowBlocks

/-- A change that leaves alone what the checks look at, and hands a position and labels through. -/
structure Instr.Recast (f : Instr → Instr) : Prop where
  labels : ∀ x, (f x).labels = x.labels
  op : ∀ x, (f x).op = x.op
  targets : ∀ x, (f x).targets = x.targets
  indexed : ∀ x i, f { x with index := i } = { f x with index := i }
  labelled : ∀ x ls, f { x with labels := ls } = { f x with labels := ls }

def Body.recast (f : Instr → Instr) (b : Body) : Body := { b with instrs := b.instrs.map f }

def Draft.recast (f : Instr → Instr) (d : Draft) : Draft := { d with instrs := d.instrs.map f }

def Line.recast (f : Instr → Instr) : Line → Line
  | .body name => .body name
  | .trap t => .trap t
  | .code labels x => .code labels (x.map f)

def Listing.Progress.recast (f : Instr → Instr) (p : Listing.Progress) : Listing.Progress :=
  ⟨p.bodies.map (Body.recast f), p.draft.recast f⟩

namespace Instr.Recast

variable {f : Instr → Instr} (hf : Instr.Recast f)

include hf

theorem numbered_map (xs : List Instr) : numbered (xs.map f) = (numbered xs).map f := by
  rw [numbered, numbered, List.zipIdx_map, List.map_map, List.map_map]
  exact List.map_congr_left fun x _ => (hf.indexed x.1 x.2).symm

theorem make_map (name file : Bytes) (xs : List Instr) (traps : List Trap) :
    Body.make name file (xs.map f) traps = (Body.make name file xs traps).map (Body.recast f) := by
  have hsites := labelSites_map hf.labels xs
  have hjumps := unresolved?_map hf.targets (labelSites xs) xs
  have hend := fallingEnd?_map hf.op xs
  simp only [Body.make, hsites, hjumps, hend, hf.numbered_map, List.length_map]
  split
  · rfl
  · split
    · rfl
    · split
      · rfl
      · split <;> rfl

theorem close_recast (file : Bytes) (d : Draft) :
    (d.recast f).close file = (d.close file).map (List.map (Body.recast f)) := by
  have hvoid : (d.recast f).isVoid = d.isVoid := by simp [Draft.isVoid, Draft.recast]
  have htitle : (d.recast f).title file = d.title file := rfl
  have hmake := hf.make_map (d.title file) file d.instrs d.traps
  rw [Draft.close, Draft.close, hvoid, htitle]
  generalize d.title file = title at hmake ⊢
  obtain ⟨name, opened, instrs, traps, pending⟩ := d
  dsimp only [Draft.recast] at hmake ⊢
  rw [hmake]
  split
  · rfl
  · cases pending with
    | cons l ls => rfl
    | nil => cases Body.make title file instrs traps <;> rfl

theorem add_recast (file : Bytes) (p : Listing.Progress) (line : Line) :
    (p.recast f).add file (line.recast f) = (p.add file line).map (Listing.Progress.recast f) := by
  cases line with
  | body name =>
      change ((p.draft.recast f).close file >>= _) = ((p.draft.close file >>= _ : Except _ _)).map _
      rw [hf.close_recast]
      cases p.draft.close file with
      | error e => rfl
      | ok closed =>
          change Except.ok _ = Except.ok _
          simp [Listing.Progress.recast, Draft.recast]
  | trap t => rfl
  | code labels x =>
      cases x with
      | none => rfl
      | some x =>
          have hlabels := hf.labelled x (p.draft.pending ++ labels)
          change Except.ok _ = Except.ok _
          simp [Listing.Progress.recast, Draft.recast, hlabels]

end Instr.Recast

end FlowBlocks
