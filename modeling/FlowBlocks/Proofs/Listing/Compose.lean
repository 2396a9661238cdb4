import FlowBlocks.Proofs.Bytes
import FlowBlocks.Proofs.Listing.Origins
import FlowBlocks.Proofs.Listing.Recast
/-!
Listings one behind the other. A `.body` line closes what stands before it and carries nothing over, so a
listing that opens with one is read behind another as it is read alone, with every line number moved down, as
far as line numbers go: an instruction that comes to stand past the last of them cannot be read. The reading
of the second listing is followed step by step from both starts.
-/
namespace FlowBlocks

section Down

def Instr.down (n : Nat) (x : Instr) : Instr := { x with line := x.line + n }

/-- The body as it is read `n` lines further down. -/
def Body.down (n : Nat) (b : Body) : Body := { b with instrs := b.instrs.map (Instr.down n) }

def Draft.down (n : Nat) (d : Draft) : Draft := { d with instrs := d.instrs.map (Instr.down n) }

def Line.down (n : Nat) : Line → Line
  | .body name => .body name
  | .trap t => .trap t
  | .code labels x => .code labels (x.map (Instr.down n))

/-- The same complaint, `n` lines further down. -/
def ListingError.down (n : Nat) : ListingError → ListingError
  | .malformed line e => .malformed (line + n) e
  | .lineTooLong => .lineTooLong

/-- A reading `n` lines further down, behind bodies that are closed already. -/
def Listing.Progress.behind (before : List Body) (n : Nat) (p : Listing.Progress) : Listing.Progress :=
  ⟨before ++ p.bodies.map (Body.down n), p.draft.down n⟩

variable (n : Nat)

theorem Instr.recast_down : Instr.Recast (Instr.down n) :=
  ⟨fun _ => rfl, fun _ => rfl, fun _ => rfl, fun _ _ => rfl, fun _ _ => rfl⟩

theorem Draft.close_down (file : Bytes) (d : Draft) :
    (d.down n).close file = (d.close file).map (List.map (Body.down n)) :=
  (Instr.recast_down n).close_recast file d

end Down

namespace Line

theorem readDirective_down (n : Nat) (ws : List Bytes) :
    (readDirective ws).map (Line.down n) = readDirective ws := by
  unfold readDirective
  split
  · split
    · split <;> rfl
    · split
      · split <;> rfl
      · rfl
  · rfl

/-- The number of a line goes nowhere but into its instruction, which must not come to stand too far down. -/
theorem read_add {number n : Nat} {raw : Bytes} (hfit : isInstr raw = true → number + n ≤ maxNumber) :
    read (number + n) (Listing.dropReturn raw) =
      (read number (Listing.dropReturn raw)).map (Line.down n) := by
  cases hcode : isCode raw with
  | false => rw [read_eq_directive hcode, read_eq_directive hcode, readDirective_down]
  | true =>
      rw [read_eq_code hcode, read_eq_code hcode]
      split
      · next hinstr =>
          have hfit := hfit hinstr
          rw [if_neg (by omega), if_neg (by omega)]
          cases readOp (remainder raw) <;> rfl
      · rfl

theorem isInstr_of_body {number : Nat} {raw name : Bytes}
    (h : read number (Listing.dropReturn raw) = .ok (.body name)) : isInstr raw = false := by
  obtain ⟨-, ⟨hbare, -⟩ | ⟨-, -, x, hx, -⟩⟩ := read_origin h
  · exact hbare
  · cases hx

end Line

namespace Listing

section Lines

theorem rawLines_append_feed (s t : Bytes) :
    rawLines (s ++ 10 :: t) = Bytes.splitOn 10 s ++ rawLines t := by
  have hlast : (Bytes.splitOn 10 s ++ Bytes.splitOn 10 t).getLast? = (Bytes.splitOn 10 t).getLast? := by
    rw [List.getLast?_append, List.getLast?_eq_some_getLast (splitOn_ne_nil 10 t)]
    rfl
  unfold rawLines
  rw [splitOn_append]
  dsimp only
  rw [hlast]
  split
  · exact List.dropLast_append_of_ne_nil (splitOn_ne_nil 10 t)
  · rfl

/-- Behind a line feed the lines of a listing are its own. -/
theorem rawLines_append {a : Bytes} (ha : a = [] ∨ a.getLast? = some 10) (b : Bytes) :
    rawLines (a ++ b) = rawLines a ++ rawLines b := by
  rcases ha with rfl | ha
  · rfl
  · obtain ⟨s, rfl⟩ := List.getLast?_eq_some_iff.mp ha
    rw [List.append_assoc, List.singleton_append, rawLines_append_feed, rawLines_append_feed]
    congr 1
    exact (List.append_nil _).symm

theorem rawLines_feeds {lines : List Bytes} (h : ∀ line ∈ lines, 10 ∉ line) :
    rawLines (lines.flatMap (· ++ [10])) = lines := by
  induction lines with
  | nil => decide
  | cons line lines ih =>
      rw [List.flatMap_cons, List.append_assoc, List.singleton_append, rawLines_append_feed,
        splitOn_eq_singleton (h line List.mem_cons_self), ih fun l hl => h l (List.mem_cons_of_mem line hl)]
      rfl

/-- A numbered line, `n` lines further down. -/
def lower (n : Nat) : Bytes × Nat → Bytes × Nat := Prod.map id (· + n)

theorem zipIdx_lower (n : Nat) (lines : List Bytes) :
    lines.zipIdx (1 + n) = (lines.zipIdx 1).map (lower n) := by
  rw [Nat.add_comm]
  exact List.map_snd_add_zipIdx_eq_zipIdx.symm

/-- Every instruction still has a line number `n` lines further down. -/
def Lowerable (n : Nat) (lines : List (Bytes × Nat)) : Prop :=
  ∀ line ∈ lines, Line.isInstr line.1 = true → line.2 + n ≤ Line.maxNumber

theorem mem_instrLines {lines : List Bytes} {k : Nat} :
    k ∈ instrLines lines ↔ ∃ raw, (raw, k) ∈ lines.zipIdx 1 ∧ Line.isInstr raw = true := by
  simp only [instrLines, List.mem_map, List.mem_filter, Prod.exists]
  constructor
  · rintro ⟨raw, _, h, rfl⟩
    exact ⟨raw, h⟩
  · rintro ⟨raw, h⟩
    exact ⟨raw, k, h, rfl⟩

theorem lowerable_iff {n : Nat} {lines : List Bytes} :
    Lowerable n (lines.zipIdx 1) ↔ ∀ k ∈ instrLines lines, k + n ≤ Line.maxNumber := by
  constructor
  · intro h k hk
    obtain ⟨raw, hmem, hinstr⟩ := mem_instrLines.mp hk
    exact h (raw, k) hmem hinstr
  · intro h line hmem hinstr
    exact h line.2 (mem_instrLines.mpr ⟨line.1, hmem, hinstr⟩)

theorem le_of_mem_instrLines {lines : List Bytes} {k : Nat} (h : k ∈ instrLines lines) : k ≤ lines.length := by
  obtain ⟨raw, hmem, -⟩ := mem_instrLines.mp h
  have hlt := List.snd_lt_of_mem_zipIdx hmem
  dsimp only at hlt
  omega

theorem add_mem_instrLines {front back : List Bytes} {k : Nat} (h : k ∈ instrLines back) :
    k + front.length ∈ instrLines (front ++ back) := by
  obtain ⟨raw, hmem, hinstr⟩ := mem_instrLines.mp h
  refine mem_instrLines.mpr ⟨raw, ?_, hinstr⟩
  rw [List.zipIdx_append, zipIdx_lower]
  exact List.mem_append_right _ (List.mem_map.mpr ⟨(raw, k), hmem, rfl⟩)

/-- What stands in front of a numbered line has smaller numbers. -/
theorem lt_of_zipIdx {lines : List Bytes} {front back : List (Bytes × Nat)} {line : Bytes × Nat}
    (h : lines.zipIdx 1 = front ++ line :: back) : ∀ l ∈ front, l.2 < line.2 := by
  have hsorted : (lines.zipIdx 1).Pairwise fun l m => l.2 < m.2 := by
    rw [← List.pairwise_map (f := Prod.snd), List.zipIdx_map_snd]
    exact List.pairwise_lt_range' 1
  rw [h] at hsorted
  exact fun l hl => (List.pairwise_append.mp hsorted).2.2 l hl line List.mem_cons_self

end Lines

section Step

variable {file line : Bytes} {number : Nat} (p : Progress)

theorem step_tooLong (h : bufferSize ≤ line.length) : step file p (line, number) = .error .lineTooLong :=
  if_pos h

theorem step_of_error {e : LineError} (hlen : line.length < bufferSize)
    (hread : Line.read number (dropReturn line) = .error e) :
    step file p (line, number) = .error (.malformed number e) := by
  rw [step, if_neg (Nat.not_le.mpr hlen), hread]
  rfl

theorem step_of_read {l : Line} (hlen : line.length < bufferSize)
    (hread : Line.read number (dropReturn line) = .ok l) :
    step file p (line, number) = (p.add file l).mapError (ListingError.malformed number) := by
  have hbind : (Except.ok l >>= p.add file) = p.add file l := rfl
  rw [step, if_neg (Nat.not_le.mpr hlen), hread, hbind]
  cases p.add file l <;> rfl

/-- A complaint about a line is made of that line. -/
theorem step_malformed {k : Nat} {e : LineError} (h : step file p (line, number) = .error (.malformed k e)) :
    k = number := by
  unfold step at h
  split at h
  · cases h
  · split at h
    · cases h
    · cases h
      rfl

end Step

section Behind

variable {file : Bytes} (before : List Body) (n : Nat)

theorem Progress.add_behind (p : Progress) (line : Line) :
    (p.behind before n).add file (line.down n) = (p.add file line).map (Progress.behind before n) := by
  cases line with
  | body name =>
      change ((p.draft.down n).close file >>= _) = ((p.draft.close file >>= _ : Except _ _)).map _
      rw [Draft.close_down]
      cases p.draft.close file with
      | error e => rfl
      | ok closed =>
          change Except.ok _ = Except.ok _
          simp [Progress.behind, Draft.down]
  | trap t => rfl
  | code labels x =>
      cases x with
      | none => rfl
      | some x =>
          change Except.ok _ = Except.ok _
          simp [Progress.behind, Draft.down, Instr.down]

theorem step_behind (p : Progress) {line : Bytes × Nat}
    (hfit : Line.isInstr line.1 = true → line.2 + n ≤ Line.maxNumber) :
    step file (p.behind before n) (lower n line) =
      ((step file p line).map (Progress.behind before n)).mapError (ListingError.down n) := by
  obtain ⟨raw, number⟩ := line
  change step file (p.behind before n) (raw, number + n) = _
  rcases Nat.lt_or_ge raw.length bufferSize with hlen | hlen
  · have hread' := Line.read_add hfit
    cases hread : Line.read number (dropReturn raw) with
    | error e =>
        rw [hread] at hread'
        rw [step_of_error p hlen hread, step_of_error _ hlen hread']
        rfl
    | ok l =>
        rw [hread] at hread'
        rw [step_of_read p hlen hread, step_of_read _ hlen hread', Progress.add_behind]
        cases p.add file l <;> rfl
  · rw [step_tooLong p hlen, step_tooLong _ hlen]
    rfl

theorem foldlM_behind {lines : List (Bytes × Nat)} (hfit : Lowerable n lines) (p : Progress) :
    (lines.map (lower n)).foldlM (step file) (p.behind before n) =
      ((lines.foldlM (step file) p).map (Progress.behind before n)).mapError (ListingError.down n) := by
  induction lines generalizing p with
  | nil => rfl
  | cons line lines ih =>
      rw [List.map_cons, List.foldlM_cons, List.foldlM_cons, step_behind before n p (hfit line List.mem_cons_self)]
      cases step file p line with
      | error e => rfl
      | ok q => exact ih (fun l hl => hfit l (List.mem_cons_of_mem line hl)) q

/-- What the end of a listing of `count` lines makes of its reading. -/
def finish (file : Bytes) (count : Nat) (p : Progress) : Except ListingError (List Body) :=
  match p.draft.close file with
  | .ok closed => .ok (p.bodies ++ closed)
  | .error e => .error (.malformed count e)

theorem parse_eq (file src : Bytes) :
    parse file src =
      (((rawLines src).zipIdx 1).foldlM (step file) {} >>= finish file (rawLines src).length) := by
  refine congrArg (Bind.bind _) (funext fun p => ?_)
  dsimp only [finish]
  cases p.draft.close file <;> rfl

theorem finish_malformed {count line : Nat} {p : Progress} {e : LineError}
    (h : finish file count p = .error (.malformed line e)) : line = count := by
  unfold finish at h
  split at h
  · cases h
  · cases h
    rfl

theorem finish_behind (count : Nat) (p : Progress) :
    finish file (count + n) (p.behind before n) =
      ((finish file count p).map fun bodies => before ++ bodies.map (Body.down n)).mapError
        (ListingError.down n) := by
  unfold finish
  change (match (p.draft.down n).close file with | .ok closed => _ | .error e => _) = _
  rw [Draft.close_down]
  cases p.draft.close file with
  | error e => rfl
  | ok closed =>
      change Except.ok _ = Except.ok _
      simp [Progress.behind]

end Behind

section Opening

variable {file first name : Bytes} {number : Nat}

theorem Progress.add_body (p : Progress) (name : Bytes) :
    p.add file (.body name) =
      (p.draft.close file).map fun closed => ⟨p.bodies ++ closed, { name, opened := true }⟩ := by
  rw [Progress.add]
  cases p.draft.close file <;> rfl

/-- A `.body` line starts afresh: of what was read before, it leaves the bodies alone. -/
theorem step_opening {p : Progress} {closed : List Body} (hclose : p.draft.close file = .ok closed)
    (hopen : Line.read number (dropReturn first) = .ok (.body name)) (n : Nat) :
    step file p (first, number) = step file (Progress.behind (p.bodies ++ closed) n {}) (first, number) := by
  rcases Nat.lt_or_ge first.length bufferSize with hlen | hlen
  · have hvoid : (Progress.behind (p.bodies ++ closed) n {}).draft.close file = .ok [] := rfl
    rw [step_of_read p hlen hopen, step_of_read _ hlen hopen, Progress.add_body, Progress.add_body, hclose,
      hvoid]
    change Except.ok _ = Except.ok _
    simp [Progress.behind]
  · rw [step_tooLong p hlen, step_tooLong _ hlen]

theorem step_opening_error {p : Progress} {e : LineError} (hclose : p.draft.close file = .error e)
    (hopen : Line.read number (dropReturn first) = .ok (.body name)) :
    ∃ e', step file p (first, number) = .error e' := by
  rcases Nat.lt_or_ge first.length bufferSize with hlen | hlen
  · rw [step_of_read p hlen hopen, Progress.add_body, hclose]
    exact ⟨_, rfl⟩
  · exact ⟨_, step_tooLong p hlen⟩

theorem read_opening_add (hopen : Line.read number (dropReturn first) = .ok (.body name)) (n : Nat) :
    Line.read (number + n) (dropReturn first) = .ok (.body name) := by
  rw [Line.read_add (by simp [Line.isInstr_of_body hopen]), hopen]
  rfl

end Opening

section Append

variable {file a b first name : Bytes} (ha : a = [] ∨ a.getLast? = some 10)
  (hfirst : (rawLines b).head? = some first) (hopen : Line.read 1 (dropReturn first) = .ok (.body name))
include ha hfirst hopen

/-- Where the front is read, the back is read on from the bodies of the front and from them alone. -/
theorem parse_behind {as : List Body} (hparse : parse file a = .ok as) :
    parse file (a ++ b) =
      ((((rawLines b).zipIdx 1).map (lower (rawLines a).length)).foldlM (step file)
        (Progress.behind as (rawLines a).length {}) >>=
          finish file ((rawLines b).length + (rawLines a).length)) := by
  obtain ⟨p, closed, hrun, hclose, rfl⟩ := parse_eq_ok hparse
  obtain ⟨rest, hlines⟩ := List.head?_eq_some_iff.mp hfirst
  have hstep := step_opening hclose (read_opening_add hopen (rawLines a).length) (rawLines a).length
  rw [parse_eq, rawLines_append ha, List.zipIdx_append, List.foldlM_append, hrun, List.length_append,
    Nat.add_comm (rawLines a).length, zipIdx_lower, hlines]
  change (List.foldlM (step file) p ((first, 1 + (rawLines a).length) :: _) >>= _) =
    (List.foldlM (step file) _ ((first, 1 + (rawLines a).length) :: _) >>= _)
  rw [List.foldlM_cons, List.foldlM_cons, hstep]

/-- Then the whole is read as the back is, further down and behind the bodies of the front, as long as every
instruction of the back still has a line number. -/
theorem parse_append {as : List Body} (hparse : parse file a = .ok as)
    (hfit : ∀ k ∈ instrLines (rawLines b), k + (rawLines a).length ≤ Line.maxNumber) :
    parse file (a ++ b) =
      ((parse file b).map fun bs => as ++ bs.map (Body.down (rawLines a).length)).mapError
        (ListingError.down (rawLines a).length) := by
  rw [parse_behind ha hfirst hopen hparse, foldlM_behind _ _ (lowerable_iff.mpr hfit), parse_eq file b]
  cases ((rawLines b).zipIdx 1).foldlM (step file) {} with
  | error e => rfl
  | ok q => exact finish_behind _ _ _ q

/-- What the end of the front complains of, the `.body` line behind it complains of. -/
theorem parse_append_error {e : ListingError} (hparse : parse file a = .error e) :
    ∃ e', parse file (a ++ b) = .error e' := by
  obtain ⟨rest, hlines⟩ := List.head?_eq_some_iff.mp hfirst
  rw [parse_eq] at hparse
  rw [parse_eq, rawLines_append ha, List.zipIdx_append, List.foldlM_append, hlines]
  cases hrun : ((rawLines a).zipIdx 1).foldlM (step file) {} with
  | error e' => exact ⟨e', rfl⟩
  | ok p =>
      rw [hrun] at hparse
      cases hclose : p.draft.close file with
      | ok closed =>
          change finish file _ p = _ at hparse
          rw [finish, hclose] at hparse
          cases hparse
      | error cause =>
          obtain ⟨e', he'⟩ := step_opening_error hclose (read_opening_add hopen (rawLines a).length)
          refine ⟨e', ?_⟩
          change ((((first, 1 + (rawLines a).length) :: _).foldlM (step file) p : Except _ _) >>= _) = _
          rw [List.foldlM_cons, he']
          rfl

/-- A complaint about the back is made of the whole, if no instruction up to there lacks a line number. -/
theorem parse_append_malformed {as : List Body} (hparse : parse file a = .ok as) {line : Nat} {e : LineError}
    (hback : parse file b = .error (.malformed line e))
    (hfit : ∀ k ∈ instrLines (rawLines b), k ≤ line → k + (rawLines a).length ≤ Line.maxNumber) :
    parse file (a ++ b) = .error (.malformed (line + (rawLines a).length) e) := by
  cases hrun : ((rawLines b).zipIdx 1).foldlM (step file) {} with
  | ok q =>
      -- the end of the listing is at fault, and no line stands behind it
      have hend : finish file (rawLines b).length q = .error (.malformed line e) := by
        rwa [parse_eq, hrun] at hback
      have hline : line = (rawLines b).length := finish_malformed hend
      rw [parse_append ha hfirst hopen hparse fun k hk => hfit k hk (hline ▸ le_of_mem_instrLines hk), hback]
      rfl
  | error e' =>
      rw [parse_eq, hrun] at hback
      cases hback
      obtain ⟨front, x, back, q, hsplit, hfront, hstep⟩ := foldlM_eq_error hrun
      obtain rfl : line = x.2 := step_malformed q hstep
      have hlow : Lowerable (rawLines a).length (front ++ [x]) := by
        intro l hl hinstr
        have hmem : l ∈ (rawLines b).zipIdx 1 := by
          rw [hsplit, List.append_cons]
          exact List.mem_append_left back hl
        refine hfit l.2 (mem_instrLines.mpr ⟨l.1, hmem, hinstr⟩) ?_
        rcases List.mem_append.mp hl with hl | hl
        · exact Nat.le_of_lt (lt_of_zipIdx hsplit l hl)
        · exact Nat.le_of_eq (congrArg Prod.snd (List.mem_singleton.mp hl))
      have hupto : (front ++ [x]).foldlM (step file) {} = .error (.malformed x.2 e) := by
        rw [List.foldlM_append, hfront]
        change List.foldlM (step file) q [x] = _
        rw [List.foldlM_cons, hstep]
        rfl
      rw [parse_behind ha hfirst hopen hparse, hsplit, List.append_cons, List.map_append, List.foldlM_append,
        foldlM_behind _ _ hlow, hupto]
      rfl

/-- If one does, the complaint is about the first of them. -/
theorem parse_append_overflow {as : List Body} (hparse : parse file a = .ok as) {line : Nat} {e : LineError}
    (hback : parse file b = .error (.malformed line e)) {k : Nat} (hk : k ∈ instrLines (rawLines b))
    (hle : k ≤ line) (hover : Line.maxNumber < k + (rawLines a).length)
    (hfit : ∀ j ∈ instrLines (rawLines b), j < k → j + (rawLines a).length ≤ Line.maxNumber) :
    parse file (a ++ b) = .error (.malformed (k + (rawLines a).length) .lineOverflow) := by
  obtain ⟨raw, hmem, hinstr⟩ := mem_instrLines.mp hk
  obtain ⟨front, back, hsplit⟩ := List.append_of_mem hmem
  have hlt := lt_of_zipIdx hsplit
  have hlow : Lowerable (rawLines a).length front := by
    intro l hl hinstr
    have hmem : l ∈ (rawLines b).zipIdx 1 := hsplit ▸ List.mem_append_left _ hl
    exact hfit l.2 (mem_instrLines.mpr ⟨l.1, hmem, hinstr⟩) (hlt l hl)
  rw [parse_behind ha hfirst hopen hparse, hsplit, List.map_append, List.foldlM_append,
    foldlM_behind _ _ hlow]
  rw [parse_eq, hsplit, List.foldlM_append] at hback
  cases hrun : front.foldlM (step file) {} with
  | error e' =>
      -- the back fails before that line
      rw [hrun] at hback
      cases hback
      obtain ⟨before, x, after, q, hfront, -, hstep⟩ := foldlM_eq_error hrun
      have hx := hlt x (by rw [hfront]; exact List.mem_append_right _ List.mem_cons_self)
      rw [step_malformed q hstep] at hle
      omega
  | ok q =>
      rw [hrun] at hback
      change List.foldlM (step file) q ((raw, k) :: back) >>= _ = _ at hback
      change List.foldlM (step file) _ ((raw, k + (rawLines a).length) :: _) >>= _ = _
      have hlen : raw.length < bufferSize := by
        by_contra hlong
        rw [List.foldlM_cons, step_tooLong q (Nat.le_of_not_lt hlong)] at hback
        cases hback
      rw [List.foldlM_cons, step_of_error _ hlen (Line.read_overflow hinstr hover)]
      rfl

end Append

/-- A listing behind one that is empty or ends its last line, if it opens with a `.body` line. The two are
read together exactly if each is read alone and no instruction of the second comes to stand too far down for
a line number; then the bodies follow each other, with the lines of the second listing counted on from the
first. The first complaint about the second listing stays the same, further down, unless an instruction up to
there has come to stand too far down: then the first such instruction is complained of. -/
theorem listings_concatenate {file a b first name : Bytes} (ha : a = [] ∨ a.getLast? = some 10)
    (hfirst : (rawLines b).head? = some first)
    (hopen : Line.read 1 (dropReturn first) = .ok (.body name)) :
    ((∃ bodies, parse file (a ++ b) = .ok bodies) ↔
      (∃ as, parse file a = .ok as) ∧ ∃ bs, parse file b = .ok bs ∧
        ∀ d ∈ bs, ∀ x ∈ d.instrs, x.line + (rawLines a).length ≤ Line.maxNumber) ∧
    (∀ as bs bodies, parse file a = .ok as → parse file b = .ok bs → parse file (a ++ b) = .ok bodies →
      bodies = as ++ bs.map (Body.down (rawLines a).length)) ∧
    ∀ as line e, parse file a = .ok as → parse file b = .error (.malformed line e) →
      ((∀ k ∈ instrLines (rawLines b), k ≤ line → k + (rawLines a).length ≤ Line.maxNumber) →
        parse file (a ++ b) = .error (.malformed (line + (rawLines a).length) e)) ∧
      ∀ k ∈ instrLines (rawLines b), k ≤ line → Line.maxNumber < k + (rawLines a).length →
        (∀ j ∈ instrLines (rawLines b), j < k → j + (rawLines a).length ≤ Line.maxNumber) →
        parse file (a ++ b) = .error (.malformed (k + (rawLines a).length) .lineOverflow) := by
  have happend := @parse_append file a b first name ha hfirst hopen
  have hnumbered : ∀ bodies, parse file (a ++ b) = .ok bodies →
      ∀ k ∈ instrLines (rawLines b), k + (rawLines a).length ≤ Line.maxNumber := by
    intro bodies hboth k hk
    refine parse_numbered hboth _ ?_
    rw [rawLines_append ha]
    exact add_mem_instrLines hk
  refine ⟨⟨?_, ?_⟩, ?_, ?_⟩
  · rintro ⟨bodies, hboth⟩
    have hfit := hnumbered bodies hboth
    cases hfront : parse file a with
    | error e =>
        obtain ⟨e', he'⟩ := parse_append_error ha hfirst hopen hfront
        rw [he'] at hboth
        cases hboth
    | ok as =>
        refine ⟨⟨as, rfl⟩, ?_⟩
        rw [happend hfront hfit] at hboth
        cases hback : parse file b with
        | error e => rw [hback] at hboth; cases hboth
        | ok bs => exact ⟨bs, rfl, (forall_instrLines hback).mp hfit⟩
  · rintro ⟨⟨as, hfront⟩, bs, hback, hfit⟩
    refine ⟨as ++ bs.map (Body.down (rawLines a).length), ?_⟩
    rw [happend hfront ((forall_instrLines hback).mpr hfit), hback]
    rfl
  · intro as bs bodies hfront hback hboth
    rw [happend hfront (hnumbered bodies hboth), hback] at hboth
    exact (Except.ok.inj hboth).symm
  · intro as line e hfront hback
    exact ⟨parse_append_malformed ha hfirst hopen hfront hback,
      fun k => parse_append_overflow ha hfirst hopen hfront hback⟩

section Blanks

theorem rawLines_blanks (n : Nat) : rawLines (List.replicate n 10) = List.replicate n [] := by
  have hfeeds : rawLines ((List.replicate n []).flatMap (· ++ [10])) = _ := rawLines_feeds (by simp)
  rwa [List.flatMap_replicate, List.nil_append, List.flatten_replicate_singleton] at hfeeds

theorem step_blank (file : Bytes) (p : Progress) (number : Nat) : step file p ([], number) = .ok p := by
  rw [step_of_read p (l := .code [] none) (by decide) rfl]
  change Except.ok { p with draft.pending := p.draft.pending ++ [] } = _
  rw [List.append_nil]

/-- Behind empty lines a listing is read as it is read alone, from a later line on. -/
theorem parse_below (file : Bytes) (n : Nat) (b : Bytes) :
    parse file (List.replicate n 10 ++ b) =
      (((rawLines b).zipIdx (1 + n)).foldlM (step file) {} >>= finish file (n + (rawLines b).length)) := by
  have hends : List.replicate n (10 : UInt8) = [] ∨ (List.replicate n (10 : UInt8)).getLast? = some 10 := by
    cases n with
    | zero => exact Or.inl rfl
    | succ n => exact Or.inr (by rw [List.getLast?_replicate, if_neg (Nat.succ_ne_zero n)])
  have hblank : ∀ line ∈ (List.replicate n ([] : Bytes)).zipIdx 1, ∀ p : Progress, step file p line = .ok p := by
    rintro ⟨raw, number⟩ hmem p
    obtain rfl : raw = [] := List.eq_of_mem_replicate (List.fst_mem_of_mem_zipIdx hmem)
    exact step_blank file p number
  rw [parse_eq, rawLines_append hends, rawLines_blanks, List.zipIdx_append, List.foldlM_append,
    foldlM_eq_ok hblank, List.foldl_fixed, List.length_append, List.length_replicate]
  rfl

end Blanks

/-- A front with a label, a jump and a trap of its own. Behind it the same names mean what they mean
alone, and a complaint about the third line is made of the sixth. -/
theorem trapped_listings_concatenate :
    (∃ as bs, parse (bytes "m.bbl") (bytes "a: goto b\nb: return\n.trap a - b\n") = .ok as ∧
      parse (bytes "m.bbl") (bytes ".body x\na:\nif p goto a\nreturn\n") = .ok bs ∧
      parse (bytes "m.bbl")
        (bytes "a: goto b\nb: return\n.trap a - b\n" ++ bytes ".body x\na:\nif p goto a\nreturn\n") =
          .ok (as ++ bs.map (Body.down 3))) ∧
    parse (bytes "m.bbl") (bytes ".body x\na:\ngoto\n") = .error (.malformed 3 .jumpArity) ∧
    parse (bytes "m.bbl")
      (bytes "a: goto b\nb: return\n.trap a - b\n" ++ bytes ".body x\na:\ngoto\n") =
        .error (.malformed 6 .jumpArity) := by
  obtain ⟨as, hfront, -⟩ := map_eq_ok.mp (by decide +kernel :
    (parse (bytes "m.bbl") (bytes "a: goto b\nb: return\n.trap a - b\n")).map List.length = .ok 1)
  obtain ⟨bs, hback, hfit⟩ := map_eq_ok.mp (by decide +kernel :
    (parse (bytes "m.bbl") (bytes ".body x\na:\nif p goto a\nreturn\n")).map
      (fun bs => decide (∀ d ∈ bs, ∀ x ∈ d.instrs, x.line + 3 ≤ Line.maxNumber)) = .ok true)
  have hbad : parse (bytes "m.bbl") (bytes ".body x\na:\ngoto\n") = .error (.malformed 3 .jumpArity) := by
    decide +kernel
  have hcount : (rawLines (bytes "a: goto b\nb: return\n.trap a - b\n")).length = 3 := by decide +kernel
  have hend : (bytes "a: goto b\nb: return\n.trap a - b\n").getLast? = some 10 := by decide +kernel
  have hopen : Line.read 1 (dropReturn (bytes ".body x")) = .ok (.body (bytes "x")) := by decide +kernel
  obtain ⟨hreads, hgood, -⟩ := @listings_concatenate (bytes "m.bbl") _ _ _ _ (Or.inr hend)
    (by decide +kernel : (rawLines (bytes ".body x\na:\nif p goto a\nreturn\n")).head? = _) hopen
  obtain ⟨-, -, hfail⟩ := @listings_concatenate (bytes "m.bbl") _ _ _ _ (Or.inr hend)
    (by decide +kernel : (rawLines (bytes ".body x\na:\ngoto\n")).head? = _) hopen
  rw [hcount] at hreads hgood hfail
  obtain ⟨bodies, hboth⟩ := hreads.mpr ⟨⟨as, hfront⟩, bs, hback, of_decide_eq_true hfit⟩
  obtain rfl := hgood as bs bodies hfront hback hboth
  exact ⟨⟨as, bs, hfront, hback, hboth⟩, hbad, (hfail as 3 _ hfront hbad).1 (by decide +kernel)⟩

/-- In front of it all lines there are numbers for: both listings are read alone, and the two are not read
together. -/
theorem blank_lines_overflow :
    (List.replicate 0xFFFFFFFF (10 : UInt8)).getLast? = some 10 ∧
      (rawLines (bytes ".body x\nreturn\n")).head? = some (bytes ".body x") ∧
      Line.read 1 (dropReturn (bytes ".body x")) = .ok (.body (bytes "x")) ∧
      parse (bytes "m.bbl") (List.replicate 0xFFFFFFFF 10) = .ok [] ∧
      (∃ bs, parse (bytes "m.bbl") (bytes ".body x\nreturn\n") = .ok bs) ∧
      parse (bytes "m.bbl") (List.replicate 0xFFFFFFFF 10 ++ bytes ".body x\nreturn\n") =
        .error (.malformed 0x100000001 .lineOverflow) := by
  obtain ⟨bs, hback, -⟩ := map_eq_ok.mp (by decide +kernel :
    (parse (bytes "m.bbl") (bytes ".body x\nreturn\n")).map List.length = .ok 1)
  refine ⟨by rw [List.getLast?_replicate, if_neg (by decide)], by decide +kernel, by decide +kernel, ?_,
    ⟨bs, hback⟩, ?_⟩
  · have hblanks := parse_below (bytes "m.bbl") 0xFFFFFFFF []
    rwa [List.append_nil] at hblanks
  · rw [parse_below]
    decide +kernel

end Listing

end FlowBlocks
