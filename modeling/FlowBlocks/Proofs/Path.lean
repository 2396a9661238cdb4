import FlowBlocks.Proofs.Store
/-!
Cleaned paths. Of the parts of a path cleaning leaves steps up and then plain names, and a path put together
from such parts is clean already. Joining a directory with plain names only appends them.
-/
namespace FlowBlocks.Path

/-- What cleaning leaves of the parts of a path. -/
def cleaned (rooted : Bool) (names : List Bytes) : List Bytes := (names.foldl (cleanStep rooted) []).reverse

/-- The text of parts. -/
def spelled (rooted : Bool) (names : List Bytes) : Bytes :=
  (if rooted then [slash] else []) ++ Bytes.join [slash] names

/-- Steps up, of which a path from the root has none, and then plain names. -/
def Direct (rooted : Bool) (names : List Bytes) : Prop :=
  ∃ ups downs, names = List.replicate ups (bytes "..") ++ downs ∧ (rooted = true → ups = 0) ∧
    ∀ name ∈ downs, Plain name

theorem mem_parts {p name : Bytes} (h : name ∈ parts p) : name ≠ [] ∧ slash ∉ name := by
  obtain ⟨hmem, hne⟩ := List.mem_filter.mp h
  exact ⟨by simpa using hne, not_mem_of_mem_splitOn hmem⟩

theorem Direct.concat {rooted : Bool} {names : List Bytes} {name : Bytes} (h : Direct rooted names)
    (hname : Plain name) : Direct rooted (names ++ [name]) := by
  obtain ⟨ups, downs, rfl, hroot, hplain⟩ := h
  refine ⟨ups, downs ++ [name], List.append_assoc _ _ _, hroot, ?_⟩
  intro n hn
  rcases List.mem_append.mp hn with hn | hn
  · exact hplain n hn
  · rw [List.mem_singleton.mp hn]
    exact hname

theorem cleanStep_direct {rooted : Bool} {done : List Bytes} {part : Bytes}
    (h : Direct rooted done.reverse) (hpart : part ≠ [] ∧ slash ∉ part) :
    Direct rooted (cleanStep rooted done part).reverse := by
  unfold cleanStep
  by_cases hhere : part = bytes "."
  · rw [if_pos hhere]
    exact h
  rw [if_neg hhere]
  obtain ⟨ups, downs, hdone, hroot, hplain⟩ := h
  by_cases hup : part = bytes ".."
  · rw [if_pos hup]
    rcases List.eq_nil_or_concat downs with rfl | ⟨front, last, rfl⟩
    · -- a further step up, which the root has not
      rw [List.append_nil, List.reverse_eq_iff, List.reverse_replicate] at hdone
      subst hdone hup
      cases ups with
      | zero =>
          cases rooted with
          | true => exact ⟨0, [], rfl, fun _ => rfl, nofun⟩
          | false => exact ⟨1, [], rfl, nofun, nofun⟩
      | succ ups =>
          refine ⟨ups + 2, [], ?_, fun hr => absurd (hroot hr) (Nat.succ_ne_zero ups), nofun⟩
          simp [List.replicate_succ, ← List.replicate_succ']
    · -- a step up takes the last name away
      rw [List.concat_eq_append, ← List.append_assoc, List.reverse_eq_iff, List.reverse_append] at hdone
      subst hdone
      have hlast := (hplain last (by simp)).ne_up
      simp only [List.reverse_cons, List.reverse_nil, List.nil_append, List.singleton_append, if_neg hlast,
        List.reverse_reverse]
      refine ⟨ups, front, rfl, hroot, ?_⟩
      intro name hname
      exact hplain name (by simp [hname])
  · rw [if_neg hup, List.reverse_cons, hdone]
    exact Direct.concat ⟨ups, downs, rfl, hroot, hplain⟩ ⟨hpart.1, hpart.2, hhere, hup⟩

theorem cleaned_direct {rooted : Bool} {names : List Bytes} (h : ∀ name ∈ names, name ≠ [] ∧ slash ∉ name) :
    Direct rooted (cleaned rooted names) := by
  have hfold : ∀ done, Direct rooted done.reverse → Direct rooted (names.foldl (cleanStep rooted) done).reverse := by
    induction names with
    | nil => exact fun done hdone => hdone
    | cons name names ih =>
        intro done hdone
        refine ih (fun n hn => h n (List.mem_cons_of_mem name hn)) _ ?_
        exact cleanStep_direct hdone (h name List.mem_cons_self)
  exact hfold [] ⟨0, [], rfl, fun _ => rfl, nofun⟩

theorem cleaned_concat {name : Bytes} (h : Plain name) (rooted : Bool) (names : List Bytes) :
    cleaned rooted (names ++ [name]) = cleaned rooted names ++ [name] := by
  rw [cleaned, List.foldl_append, List.foldl_cons, List.foldl_nil, h.cleanStep_eq, List.reverse_cons]
  rfl

theorem foldl_ups (n k : Nat) :
    (List.replicate n (bytes "..")).foldl (cleanStep false) (List.replicate k (bytes "..")) =
      List.replicate (k + n) (bytes "..") := by
  have hstep : ∀ k, cleanStep false (List.replicate k (bytes "..")) (bytes "..") =
      List.replicate (k + 1) (bytes "..") := by
    intro k
    cases k with
    | zero => rfl
    | succ k => rfl
  induction n generalizing k with
  | zero => rfl
  | succ n ih => rw [List.replicate_succ, List.foldl_cons, hstep, ih, Nat.add_right_comm, Nat.add_assoc]

theorem foldl_plain {names : List Bytes} (h : ∀ name ∈ names, Plain name) (rooted : Bool) (done : List Bytes) :
    names.foldl (cleanStep rooted) done = names.reverse ++ done := by
  induction names generalizing done with
  | nil => rfl
  | cons name names ih =>
      rw [List.foldl_cons, (h name List.mem_cons_self).cleanStep_eq,
        ih fun n hn => h n (List.mem_cons_of_mem name hn), List.reverse_cons, List.append_assoc]
      rfl

theorem Direct.cleaned_eq {rooted : Bool} {names : List Bytes} (h : Direct rooted names) :
    cleaned rooted names = names := by
  obtain ⟨ups, downs, rfl, hroot, hplain⟩ := h
  rw [cleaned, List.foldl_append, foldl_plain hplain, List.reverse_append, List.reverse_reverse]
  cases rooted with
  | true =>
      rw [hroot rfl]
      rfl
  | false =>
      have hups := foldl_ups ups 0
      rw [List.replicate_zero, Nat.zero_add] at hups
      rw [hups, List.reverse_replicate]

theorem Direct.mem {rooted : Bool} {names : List Bytes} (h : Direct rooted names) :
    ∀ name ∈ names, name ≠ [] ∧ slash ∉ name := by
  obtain ⟨ups, downs, rfl, -, hplain⟩ := h
  intro name hname
  rcases List.mem_append.mp hname with hname | hname
  · rw [List.eq_of_mem_replicate hname]
    decide
  · exact ⟨(hplain name hname).ne_nil, (hplain name hname).no_slash⟩

theorem join_cons_cons (sep a b : Bytes) (rest : List Bytes) :
    Bytes.join sep (a :: b :: rest) = a ++ (sep ++ Bytes.join sep (b :: rest)) := by
  simp [Bytes.join]

theorem parts_join {names : List Bytes} (h : ∀ name ∈ names, name ≠ [] ∧ slash ∉ name) :
    parts (Bytes.join [slash] names) = names := by
  induction names with
  | nil => rfl
  | cons name names ih =>
      obtain ⟨hne, hslash⟩ := h name List.mem_cons_self
      have hname : parts name = [name] := by
        rw [parts, splitOn_eq_singleton hslash]
        simp [hne]
      cases names with
      | nil => simpa [Bytes.join] using hname
      | cons next rest =>
          rw [join_cons_cons, List.singleton_append, parts_append, hname,
            ih fun n hn => h n (List.mem_cons_of_mem name hn)]
          rfl

theorem isAbsolute_append {p : Bytes} (h : p ≠ []) (q : Bytes) : isAbsolute (p ++ q) = isAbsolute p := by
  cases p with
  | nil => exact absurd rfl h
  | cons b p => rfl

theorem clean_eq {p : Bytes} (h : cleaned (isAbsolute p) (parts p) ≠ []) :
    clean p = spelled (isAbsolute p) (cleaned (isAbsolute p) (parts p)) := by
  have hdirect : Direct (isAbsolute p) (cleaned (isAbsolute p) (parts p)) :=
    cleaned_direct fun _ => mem_parts
  have hbody : Bytes.join [slash] (cleaned (isAbsolute p) (parts p)) ≠ [] := by
    intro hnil
    have hparts := parts_join hdirect.mem
    rw [hnil] at hparts
    exact h hparts.symm
  unfold clean spelled
  change (if isAbsolute p = true then slash :: Bytes.join [slash] (cleaned (isAbsolute p) (parts p)) else
    if (Bytes.join [slash] (cleaned (isAbsolute p) (parts p))).isEmpty = true then _ else
      Bytes.join [slash] (cleaned (isAbsolute p) (parts p))) = _
  split
  · rfl
  · rw [if_neg (by simpa using hbody)]
    rfl

section Spelled

variable {rooted : Bool} {names : List Bytes}

theorem join_head (h : Direct rooted names) (hne : names ≠ []) :
    ∃ b rest, Bytes.join [slash] names = b :: rest ∧ b ≠ slash := by
  obtain ⟨name, rest, rfl⟩ := List.exists_cons_of_ne_nil hne
  obtain ⟨hname, hslash⟩ := h.mem name List.mem_cons_self
  obtain ⟨b, name, rfl⟩ := List.exists_cons_of_ne_nil hname
  have hb : b ≠ slash := fun hb => hslash (hb ▸ List.mem_cons_self)
  cases rest with
  | nil => exact ⟨b, _, rfl, hb⟩
  | cons next rest => exact ⟨b, _, rfl, hb⟩

theorem spelled_ne_nil (h : Direct rooted names) (hne : names ≠ []) : spelled rooted names ≠ [] := by
  obtain ⟨b, rest, hjoin, -⟩ := join_head h hne
  simp [spelled, hjoin]

theorem parts_spelled (h : Direct rooted names) : parts (spelled rooted names) = names := by
  cases rooted with
  | true => exact (parts_append [] _).trans (parts_join h.mem)
  | false => exact parts_join h.mem

theorem isAbsolute_spelled (h : Direct rooted names) (hne : names ≠ []) :
    isAbsolute (spelled rooted names) = rooted := by
  obtain ⟨b, rest, hjoin, hb⟩ := join_head h hne
  cases rooted with
  | true => rfl
  | false => simpa [spelled, hjoin, isAbsolute] using hb

theorem spelled_concat (hne : names ≠ []) (name : Bytes) :
    spelled rooted (names ++ [name]) = spelled rooted names ++ slash :: name := by
  simp [spelled, join_concat hne]

/-- A slash at the end is cleaned away. -/
theorem clean_spelled_slash (h : Direct rooted names) (hne : names ≠ []) :
    clean (spelled rooted names ++ [slash]) = spelled rooted names := by
  have hparts : parts (spelled rooted names ++ [slash]) = names := by
    have happend := parts_append (spelled rooted names) []
    rw [happend, parts_spelled h]
    exact List.append_nil names
  have hrooted : isAbsolute (spelled rooted names ++ [slash]) = rooted := by
    rw [isAbsolute_append (spelled_ne_nil h hne), isAbsolute_spelled h hne]
  have hcleaned : cleaned (isAbsolute (spelled rooted names ++ [slash]))
      (parts (spelled rooted names ++ [slash])) = names := by
    rw [hrooted, hparts, h.cleaned_eq]
  rw [clean_eq (by rwa [hcleaned]), hcleaned, hrooted]

/-- The directory of a spelled-out path with a plain last name. -/
theorem directory_spelled {name : Bytes} (h : Direct rooted names) (hne : names ≠ []) (hname : slash ∉ name) :
    directory (spelled rooted names ++ slash :: name) = spelled rooted names := by
  have hdrop : (name.reverse ++ slash :: (spelled rooted names).reverse).dropWhile (· != slash) =
      slash :: (spelled rooted names).reverse := by
    rw [List.dropWhile_append_of_pos]
    · simp
    · intro b hb
      simpa using fun heq : b = slash => hname (heq ▸ List.mem_reverse.mp hb)
  rw [directory, List.reverse_append, List.reverse_cons, List.append_assoc, List.singleton_append, hdrop,
    List.reverse_cons, List.reverse_reverse]
  exact clean_spelled_slash h hne

end Spelled

/-- A path and a plain name joined. -/
theorem clean_append_plain {p name : Bytes} (hp : p ≠ []) (hname : Plain name) :
    clean (p ++ slash :: name) = spelled (isAbsolute p) (cleaned (isAbsolute p) (parts p) ++ [name]) := by
  have hcleaned : cleaned (isAbsolute (p ++ slash :: name)) (parts (p ++ slash :: name)) =
      cleaned (isAbsolute p) (parts p) ++ [name] := by
    rw [isAbsolute_append hp, parts_append, hname.parts_eq, cleaned_concat hname]
  rw [clean_eq (by rw [hcleaned]; simp), hcleaned, isAbsolute_append hp]

end FlowBlocks.Path
