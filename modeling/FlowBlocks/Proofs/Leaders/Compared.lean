import FlowBlocks.Proofs.Leaders
/-!
The two leader rules side by side. The classic rule marks leaders forward from other units, the rule of big
blocks looks back at predecessors. On a regular graph both come to a test of one step from a position to the
next: the classic rule leaves a position unmarked exactly if control goes straight on to it. Neither rule is
finer than the other; they part at exits and behind branches.
-/
namespace FlowBlocks

/-- Control goes straight on from `u` to `t`: `u` does not branch and leads to `t` alone, nothing else leads
to `t`, and `t` is no handler. -/
structure FlowGraph.Straight {U : Type} (g : FlowGraph U) (handlers : List U) (u t : U) : Prop where
  plain : g.branches u = false
  onward : g.succs u = [t]
  sole : g.preds t = [u]
  unhandled : t ∉ handlers

section Regular

variable {g : FlowGraph Nat} {n : Nat} {handlers : List Nat} {u : Nat}

theorem FlowGraph.Regular.next_of_sole (hg : g.Regular n handlers) (hp : g.preds (u + 1) = [u]) :
    u + 1 ∈ g.succs u := by
  apply hg.mem_preds.mp
  rw [hp]
  exact List.mem_singleton.mpr rfl

theorem FlowGraph.Regular.falls_of_straight (hg : g.Regular n handlers)
    (hs : g.Straight handlers u (u + 1)) : g.falls u = true := by
  rcases hg.plain u (u + 1) (hg.next_of_sole hs.sole) hs.plain with hh | ⟨hf, -⟩
  · exact absurd hh hs.unhandled
  · exact hf

theorem FlowGraph.Regular.onward_iff (hg : g.Regular n handlers) (hp : g.preds (u + 1) = [u]) :
    g.succs u = [u + 1] ↔ (g.succs u).length = 1 := by
  constructor
  · intro hs
    rw [hs]
    rfl
  · intro hlen
    have hmem := hg.next_of_sole hp
    obtain ⟨v, hv⟩ := List.length_eq_one_iff.mp hlen
    rw [hv] at hmem ⊢
    rw [List.mem_singleton.mp hmem]

/-- Control goes straight on from a sole predecessor unless it branches or has several successors. -/
theorem FlowGraph.Regular.straight_iff (hg : g.Regular n handlers) (hp : g.preds (u + 1) = [u])
    (hh : u + 1 ∉ handlers) :
    g.Straight handlers u (u + 1) ↔ ¬(g.branches u = true ∨ 1 < (g.succs u).length) := by
  have hlen := List.length_pos_of_mem (hg.next_of_sole hp)
  rw [not_or, Bool.not_eq_true, Nat.not_lt]
  constructor
  · intro hs
    exact ⟨hs.plain, Nat.le_of_eq ((hg.onward_iff hp).mp hs.onward)⟩
  · rintro ⟨hb, hone⟩
    exact ⟨hb, (hg.onward_iff hp).mpr (by omega), hp, hh⟩

namespace Leaders

theorem not_mem_bigBlock (hg : g.Regular n handlers) (hu : u + 1 < n) :
    u + 1 ∉ bigBlock g handlers ↔ u + 1 ∉ handlers ∧ g.preds (u + 1) = [u] ∧ u + 1 ∉ g.tails := by
  rw [mem_bigBlock hg]
  simp [hu]

/-- The classic rule joins a position to the one before it exactly where control goes straight on. -/
theorem not_mem_classic (hg : g.Regular n handlers) (hu : u + 1 < n) :
    u + 1 ∉ classic g handlers ↔ g.Straight handlers u (u + 1) := by
  constructor
  · intro hl
    have hs := classic_singleEntry hg
    have hp := hs.only u hu hl
    refine (hg.straight_iff hp fun hh => hl (hs.handler _ hh)).mpr fun hmany => hl ?_
    refine (mem_classic hg).mpr (Or.inr (Or.inr ⟨u, Nat.lt_of_succ_lt hu, ?_⟩))
    exact mem_marks.mpr (Or.inr (Or.inl ⟨hg.next_of_sole hp, hmany⟩))
  · intro hs hl
    have hfew := (hg.straight_iff hs.sole hs.unhandled).mp hs
    rcases (mem_classic hg).mp hl with ⟨hzero, -⟩ | hh | ⟨v, -, hmark⟩
    · omega
    · exact hs.unhandled hh
    -- `u + 1` could be marked by itself, by a predecessor, which is `u`, or by the position before it
    · rcases mem_marks.mp hmark with ⟨rfl, hlen⟩ | ⟨hsucc, hmany⟩ | ⟨hnext, hstop⟩
      · rw [hs.sole] at hlen
        exact hlen rfl
      · have hv := hg.mem_preds.mpr hsucc
        rw [hs.sole, List.mem_singleton] at hv
        exact hfew (hv ▸ hmany)
      · have hv : v = u := by
          split at hnext
          · exact Nat.succ.inj (Option.some.inj hnext)
          · cases hnext
        rw [hv, hs.plain, hg.falls_of_straight hs] at hstop
        simp at hstop

/-- Only big blocks open at an exit that control goes straight on to. -/
theorem bigBlock_only (hg : g.Regular n handlers) (hu : u + 1 < n) :
    u + 1 ∈ bigBlock g handlers ∧ u + 1 ∉ classic g handlers ↔
      u + 1 ∈ g.tails ∧ u + 1 ∉ handlers ∧ g.preds (u + 1) = [u] ∧ g.branches u = false ∧
        (g.succs u).length = 1 := by
  rw [not_mem_classic hg hu]
  constructor
  · rintro ⟨hbig, hs⟩
    have htail : u + 1 ∈ g.tails := by
      by_contra hno
      exact (not_mem_bigBlock hg hu).mpr ⟨hs.unhandled, hs.sole, hno⟩ hbig
    exact ⟨htail, hs.unhandled, hs.sole, hs.plain, (hg.onward_iff hs.sole).mp hs.onward⟩
  · rintro ⟨htail, hh, hp, hb, hlen⟩
    refine ⟨?_, hb, (hg.onward_iff hp).mpr hlen, hp, hh⟩
    by_contra hbig
    exact ((not_mem_bigBlock hg hu).mp hbig).2.2 htail

/-- Only classic blocks open behind a unit that branches or has several successors. -/
theorem classic_only (hg : g.Regular n handlers) (hu : u + 1 < n) :
    u + 1 ∈ classic g handlers ∧ u + 1 ∉ bigBlock g handlers ↔
      u + 1 ∉ g.tails ∧ u + 1 ∉ handlers ∧ g.preds (u + 1) = [u] ∧
        (g.branches u = true ∨ 1 < (g.succs u).length) := by
  rw [not_mem_bigBlock hg hu]
  constructor
  · rintro ⟨hclassic, hh, hp, htail⟩
    refine ⟨htail, hh, hp, ?_⟩
    by_contra hfew
    exact (not_mem_classic hg hu).mpr ((hg.straight_iff hp hh).mpr hfew) hclassic
  · rintro ⟨htail, hh, hp, hmany⟩
    refine ⟨?_, hh, hp, htail⟩
    by_contra hclassic
    exact (hg.straight_iff hp hh).mp ((not_mem_classic hg hu).mp hclassic) hmany

end Leaders

end Regular

/-- Where the leaders of a body that was read differ. A position is a leader with big blocks alone exactly if
it is an exit, no handler, and entered only from the position before, which neither branches nor leads
anywhere else; under the classic rule alone exactly if it is neither exit nor handler and entered only from
the position before, which branches or leads elsewhere too. -/
theorem leader_rules_compared {file src : Bytes} {bodies : List Body}
    (hparse : Listing.parse file src = .ok bodies) {body : Body} (hbody : body ∈ bodies) (k : GraphKind)
    {i : Nat} (hi : i < body.size) :
    (i ∈ Policy.bigBlock.rule (body.flowGraph k) body.handlers ∧
        i ∉ Policy.classic.rule (body.flowGraph k) body.handlers ↔
      ∃ j, i = j + 1 ∧ i ∈ (body.flowGraph k).tails ∧ i ∉ body.handlers ∧
        (body.flowGraph k).preds i = [j] ∧ (body.flowGraph k).branches j = false ∧
        ((body.flowGraph k).succs j).length = 1) ∧
    (i ∈ Policy.classic.rule (body.flowGraph k) body.handlers ∧
        i ∉ Policy.bigBlock.rule (body.flowGraph k) body.handlers ↔
      ∃ j, i = j + 1 ∧ i ∉ (body.flowGraph k).tails ∧ i ∉ body.handlers ∧
        (body.flowGraph k).preds i = [j] ∧
        ((body.flowGraph k).branches j = true ∨ 1 < ((body.flowGraph k).succs j).length)) := by
  have hg := Body.flowGraph_regular (Listing.parse_sound hparse body hbody) k
  cases i with
  | zero =>
      -- the first position is a leader under both rules
      have hfirst : ∀ p : Policy, 0 ∈ p.rule (body.flowGraph k) body.handlers :=
        fun p => (p.singleEntry hg).first hi
      constructor
      · exact iff_of_false (fun h => h.2 (hfirst _)) (fun ⟨_, h, _⟩ => nomatch h)
      · exact iff_of_false (fun h => h.2 (hfirst _)) (fun ⟨_, h, _⟩ => nomatch h)
  | succ u =>
      constructor
      · refine (Leaders.bigBlock_only hg hi).trans ⟨fun h => ⟨u, rfl, h⟩, ?_⟩
        rintro ⟨j, hj, h⟩
        cases Nat.succ.inj hj
        exact h
      · refine (Leaders.classic_only hg hi).trans ⟨fun h => ⟨u, rfl, h⟩, ?_⟩
        rintro ⟨j, hj, h⟩
        cases Nat.succ.inj hj
        exact h

/-- A statement behind a conditional jump opens a classic block only, the return behind it a big block
only. -/
theorem branch_and_exit_compared :
    ∃ body, Listing.parse (bytes "m.bbl")
        (bytes "a: if p goto b\ny = 2\nreturn\nb: goto a\nh: throw e\n.trap b h h\n") = .ok [body] ∧
      body.size = 5 ∧
      (1 ∈ Policy.classic.rule (body.flowGraph .exceptional) body.handlers ∧
        1 ∉ Policy.bigBlock.rule (body.flowGraph .exceptional) body.handlers) ∧
      2 ∈ Policy.bigBlock.rule (body.flowGraph .exceptional) body.handlers ∧
        2 ∉ Policy.classic.rule (body.flowGraph .exceptional) body.handlers := by
  obtain ⟨body, hparse, hsize, hhandlers, htails, hpreds1, hpreds2, hsuccs1, hbranch0, hbranch1⟩ : ∃ body,
      Listing.parse (bytes "m.bbl")
        (bytes "a: if p goto b\ny = 2\nreturn\nb: goto a\nh: throw e\n.trap b h h\n") = .ok [body] ∧
      body.size = 5 ∧ body.handlers = [4] ∧ (body.flowGraph .exceptional).tails = [2, 4] ∧
      (body.flowGraph .exceptional).preds 1 = [0] ∧ (body.flowGraph .exceptional).preds 2 = [1] ∧
      (body.flowGraph .exceptional).succs 1 = [2] ∧ (body.flowGraph .exceptional).branches 0 = true ∧
      (body.flowGraph .exceptional).branches 1 = false :=
    eq_ok_singleton (by decide +kernel)
  have hat : ∀ {i}, i < 5 → _ := fun {i} hi =>
    leader_rules_compared hparse List.mem_cons_self .exceptional (i := i) (by omega)
  refine ⟨body, hparse, hsize, (hat (by omega)).2.mpr ⟨0, rfl, ?_⟩, (hat (by omega)).1.mpr ⟨1, rfl, ?_⟩⟩
  · rw [htails, hhandlers]
    exact ⟨by decide, by decide, hpreds1, Or.inl hbranch0⟩
  · rw [htails, hhandlers, hsuccs1]
    exact ⟨by decide, by decide, hpreds2, hbranch1, rfl⟩

end FlowBlocks
