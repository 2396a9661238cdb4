import Mathlib.Algebra.BigOperators.Group.List.Basic
import Mathlib.Algebra.GroupWithZero.Nat
import FlowBlocks.Text.Column
/-!
Texts cut to a width. The displayed characters of a text, one behind the other, are the text. Where one has to
be cut, it is cut between two of them, as late as the dots behind it allow.
-/
namespace FlowBlocks

namespace Cluster

/-- A piece takes the byte it starts at and some of those behind it. -/
theorem firstPiece_spelling (a : UInt8) (rest : Bytes) :
    ∃ n, (firstPiece a rest).spelling = a :: rest.take n := by
  have hnone : ∃ n, [a] = a :: rest.take n := ⟨0, by rw [List.take_zero]⟩
  have hfollow : ∀ size, ∃ n, a :: (rest.take size).takeWhile Utf8.isTail = a :: rest.take n := by
    intro size
    have hprefix := (List.takeWhile_prefix Utf8.isTail).trans (List.take_prefix size rest)
    exact ⟨_, congrArg (a :: ·) (List.prefix_iff_eq_take.mp hprefix)⟩
  unfold firstPiece
  split
  · exact hnone
  · split
    · exact hnone
    · generalize (if a < 0xE0 then 1 else if a < 0xF0 then 2 else 3) = size
      dsimp only
      split
      · exact ⟨rest.length, by rw [List.take_length]⟩
      · split
        · exact hfollow _
        · split <;> exact hfollow _

/-- The pieces found spell out what was read; the bytes to be skipped belong to the last of them. -/
theorem piecesOnto_spellings (done : List Piece) (skip : Nat) (s : Bytes) :
    ((piecesOnto done skip s).reverse.map (·.spelling)).flatten =
      (done.reverse.map (·.spelling)).flatten ++ s.drop skip := by
  induction s generalizing done skip with
  | nil => simp [piecesOnto]
  | cons a rest ih =>
      cases skip with
      | succ skip => rw [piecesOnto, ih, List.drop_succ_cons]
      | zero =>
          obtain ⟨n, hn⟩ := firstPiece_spelling a rest
          have hrest : rest.take n ++ rest.drop (rest.take n).length = rest :=
            List.prefix_iff_eq_append.mp (List.take_prefix n rest)
          rw [piecesOnto, ih, hn, List.length_cons, Nat.add_sub_cancel, List.reverse_cons, List.map_append,
            List.flatten_append, List.append_assoc]
          simp only [List.map_cons, List.map_nil, List.flatten_cons, List.flatten_nil, List.append_nil, hn,
            List.cons_append, hrest, List.drop_zero]

theorem pieces_spellings (s : Bytes) : ((pieces s).map (·.spelling)).flatten = s := by
  rw [pieces, piecesOnto_spellings]
  rfl

/-- Whatever is joined to the open character, nothing is lost. -/
theorem group_flatten (st : State) (current : List Bytes) (ps : List Piece) :
    (group st current ps).flatten = current.reverse.flatten ++ (ps.map (·.spelling)).flatten := by
  induction ps generalizing st current with
  | nil => simp [group]
  | cons p ps ih =>
      obtain ⟨kind, s⟩ := p
      cases kind with
      | none =>
          rw [group, ih]
          simp
      | some b =>
          rw [group]
          split
          · rw [ih]
            simp
          · rw [List.flatten_cons, ih]
            simp

end Cluster

theorem clusters_flatten (s : Bytes) : (clusters s).flatten = s := by
  have hspelt := Cluster.pieces_spellings s
  unfold clusters
  split
  · next h => rwa [h] at hspelt
  · next p rest h =>
      rw [h] at hspelt
      rw [Cluster.group_flatten]
      simpa using hspelt

namespace Column

/-- The columns that displayed characters take side by side. -/
def span (cs : List Bytes) : Nat := (cs.map ofCluster).sum

/-- What is shown of a text in `limit` columns, of which there is no limit if the number is not positive. The text
itself, if it fits. Else some of its characters from the front and three dots, where the character behind them
leaves no room for the dots. -/
def Cut (limit : Int) (text shown : Bytes) : Prop :=
  if 0 < limit ∧ limit < span (clusters text) then
    ∃ front back, clusters text = front ++ back ∧ text = front.flatten ++ back.flatten ∧
      shown = front.flatten ++ bytes "..." ∧
      (front = [] ∨ (span front : Int) + 3 ≤ limit) ∧
      ∀ c ∈ back.head?, limit < (span front : Int) + ofCluster c + 3
  else shown = text

theorem width_eq (s : Bytes) : width s = span (clusters s) := by
  rw [width, span, List.sum_eq_foldl, List.foldl_map]

/-- The characters that fit, as many as there are. -/
theorem prefixWithin_spec (room : Int) (cs : List Bytes) :
    ∃ back, cs = prefixWithin room cs ++ back ∧
      (prefixWithin room cs = [] ∨ (span (prefixWithin room cs) : Int) ≤ room) ∧
      ∀ c ∈ back.head?, room < (span (prefixWithin room cs) : Int) + ofCluster c := by
  induction cs generalizing room with
  | nil => exact ⟨[], rfl, .inl rfl, by simp⟩
  | cons c cs ih =>
      rw [prefixWithin]
      split
      · next hwide => exact ⟨c :: cs, rfl, .inl rfl, by simpa [span] using hwide⟩
      · next hfits =>
          obtain ⟨back, hcs, hfront, hback⟩ := ih (room - ofCluster c)
          have hspan : ∀ front, (span (c :: front) : Int) = ofCluster c + span front := by simp [span]
          refine ⟨back, by rw [List.cons_append, ← hcs], .inr ?_, ?_⟩
          · rw [hspan]
            rcases hfront with hnone | hfront
            · rw [hnone]
              simpa [span] using hfits
            · omega
          · intro d hd
            have := hback d hd
            rw [hspan]
            omega

theorem truncate_cut {limit : Int} (h : 0 < limit) (text : Bytes) : Cut limit text (truncate limit text) := by
  rw [Cut, truncate, width_eq]
  by_cases hfits : (span (clusters text) : Int) ≤ limit
  · rw [if_pos hfits, if_neg (by omega)]
  · rw [if_neg hfits, if_pos ⟨h, by omega⟩]
    obtain ⟨back, hsplit, hfront, hback⟩ := prefixWithin_spec (limit - 3) (clusters text)
    refine ⟨_, back, hsplit, ?_, rfl, hfront.imp_right (by omega), fun c hc => ?_⟩
    · rw [← List.flatten_append, ← hsplit, clusters_flatten]
    · have := hback c hc
      omega

theorem cut_unlimited {limit : Int} (h : ¬0 < limit) (text : Bytes) : Cut limit text text := by
  rw [Cut, if_neg (by omega)]

end Column

end FlowBlocks
