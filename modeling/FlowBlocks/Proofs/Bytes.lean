import FlowBlocks.Bytes
/-!
Cutting a text at a byte. Where the byte stands in between, the pieces of both sides follow each other.
-/
namespace FlowBlocks

theorem splitOn_ne_nil (sep : UInt8) (s : Bytes) : Bytes.splitOn sep s ≠ [] := by
  cases s with
  | nil => exact List.cons_ne_nil _ _
  | cons b s =>
      rw [Bytes.splitOn, List.foldr_cons]
      split <;> split <;> exact List.cons_ne_nil _ _

theorem splitOn_cons (sep b : UInt8) (s : Bytes) {piece : Bytes} {rest : List Bytes}
    (h : Bytes.splitOn sep s = piece :: rest) :
    Bytes.splitOn sep (b :: s) = if b = sep then [] :: piece :: rest else (b :: piece) :: rest := by
  rw [Bytes.splitOn] at h
  rw [Bytes.splitOn, List.foldr_cons, h]

theorem splitOn_append (sep : UInt8) (s t : Bytes) :
    Bytes.splitOn sep (s ++ sep :: t) = Bytes.splitOn sep s ++ Bytes.splitOn sep t := by
  induction s with
  | nil =>
      obtain ⟨piece, rest, h⟩ := List.exists_cons_of_ne_nil (splitOn_ne_nil sep t)
      rw [List.nil_append, splitOn_cons sep sep t h, if_pos rfl, h]
      rfl
  | cons b s ih =>
      obtain ⟨piece, rest, h⟩ := List.exists_cons_of_ne_nil (splitOn_ne_nil sep s)
      have h' : Bytes.splitOn sep (s ++ sep :: t) = piece :: (rest ++ Bytes.splitOn sep t) := by
        rw [ih, h, List.cons_append]
      rw [List.cons_append, splitOn_cons sep b _ h', splitOn_cons sep b s h]
      split <;> rfl

theorem splitOn_eq_singleton {sep : UInt8} {s : Bytes} (h : sep ∉ s) : Bytes.splitOn sep s = [s] := by
  induction s with
  | nil => rfl
  | cons b s ih =>
      rw [splitOn_cons sep b s (ih fun hs => h (List.mem_cons_of_mem b hs)), if_neg]
      rintro rfl
      exact h List.mem_cons_self

theorem not_mem_of_mem_splitOn {sep : UInt8} {s piece : Bytes} (h : piece ∈ Bytes.splitOn sep s) :
    sep ∉ piece := by
  induction s generalizing piece with
  | nil =>
      rw [List.mem_singleton.mp h]
      exact List.not_mem_nil
  | cons b s ih =>
      obtain ⟨first, rest, hs⟩ := List.exists_cons_of_ne_nil (splitOn_ne_nil sep s)
      rw [hs] at ih
      rw [splitOn_cons sep b s hs] at h
      split at h
      · rcases List.mem_cons.mp h with rfl | h
        · exact List.not_mem_nil
        · exact ih h
      · next hb =>
          rcases List.mem_cons.mp h with rfl | h
          · intro hsep
            rcases List.mem_cons.mp hsep with heq | hsep
            · exact hb heq.symm
            · exact ih List.mem_cons_self hsep
          · exact ih (List.mem_cons_of_mem first h)

theorem cut?_append {sep : UInt8} {s : Bytes} (h : sep ∉ s) (t : Bytes) :
    Bytes.cut? sep (s ++ sep :: t) = some (s, t) := by
  have hs : ∀ b ∈ s, (b != sep) = true := by
    intro b hb
    simpa using fun heq : b = sep => h (heq ▸ hb)
  unfold Bytes.cut?
  rw [List.dropWhile_append_of_pos hs, List.takeWhile_append_of_pos hs]
  simp

theorem cut?_eq_some {sep : UInt8} {s before after : Bytes} (h : Bytes.cut? sep s = some (before, after)) :
    s = before ++ sep :: after := by
  unfold Bytes.cut? at h
  split at h
  · cases h
  · next b rest hdrop =>
      cases h
      have hb := List.head_dropWhile_not (· != sep) (by rw [hdrop]; exact List.cons_ne_nil _ _)
      simp only [hdrop, List.head_cons, bne_eq_false_iff_eq] at hb
      rw [hb] at hdrop
      rw [← hdrop, List.takeWhile_append_dropWhile]

end FlowBlocks
