/-! # Cutting a text at a separator

    `pieces` cuts at every separator and keeps the empty pieces, so that no piece holds a separator
    (`not_mem_of_mem_pieces`).  Pieces without a separator in them come back from the text that they
    are joined to (`pieces_join`). -/

namespace OrphanSweep.Text

/-- The pieces of a text between the separators, the empty ones among them. -/
def pieces (sep : Char) : List Char → List (List Char)
  | []     => [[]]
  | c :: s => if c = sep then [] :: pieces sep s else (pieces sep s).modifyHead (c :: ·)

/-- The pieces in a row with the separator between each two. -/
def join (sep : Char) : List (List Char) → List Char
  | []          => []
  | [p]         => p
  | p :: q :: r => p ++ sep :: join sep (q :: r)

theorem pieces_ne_nil (sep : Char) (s : List Char) : pieces sep s ≠ [] := by
  induction s with
  | nil => simp [pieces]
  | cons c s ih =>
      by_cases h : c = sep
      · simp [pieces, h]
      · simpa [pieces, h] using ih

theorem pieces_sep (sep : Char) (s : List Char) : pieces sep (sep :: s) = [] :: pieces sep s := by
  rw [pieces, if_pos rfl]

/-- A character that is no separator goes to the first piece. -/
theorem pieces_of_ne {sep c : Char} (hc : c ≠ sep) {s p : List Char} {ps : List (List Char)}
    (hs : pieces sep s = p :: ps) : pieces sep (c :: s) = (c :: p) :: ps := by
  rw [pieces, if_neg hc, hs]
  rfl

theorem pieces_of_not_mem {sep : Char} {p : List Char} (h : sep ∉ p) : pieces sep p = [p] := by
  induction p with
  | nil => rfl
  | cons c p ih =>
      rw [List.mem_cons, not_or] at h
      obtain ⟨hc, hp⟩ := h
      exact pieces_of_ne (Ne.symm hc) (ih hp)

theorem pieces_append {sep : Char} {p : List Char} (h : sep ∉ p) (s : List Char) :
    pieces sep (p ++ sep :: s) = p :: pieces sep s := by
  induction p with
  | nil => exact pieces_sep sep s
  | cons c p ih =>
      rw [List.mem_cons, not_or] at h
      obtain ⟨hc, hp⟩ := h
      exact pieces_of_ne (Ne.symm hc) (ih hp)

/-- Joining loses nothing, if no piece holds a separator and there is one. -/
theorem pieces_join {sep : Char} : ∀ {ps : List (List Char)}, ps ≠ [] → (∀ p ∈ ps, sep ∉ p) →
    pieces sep (join sep ps) = ps
  | [], hne, _ => absurd rfl hne
  | [p], _, h => pieces_of_not_mem (h p List.mem_cons_self)
  | p :: q :: r, _, h => by
      obtain ⟨hp, hrest⟩ := List.forall_mem_cons.mp h
      rw [join, pieces_append hp, pieces_join (List.cons_ne_nil q r) hrest]

/-- No piece holds a separator. -/
theorem not_mem_of_mem_pieces {sep : Char} {s : List Char} :
    ∀ p ∈ pieces sep s, sep ∉ p := by
  induction s with
  | nil =>
      intro p hp
      rw [List.mem_singleton.mp hp]
      exact List.not_mem_nil
  | cons c s ih =>
      by_cases hc : c = sep
      · rw [hc, pieces_sep]
        exact List.forall_mem_cons.mpr ⟨List.not_mem_nil, ih⟩
      · obtain ⟨p, ps, hs⟩ := List.exists_cons_of_ne_nil (pieces_ne_nil sep s)
        rw [hs] at ih
        obtain ⟨hp, hps⟩ := List.forall_mem_cons.mp ih
        rw [pieces_of_ne hc hs]
        refine List.forall_mem_cons.mpr ⟨?_, hps⟩
        rw [List.mem_cons, not_or]
        exact ⟨Ne.symm hc, hp⟩

end OrphanSweep.Text
