import OrphanSweep.Registry.Query.Basic

/-! # Queries with plain names

    Names without square brackets cannot spell a placeholder, and a column without blanks but
    spaces leaves the placeholder for the ids to be found: with such names the query is sound
    (`fate_eq_sound`).  The text before the placeholder for the ids holds no opening mark
    (`placeholders_append_opening`), and the placeholder is read back up to its own bracket
    (`placeholder?_name`). -/

namespace OrphanSweep.Query

/-! ## Finding a placeholder -/

/-- Nothing without a square bracket opens a placeholder, and it takes no part in one. -/
theorem placeholders_append_opening {before : List Char} (h : '[' ∉ before) (s : List Char) :
    placeholders 0 (before ++ (opening ++ s)) = placeholders 0 (opening ++ s) := by
  induction before with
  | nil => rfl
  | cons a before ih =>
    have apart : opening.isPrefixOf (a :: (before ++ (opening ++ s))) = false := by
      match before with
      | []          => simp [opening, List.isPrefixOf]
      | [b]         => simp [opening, List.isPrefixOf]
      | b :: c :: _ =>
        have : '[' ≠ c := by rintro rfl; simp at h
        simp [opening, List.isPrefixOf, this]
    simp only [List.cons_append, placeholders, apart, Bool.false_eq_true, if_false]
    exact ih fun hm => h (List.mem_cons_of_mem a hm)

/-- Passing characters leaves those behind them. -/
theorem placeholders_skip (n : Nat) (s : List Char) :
    placeholders n s = placeholders 0 (s.drop n) := by
  induction s generalizing n with
  | nil => cases n <;> rfl
  | cons c s ih =>
    cases n with
    | zero   => rfl
    | succ n => simpa [placeholders] using ih n

/-- A placeholder is found where it opens, and the search goes on behind it. -/
theorem placeholders_opening {found : Placeholder} {s rest : List Char}
    (h : placeholder? [] (s ++ rest) = some (found, rest)) :
    placeholders 0 (opening ++ (s ++ rest)) = found :: placeholders 0 rest := by
  have opens : opening.isPrefixOf (opening ++ (s ++ rest)) = true :=
    List.isPrefixOf_iff_prefix.2 (List.prefix_append ..)
  have behind : (opening ++ (s ++ rest)).drop opening.length = s ++ rest := List.drop_left ..
  have skipped : (opening.tail ++ (s ++ rest)).drop
      ((opening.tail ++ (s ++ rest)).length - rest.length) = rest := by
    rw [← List.append_assoc, List.length_append, Nat.add_sub_cancel, List.drop_left]
  have split : opening ++ (s ++ rest) = '_' :: (opening.tail ++ (s ++ rest)) := rfl
  rw [split] at opens behind ⊢
  simp only [placeholders, opens, if_true, behind, h]
  rw [placeholders_skip, skipped]

/-- No tildes end where the name of the placeholder for the ids does. -/
theorem wrap?_eq_none {body : List Char} (h : ']' ∉ body) (read : List Char) :
    wrap? read (body ++ ['_', '1', ']', ')']) = none := by
  induction body generalizing read with
  | nil => simp [wrap?]
  | cons a body ih =>
    have apart : ['~', '~', ']'].isPrefixOf (a :: (body ++ ['_', '1', ']', ')'])) = false := by
      match body with
      | []          => simp [List.isPrefixOf]
      | [b]         => simp [List.isPrefixOf]
      | b :: c :: _ =>
        have : ']' ≠ c := by rintro rfl; simp at h
        simp [List.isPrefixOf, this]
    simp only [List.cons_append, wrap?, apart, Bool.false_eq_true, and_false, if_false]
    split
    · rfl
    · exact ih (fun hm => h (List.mem_cons_of_mem a hm)) _

/-- A placeholder with a plain name is read back up to its bracket. -/
theorem placeholder?_name {body : List Char} (h : ∀ c ∈ body, c ≠ ']' ∧ Text.isBlank c = false)
    (read : List Char) :
    placeholder? read (body ++ ['_', '1', ']', ')']) =
      some ({ name := read.reverse ++ body ++ ['_', '1'] }, [')']) := by
  induction body generalizing read with
  | nil =>
    have one : Text.isBlank '_' = false := by decide
    have two : Text.isBlank '1' = false := by decide
    simp [placeholder?, close?, one, two]
  | cons a body ih =>
    have tail : ∀ c ∈ body, c ≠ ']' ∧ Text.isBlank c = false :=
      fun c hc => h c (List.mem_cons_of_mem a hc)
    have head := h a List.mem_cons_self
    have closed : close? read.reverse (a :: (body ++ ['_', '1', ']', ')'])) = none := by
      unfold close?
      split
      · next heq => exact absurd (List.cons.inj heq).1 head.1
      · next s heq =>
        obtain ⟨b, rfl, hb⟩ : ∃ b, body = '~' :: b ∧ s = b ++ ['_', '1', ']', ')'] := by
          cases body <;> simp_all
        have rest : ']' ∉ b := fun hm => (tail ']' (List.mem_cons_of_mem _ hm)).1 rfl
        rw [hb, wrap?_eq_none rest]
        rfl
      · rfl
    simp [placeholder?, closed, head.2, ih tail]

/-! ## The name of the placeholder for the ids -/

/-- Squeezing keeps the characters that are not special, and adds underscores. -/
theorem mem_squeezed {c : Char} {s : List Char} (h : c ∈ squeezed s) :
    c = '_' ∨ c ∈ s ∧ isSpecial c = false := by
  fun_induction squeezed s with
  | case1 => simp at h
  | case2 a s ha ih =>
    rcases List.mem_cons.1 h with rfl | hs
    · exact .inr ⟨List.mem_cons_self, by simpa using ha⟩
    · exact (ih hs).imp_right fun hc => ⟨List.mem_cons_of_mem a hc.1, hc.2⟩
  | case3 a s _ _ ih =>
    exact (ih h).imp_right fun hc => ⟨List.mem_cons_of_mem a hc.1, hc.2⟩
  | case4 a s _ _ ih =>
    rcases List.mem_cons.1 h with rfl | hs
    · exact .inl rfl
    · exact (ih hs).imp_right fun hc => ⟨List.mem_cons_of_mem a hc.1, hc.2⟩

/-- A column without blanks but spaces gives a name that a search can read. -/
theorem stem_plain {column : String}
    (h : ∀ c ∈ column.toList, Text.isBlank c = true → c = ' ') :
    ∀ c ∈ stem column, c ≠ ']' ∧ Text.isBlank c = false := by
  intro c hc
  obtain ⟨a, ha, rfl⟩ := List.mem_map.1 hc
  have plain : Text.isBlank a = false := by
    rcases mem_squeezed (Text.mem_of_mem_trimBy ha) with rfl | ⟨hm, hs⟩
    · decide
    · refine Bool.eq_false_iff.2 fun hb => ?_
      simp [h a hm hb, isSpecial] at hs
  have one : Text.isBlank 'C' = false := by decide
  have two : Text.isBlank '_' = false := by decide
  unfold plainForm
  split
  · exact ⟨by decide, one⟩
  · split
    · exact ⟨by decide, two⟩
    · next hb => exact ⟨fun heq => hb (by simp [heq]), plain⟩

/-! ## The text -/

/-- Quoting a name adds only double quotes. -/
theorem not_mem_quoted {c : Char} {name : String} (h : c ∉ name.toList) (hq : c ≠ '"') :
    c ∉ quoted name := by
  intro hc
  simp only [quoted, List.cons_append, List.mem_cons, List.mem_append, List.mem_flatMap] at hc
  rcases hc with hc | ⟨a, ha, hc⟩ | hc
  · exact hq hc
  · split at hc
    · simp_all
    · simp_all
  · simp_all

/-- What stands before the placeholder for the ids has a square bracket only from a name. -/
theorem not_mem_lead {table column : String} (ht : '[' ∉ table.toList)
    (hc : '[' ∉ column.toList) : '[' ∉ lead table column := by
  have one : '[' ∉ quoted table := not_mem_quoted ht (by decide)
  have two : '[' ∉ quoted column := not_mem_quoted hc (by decide)
  have field : '[' ∉ quoted table ++ '.' :: quoted column :=
    List.not_mem_append one (List.not_mem_cons_of_ne_of_not_mem (by decide) two)
  have words : ∀ w ∈ ["SELECT ", " \nFROM ", " \nWHERE ", " IN ("], '[' ∉ w.toList := by
    decide +kernel
  simp only [List.forall_mem_cons] at words
  exact List.not_mem_append (List.not_mem_append (List.not_mem_append (List.not_mem_append
    (List.not_mem_append (List.not_mem_append words.1 field) words.2.1) one) words.2.2.1) field)
    words.2.2.2.1

/-- Plain names leave a query sound: neither has a square bracket, and the column has no blanks
    but spaces. -/
theorem fate_eq_sound {table column : String} (ht : '[' ∉ table.toList)
    (hc : '[' ∉ column.toList) (hb : ∀ c ∈ column.toList, Text.isBlank c = true → c = ' ') :
    fate table column = .sound := by
  have found : placeholders 0 (text table column) = [{ name := placeholderName column }] := by
    rw [text, placeholders_append_opening (not_mem_lead ht hc)]
    have read : placeholder? [] ((stem column ++ ['_', '1', ']']) ++ [')']) =
        some ({ name := placeholderName column }, [')']) := by
      simpa [placeholderName] using placeholder?_name (stem_plain hb) []
    have last : placeholders 0 [')'] = [] := by decide
    simpa [placeholderName, last] using placeholders_opening read
  simp [fate, found, Placeholder.isFillable]

end OrphanSweep.Query
