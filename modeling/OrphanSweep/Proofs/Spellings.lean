import OrphanSweep.PointId
import OrphanSweep.Proofs.Hexadecimals

/-! # How ids are spelled

    A text spells a number as an id if 32 characters that write it in hexadecimal digits are left
    when the names of the notation are struck out, the braces at the ends are taken away and the
    dashes are left out (`Spells`).  As no minus is among them, the number has 128 bits
    (`Spells.bounds`).  So an id is read from its spellings and from nothing else
    (`parse?_eq_some_iff`), and no text is refused for its number (`Spells.exists_parse`). -/

namespace OrphanSweep.PointId

/-! ## Spellings -/

/-- A text with every occurrence of a word struck out, from the left. -/
inductive Struck (word : List Char) : List Char → List Char → Prop
  | nil : Struck word [] []
  | word {s t : List Char} : Struck word s t → Struck word (word ++ s) t
  | other {c : Char} {s t : List Char} : ¬ word <+: c :: s → Struck word s t →
      Struck word (c :: s) (c :: t)

/-- A brace that may stand around an id. -/
def isBrace (c : Char) : Bool := c = '\x7b' || c = '\x7d'

/-- A text that spells a number as an id: with the names of the notation struck out it holds,
    between braces or not and with dashes anywhere, 32 characters that write the number. -/
inductive Spells (s : String) (n : Int) : Prop
  | intro {unnamed rest before body after : List Char} (urn : Struck "urn:".toList s.toList rest)
      (uuid : Struck "uuid:".toList rest unnamed) (braced : unnamed = before ++ body ++ after)
      (hbefore : Text.Padding isBrace before) (hafter : Text.Padding isBrace after)
      (width : (body.filter (· ≠ '-')).length = 32)
      (writes : Numeral.WritesHexadecimal (body.filter (· ≠ '-')) n) : Spells s n

section Struck

variable {word : List Char}

theorem without_append (u s : List Char) : without word u.length (u ++ s) = without word 0 s := by
  induction u with
  | nil => rfl
  | cons c u ih => exact ih

/-- An occurrence is dropped as a whole. -/
theorem without_word (hword : word ≠ []) (s : List Char) :
    without word 0 (word ++ s) = without word 0 s := by
  obtain ⟨c, u, rfl⟩ := List.exists_cons_of_ne_nil hword
  have hoccurs : (c :: u).isPrefixOf (c :: (u ++ s)) = true := by
    rw [List.isPrefixOf_iff_prefix]
    exact List.prefix_append (c :: u) s
  rw [List.cons_append, without, if_pos hoccurs]
  exact without_append u s

theorem without_other {c : Char} {s : List Char} (h : ¬ word <+: c :: s) :
    without word 0 (c :: s) = c :: without word 0 s := by
  rw [without, if_neg]
  rwa [List.isPrefixOf_iff_prefix]

theorem without_of_struck (hword : word ≠ []) {s t : List Char} (h : Struck word s t) :
    without word 0 s = t := by
  induction h with
  | nil => rfl
  | word _ ih => rw [without_word hword, ih]
  | other hother _ ih => rw [without_other hother, ih]

theorem struck_without (hword : word ≠ []) (s : List Char) : Struck word s (without word 0 s) := by
  -- on the length of the text, for a word takes several characters at once
  induction hn : s.length using Nat.strongRecOn generalizing s with
  | ind n ih =>
      cases s with
      | nil => exact .nil
      | cons c s =>
          by_cases hoccurs : word <+: c :: s
          · obtain ⟨rest, hrest⟩ := hoccurs
            have hlength := congrArg List.length hrest
            have hpos := List.length_pos_iff.mpr hword
            rw [List.length_append, hn] at hlength
            rw [← hrest, without_word hword]
            exact .word (ih rest.length (by omega) rest rfl)
          · rw [without_other hoccurs]
            have hshorter : s.length < n := hn ▸ Nat.lt_succ_self s.length
            exact .other hoccurs (ih s.length hshorter s rfl)

end Struck

section Reading

variable {s : String} {p : PointId} {n : Int}

theorem isBrace_dash : isBrace '-' = false := by decide

/-- A brace is no blank, and it stands behind all characters of a number. -/
theorem plain_of_isBrace {c : Char} (h : isBrace c = true) :
    Numeral.isPadding c = false ∧ Numeral.plainDigit c = c ∧ 0x7B ≤ c.toNat := by
  rw [isBrace, Bool.or_eq_true, decide_eq_true_eq, decide_eq_true_eq] at h
  rcases h with rfl | rfl <;> decide

/-- Neither the blanks around a number nor its characters are braces. -/
theorem not_isBrace_of_mem {digits : List Char} (h : Numeral.WritesHexadecimal digits n) :
    ∀ c ∈ digits, isBrace c = false := by
  obtain ⟨before, body, after, rfl, hbefore, hafter, hspells⟩ := h
  intro c hc
  rw [Bool.eq_false_iff]
  intro hbrace
  obtain ⟨hpadding, hplain, hlarge⟩ := plain_of_isBrace hbrace
  rw [List.mem_append, List.mem_append] at hc
  rcases hc with (hc | hc) | hc
  · rw [hbefore c hc] at hpadding
    cases hpadding
  · have hvisible := hspells.visible _ (List.mem_map_of_mem hc)
    rw [hplain] at hvisible
    omega
  · rw [hafter c hc] at hpadding
    cases hpadding

/-- Nothing is trimmed from what is left between the braces, for no number begins with one. -/
theorem bare_of_writes {body : List Char}
    (h : Numeral.WritesHexadecimal (body.filter (· ≠ '-')) n) : Text.Bare isBrace body := by
  refine Text.bare_of_forall fun c hc => ?_
  by_cases hdash : c = '-'
  · rw [hdash]
    exact isBrace_dash
  · exact not_isBrace_of_mem h c (List.mem_filter.mpr ⟨hc, decide_eq_true hdash⟩)

theorem core_eq (s : List Char) : core s =
    (Text.trimBy isBrace (without "uuid:".toList 0 (without "urn:".toList 0 s))).filter (· ≠ '-') :=
  rfl

/-- What a spelling holds is its core. -/
theorem spells_iff : Spells s n ↔
    (core s.toList).length = 32 ∧ Numeral.WritesHexadecimal (core s.toList) n := by
  constructor
  · intro h
    cases h with
    | @intro unnamed rest before body after hurn huuid hbraced hbefore hafter hwidth hwrites =>
        have hcore : core s.toList = body.filter (· ≠ '-') := by
          rw [core_eq, without_of_struck (by decide) hurn, without_of_struck (by decide) huuid,
            hbraced, Text.trimBy_padded hbefore (bare_of_writes hwrites) hafter]
        rw [hcore]
        exact ⟨hwidth, hwrites⟩
  · rintro ⟨hwidth, hwrites⟩
    obtain ⟨before, after, hbefore, hafter, hbraced⟩ := Text.exists_padding isBrace
      (without "uuid:".toList 0 (without "urn:".toList 0 s.toList))
    exact ⟨struck_without (by decide) _, struck_without (by decide) _, hbraced, hbefore, hafter,
      hwidth, hwrites⟩

theorem dash_not_mem_core (s : List Char) : '-' ∉ core s := by
  rw [core_eq, List.mem_filter]
  exact fun h => of_decide_eq_true h.2 rfl

/-- **No spelling is out of range**: a number of 32 characters without a minus has 128 bits. -/
theorem Spells.bounds (h : Spells s n) : 0 ≤ n ∧ n < 2 ^ 128 := by
  obtain ⟨hwidth, hwrites⟩ := spells_iff.mp h
  have hbounds := hwrites.bounds (dash_not_mem_core _)
  rwa [hwidth] at hbounds

/-- **An id is read from its spellings**, and from no other text. -/
theorem parse?_eq_some_iff : parse? s = some p ↔ Spells s p.val := by
  constructor
  · intro h
    dsimp only [parse?] at h
    split at h
    · rename_i hwidth
      obtain ⟨n, hn, h⟩ := Option.bind_eq_some_iff.mp h
      split at h
      · rename_i hnonneg
        rw [ofNat?] at h
        split at h
        · cases h
          refine spells_iff.mpr ⟨hwidth, ?_⟩
          rw [← Numeral.hexadecimal?_eq_some_iff, Int.toNat_of_nonneg hnonneg]
          exact hn
        · cases h
      · cases h
    · cases h
  · intro h
    obtain ⟨hwidth, hwrites⟩ := spells_iff.mp h
    have hn := Numeral.hexadecimal?_eq_some_iff.mpr hwrites
    have hrange : ofNat? p.val = some p := dif_pos p.isLt
    simp [parse?, hwidth, hn, hrange]

/-- What is spelled is read. -/
theorem Spells.exists_parse (h : Spells s n) : ∃ p, parse? s = some p ∧ (p.val : Int) = n := by
  obtain ⟨hnonneg, hlt⟩ := h.bounds
  obtain ⟨m, rfl⟩ := Int.eq_ofNat_of_zero_le hnonneg
  have hm : m < count := by exact_mod_cast hlt
  exact ⟨⟨m, hm⟩, parse?_eq_some_iff.mpr h, rfl⟩

end Reading

end OrphanSweep.PointId
