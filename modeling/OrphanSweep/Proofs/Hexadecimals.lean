import OrphanSweep.Numeral.Hexadecimal
import OrphanSweep.Proofs.Numerals

/-! # The texts of hexadecimal numbers

    Reading is lenient: between blanks stand one sign or none, the mark `0x` or none, and digits of
    either case and of any script in a row.  It takes exactly the texts of this grammar
    (`hexadecimal?_eq_some_iff`).  A numeral has no more digits than characters, so a text without a
    minus stands for a number that its length bounds (`WritesHexadecimal.bounds`).  Writing is
    strict: as many lower-case digits as are asked for.  They are read back
    (`writesHexadecimal_of_lt`), any other lower-case digits are written likewise
    (`exists_hexadecimal`), and texts of one width are in the order of their numbers
    (`hexadecimal_lt_iff`). -/

namespace OrphanSweep

/-- Texts whose first parts are equally long are compared by these, and only then by the rest. -/
theorem Text.append_lt_append_iff {s t s' t' : List Char} (h : s.length = t.length) :
    s ++ s' < t ++ t' ↔ s < t ∨ s = t ∧ s' < t' := by
  induction s generalizing t with
  | nil =>
      obtain rfl : t = [] := List.length_eq_zero_iff.mp h.symm
      simp
  | cons a s ih =>
      cases t with
      | nil => cases h
      | cons b t =>
          rw [List.cons_append, List.cons_append, List.cons_lt_cons_iff, List.cons_lt_cons_iff,
            ih (Nat.succ.inj h), List.cons.injEq]
          tauto

namespace Numeral

/-! ## Digits -/

theorem hexDigit?_hexDigit : ∀ d < 16, hexDigit? (hexDigit d) = some d := by decide

theorem plainDigit_hexDigit : ∀ d < 16, plainDigit (hexDigit d) = hexDigit d := by decide

theorem hexDigit_lt_iff : ∀ m < 16, ∀ n < 16, hexDigit m < hexDigit n ↔ m < n := by decide

/-- The underscore, the signs and the letter of the mark are no digits. -/
theorem hexDigit?_eq_none : hexDigit? '_' = none ∧ hexDigit? '+' = none ∧ hexDigit? '-' = none ∧
    hexDigit? 'x' = none ∧ hexDigit? 'X' = none := by decide

/-- The digits are three stretches of the alphabet. -/
theorem hexDigit?_eq_some {c : Char} {d : Nat} (h : hexDigit? c = some d) :
    (48 ≤ c.toNat ∧ c.toNat ≤ 57 ∧ d = c.toNat - 48) ∨
      (97 ≤ c.toNat ∧ c.toNat ≤ 102 ∧ d = c.toNat - 87) ∨
      (65 ≤ c.toNat ∧ c.toNat ≤ 70 ∧ d = c.toNat - 55) := by
  simp only [hexDigit?, Bool.and_eq_true, decide_eq_true_eq, Char.le_def, UInt32.le_iff_toNat_le]
    at h
  split at h
  · rename_i hc
    exact Or.inl ⟨hc.1, hc.2, (Option.some.inj h).symm⟩
  · split at h
    · rename_i hc
      exact Or.inr (Or.inl ⟨hc.1, hc.2, (Option.some.inj h).symm⟩)
    · split at h
      · rename_i hc
        exact Or.inr (Or.inr ⟨hc.1, hc.2, (Option.some.inj h).symm⟩)
      · cases h

theorem lt_of_hexDigit? {c : Char} {d : Nat} (h : hexDigit? c = some d) : d < 16 := by
  have := hexDigit?_eq_some h
  omega

theorem lt_of_digit? {c : Char} {d : Nat} (h : Text.digit? c = some d) : d < 10 := by
  obtain ⟨start, hstart, rfl⟩ := Option.map_eq_some_iff.mp h
  have hrange := List.find?_some hstart
  rw [Bool.and_eq_true, decide_eq_true_eq, decide_eq_true_eq] at hrange
  omega

/-- A character becomes the digit of its value if it is one, and stays as it is otherwise. -/
theorem plainDigit_cases (c : Char) :
    (∃ d < 10, Text.digit? c = some d ∧ plainDigit c = hexDigit d) ∨
      Text.digit? c = none ∧ plainDigit c = c := by
  cases h : Text.digit? c with
  | none => exact Or.inr ⟨rfl, by rw [plainDigit, h]⟩
  | some d => exact Or.inl ⟨d, lt_of_digit? h, rfl, by rw [plainDigit, h]⟩

/-- No digit becomes a minus. -/
theorem eq_minus_of_plainDigit {c : Char} (h : plainDigit c = '-') : c = '-' := by
  rcases plainDigit_cases c with ⟨d, hd, -, hc⟩ | ⟨-, hc⟩
  · have hminus : ∀ d < 10, hexDigit d ≠ '-' := by decide
    exact absurd (hc.symm.trans h) (hminus d hd)
  · exact hc.symm.trans h

/-! ## The grammar -/

/-- The digits of a number behind the mark `0x`, which an underscore may close, or behind none; the
    first digit weighs most. -/
inductive Marked : List Char → Nat → Prop
  | plain {s : List Char} {ds : List Nat} : Grouped hexDigit? s ds →
      Marked s (Nat.ofDigits 16 ds.reverse)
  | marked {x : Char} {s : List Char} {ds : List Nat} : x = 'x' ∨ x = 'X' →
      Grouped hexDigit? s ds → Marked ('0' :: x :: s) (Nat.ofDigits 16 ds.reverse)
  | parted {x : Char} {s : List Char} {ds : List Nat} : x = 'x' ∨ x = 'X' →
      Grouped hexDigit? s ds → Marked ('0' :: x :: '_' :: s) (Nat.ofDigits 16 ds.reverse)

/-- The texts of a number with plain digits and no blanks: one sign or none, a mark or none, and
    digits. -/
inductive SpellsHexadecimal : List Char → Int → Prop
  | unsigned {s : List Char} {n : Nat} : Marked s n → SpellsHexadecimal s n
  | plus {s : List Char} {n : Nat} : Marked s n → SpellsHexadecimal ('+' :: s) n
  | minus {s : List Char} {n : Nat} : Marked s n → SpellsHexadecimal ('-' :: s) (-n)

/-- The texts of a number: blanks may stand around it, and its digits may be of any script. -/
def WritesHexadecimal (s : List Char) (n : Int) : Prop :=
  ∃ before body after, s = before ++ body ++ after ∧ Text.Padding isPadding before ∧
    Text.Padding isPadding after ∧ SpellsHexadecimal (body.map plainDigit) n

/-! ## Reading -/

section Reading

variable {s : List Char} {n : Nat} {ds : List Nat}

/-- The second character of a row of digits is a digit or an underscore, so no mark begins it. -/
theorem unmarked_of_grouped (h : Grouped hexDigit? s ds) : unmarked s = s := by
  obtain ⟨-, -, -, hx, hX⟩ := hexDigit?_eq_none
  cases h with
  | single _ => simp [unmarked]
  | parted _ _ => simp [unmarked]
  | next _ hrest =>
      obtain ⟨c, rest, d, rfl, hc⟩ := hrest.head
      have hne : c ≠ 'x' ∧ c ≠ 'X' := by
        constructor <;> rintro rfl <;> simp_all
      simp [unmarked, hne]

/-- Digits do not begin with an underscore, so none is taken for the end of the mark. -/
theorem unmarked_marked {x : Char} (hx : x = 'x' ∨ x = 'X') (h : Grouped hexDigit? s ds) :
    unmarked ('0' :: x :: s) = s := by
  obtain ⟨c, rest, d, rfl, hc⟩ := h.head
  have hne : c ≠ '_' := ne_underscore hexDigit?_eq_none.1 hc
  rcases hx with rfl | rfl <;> simp [unmarked, hne]

theorem marked_iff : Marked s n ↔
    ∃ ds, Grouped hexDigit? (unmarked s) ds ∧ n = Nat.ofDigits 16 ds.reverse := by
  constructor
  · intro h
    cases h with
    | plain hgrouped => exact ⟨_, by rwa [unmarked_of_grouped hgrouped], rfl⟩
    | marked hx hgrouped => exact ⟨_, by rwa [unmarked_marked hx hgrouped], rfl⟩
    | parted hx hgrouped => rcases hx with rfl | rfl <;> exact ⟨_, hgrouped, rfl⟩
  · rintro ⟨ds, hgrouped, rfl⟩
    unfold unmarked at hgrouped
    split at hgrouped
    · exact .parted (Or.inl rfl) hgrouped
    · exact .parted (Or.inr rfl) hgrouped
    · exact .marked (Or.inl rfl) hgrouped
    · exact .marked (Or.inr rfl) hgrouped
    · exact .plain hgrouped

/-- An unsigned text begins with a digit and not with a sign. -/
theorem sign_of_marked (h : Marked s n) : sign s = (false, s) := by
  cases h with
  | plain hgrouped =>
      exact sign_of_grouped hexDigit?_eq_none.2.1 hexDigit?_eq_none.2.2.1 hgrouped
  | marked _ _ => exact sign_of_ne (by decide) (by decide) _
  | parted _ _ => exact sign_of_ne (by decide) (by decide) _

theorem spellsHexadecimal_iff {n : Int} :
    SpellsHexadecimal s n ↔ ∃ m, Marked (sign s).2 m ∧ n = signed (sign s).1 m := by
  constructor
  · intro h
    cases h with
    | unsigned hmarked =>
        rw [sign_of_marked hmarked]
        exact ⟨_, hmarked, rfl⟩
    | plus hmarked => exact ⟨_, hmarked, rfl⟩
    | minus hmarked => exact ⟨_, hmarked, rfl⟩
  · rintro ⟨m, hmarked, rfl⟩
    unfold sign at hmarked ⊢
    split at hmarked
    · exact .plus hmarked
    · exact .minus hmarked
    · exact .unsigned hmarked

/-- What is read is spelled by the trimmed text, its digits written plainly. -/
theorem hexadecimal?_iff_trimmed {n : Int} : hexadecimal? s = some n ↔
    SpellsHexadecimal ((Text.trimBy isPadding s).map plainDigit) n := by
  rw [spellsHexadecimal_iff, hexadecimal?]
  simp only [Option.map_eq_some_iff, digits?_eq_some_iff hexDigit?_eq_none.1, marked_iff,
    ofDigits_eq]
  constructor
  · rintro ⟨ds, hgrouped, rfl⟩
    exact ⟨_, ⟨ds, hgrouped, rfl⟩, rfl⟩
  · rintro ⟨m, ⟨ds, hgrouped, rfl⟩, rfl⟩
    exact ⟨ds, hgrouped, rfl⟩

/-- The characters of a number stand behind the blank and in front of the braces. -/
theorem SpellsHexadecimal.visible {n : Int} (h : SpellsHexadecimal s n) :
    ∀ c ∈ s, 0x20 < c.toNat ∧ c.toNat < 0x7B := by
  have hdigits : ∀ {s ds}, Grouped hexDigit? s ds → ∀ c ∈ s, 0x20 < c.toNat ∧ c.toNat < 0x7B := by
    intro s ds hgrouped c hc
    rcases hgrouped.forall_mem c hc with rfl | ⟨d, hd⟩
    · decide
    · have := hexDigit?_eq_some hd
      omega
  have hmarked : ∀ {s n}, Marked s n → ∀ c ∈ s, 0x20 < c.toNat ∧ c.toNat < 0x7B := by
    intro s n hmarked
    cases hmarked with
    | plain hgrouped => exact hdigits hgrouped
    | marked hx hgrouped => rcases hx with rfl | rfl <;> simpa using hdigits hgrouped
    | parted hx hgrouped => rcases hx with rfl | rfl <;> simpa using hdigits hgrouped
  cases h with
  | unsigned h => exact hmarked h
  | plus h => simpa using hmarked h
  | minus h => simpa using hmarked h

/-- What becomes a character of a number is no blank. -/
theorem not_isPadding_of_visible {c : Char}
    (h : 0x20 < (plainDigit c).toNat ∧ (plainDigit c).toNat < 0x7B) : isPadding c = false := by
  have hblank : Text.isBlank c = false := by
    rcases plainDigit_cases c with ⟨d, -, hd, -⟩ | ⟨-, hc⟩
    · exact isBlank_of_digit? hd
    · rw [hc] at h
      have happart : Text.Ranges.areApart [(0x21, 0x7A)] Text.blanks = true := by decide
      refine Text.Ranges.not_has_of_areApart happart ?_
      rw [Text.Ranges.has_iff]
      exact ⟨_, List.mem_singleton_self _, h.1, Nat.le_of_lt_succ h.2⟩
  rw [isPadding, hblank, Bool.false_and]

/-- **A hexadecimal number is read from the texts that write it**, and from no others. -/
theorem hexadecimal?_eq_some_iff {n : Int} : hexadecimal? s = some n ↔ WritesHexadecimal s n := by
  rw [hexadecimal?_iff_trimmed]
  constructor
  · intro hspells
    obtain ⟨before, after, hbefore, hafter, hs⟩ := Text.exists_padding isPadding s
    exact ⟨before, _, after, hs, hbefore, hafter, hspells⟩
  · rintro ⟨before, body, after, rfl, hbefore, hafter, hspells⟩
    have hbare : Text.Bare isPadding body := by
      refine Text.bare_of_forall fun c hc => not_isPadding_of_visible ?_
      exact hspells.visible _ (List.mem_map_of_mem hc)
    rwa [Text.trimBy_padded hbefore hbare hafter]

/-! ## Bounds -/

/-- A number has no more digits than its text has characters. -/
theorem Marked.lt_pow (h : Marked s n) : n < 16 ^ s.length := by
  have hdigits : ∀ {s ds}, Grouped hexDigit? s ds → Nat.ofDigits 16 ds.reverse < 16 ^ s.length := by
    intro s ds hgrouped
    have hvalues : ∀ d ∈ ds.reverse, d < 16 := by
      intro d hd
      exact hgrouped.forall_value (fun _ _ => lt_of_hexDigit?) d (List.mem_reverse.mp hd)
    calc Nat.ofDigits 16 ds.reverse
        < 16 ^ ds.reverse.length := Nat.ofDigits_lt_base_pow_length (by decide) hvalues
      _ ≤ 16 ^ s.length := by
          rw [List.length_reverse]
          exact Nat.pow_le_pow_right (by decide) hgrouped.length_le
  cases h with
  | plain hgrouped => exact hdigits hgrouped
  | marked _ hgrouped =>
      exact (hdigits hgrouped).trans_le (Nat.pow_le_pow_right (by decide) (Nat.le_add_right _ 2))
  | parted _ hgrouped =>
      exact (hdigits hgrouped).trans_le (Nat.pow_le_pow_right (by decide) (Nat.le_add_right _ 3))

/-- Without a minus a number is not negative. -/
theorem SpellsHexadecimal.bounds {n : Int} (h : SpellsHexadecimal s n) (hminus : '-' ∉ s) :
    0 ≤ n ∧ n < 16 ^ s.length := by
  cases h with
  | unsigned hmarked =>
      have := hmarked.lt_pow
      exact ⟨Int.natCast_nonneg _, by exact_mod_cast this⟩
  | @plus s m hmarked =>
      have hlt : m < 16 ^ (s.length + 1) :=
        hmarked.lt_pow.trans_le (Nat.pow_le_pow_right (by decide) (Nat.le_succ _))
      exact ⟨Int.natCast_nonneg _, by exact_mod_cast hlt⟩
  | minus _ => exact absurd List.mem_cons_self hminus

/-- **The length of a text without a minus bounds its number.** -/
theorem WritesHexadecimal.bounds {n : Int} (h : WritesHexadecimal s n) (hminus : '-' ∉ s) :
    0 ≤ n ∧ n < 16 ^ s.length := by
  obtain ⟨before, body, after, rfl, -, -, hspells⟩ := h
  have hplain : '-' ∉ body.map plainDigit := by
    rintro hmem
    obtain ⟨c, hc, hplain⟩ := List.mem_map.mp hmem
    rw [eq_minus_of_plainDigit hplain] at hc
    exact hminus (List.mem_append_left _ (List.mem_append_right _ hc))
  obtain ⟨hnonneg, hlt⟩ := hspells.bounds hplain
  refine ⟨hnonneg, hlt.trans_le ?_⟩
  rw [List.length_map, List.length_append, List.length_append]
  exact_mod_cast Nat.pow_le_pow_right (by decide) (by omega)

end Reading

/-! ## Numbers of a fixed width -/

section Width

variable {width m n : Nat}

/-- The lower-case digits, in order. -/
def lowerDigits : List Char := "0123456789abcdef".toList

theorem mem_lowerDigits {c : Char} : c ∈ lowerDigits ↔ ∃ d < 16, c = hexDigit d := by
  have hall : lowerDigits = (List.range 16).map hexDigit := by decide
  simp only [hall, List.mem_map, List.mem_range, eq_comm]

/-- Numbers are written with lower-case digits. -/
theorem mem_lowerDigits_of_mem_hexadecimal {c : Char} (h : c ∈ hexadecimal width n) :
    c ∈ lowerDigits := by
  induction width generalizing n with
  | zero => cases h
  | succ width ih =>
      rcases List.mem_append.mp h with h | h
      · exact ih h
      · exact mem_lowerDigits.mpr ⟨n % 16, Nat.mod_lt n (by decide), List.mem_singleton.mp h⟩

theorem div_lt_pow (h : n < 16 ^ (width + 1)) : n / 16 < 16 ^ width := by
  rw [Nat.pow_succ] at h
  exact Nat.div_lt_of_lt_mul (by omega)

/-- The digits of a fixed width stand for the number, if there are enough of them. -/
theorem grouped_hexadecimal (h : n < 16 ^ (width + 1)) :
    ∃ ds, Grouped hexDigit? (hexadecimal (width + 1) n) ds ∧ Nat.ofDigits 16 ds.reverse = n := by
  induction width generalizing n with
  | zero =>
      have hn : n % 16 = n := Nat.mod_eq_of_lt h
      refine ⟨[n], .single ?_, Nat.ofDigits_singleton⟩
      rw [hn]
      exact hexDigit?_hexDigit n h
  | succ width ih =>
      obtain ⟨ds, hgrouped, hvalue⟩ := ih (div_lt_pow h)
      refine ⟨ds ++ [n % 16],
        hgrouped.concat (hexDigit?_hexDigit _ (Nat.mod_lt n (by decide))), ?_⟩
      rw [List.reverse_append, List.reverse_singleton, List.singleton_append, Nat.ofDigits_cons,
        hvalue]
      exact Nat.mod_add_div n 16

/-- **A number that is written with enough digits is read back.** -/
theorem writesHexadecimal_of_lt (h : n < 16 ^ (width + 1)) :
    WritesHexadecimal (hexadecimal (width + 1) n) n := by
  obtain ⟨ds, hgrouped, hvalue⟩ := grouped_hexadecimal h
  have hplain : (hexadecimal (width + 1) n).map plainDigit = hexadecimal (width + 1) n := by
    refine (List.map_congr_left fun c hc => ?_).trans (List.map_id _)
    obtain ⟨d, hd, rfl⟩ := mem_lowerDigits.mp (mem_lowerDigits_of_mem_hexadecimal hc)
    exact plainDigit_hexDigit d hd
  have hspells : SpellsHexadecimal (hexadecimal (width + 1) n) n := by
    have hmarked := Marked.plain hgrouped
    rw [hvalue] at hmarked
    exact .unsigned hmarked
  refine ⟨[], hexadecimal (width + 1) n, [], ?_, List.forall_mem_nil _, List.forall_mem_nil _, ?_⟩
  · rw [List.nil_append, List.append_nil]
  · rwa [hplain]

/-- Any lower-case digits are those of a number. -/
theorem exists_hexadecimal (l : List Char) (h : ∀ c ∈ l, c ∈ lowerDigits) :
    ∃ n < 16 ^ l.length, hexadecimal l.length n = l := by
  induction l using List.reverseRecOn with
  | nil => exact ⟨0, by decide, rfl⟩
  | append_singleton l c ih =>
      obtain ⟨n, hn, hl⟩ := ih fun c hc => h c (List.mem_append_left _ hc)
      have hc : c ∈ lowerDigits := h c (List.mem_append_right _ List.mem_cons_self)
      obtain ⟨d, hd, rfl⟩ := mem_lowerDigits.mp hc
      refine ⟨16 * n + d, ?_, ?_⟩
      · rw [List.length_append, List.length_singleton, Nat.pow_succ]
        omega
      · have hdiv : (16 * n + d) / 16 = n := by omega
        have hmod : (16 * n + d) % 16 = d := by omega
        rw [List.length_append, List.length_singleton, hexadecimal, hdiv, hmod, hl]

/-- **Texts of one width are in the order of their numbers.** -/
theorem hexadecimal_lt_iff (hm : m < 16 ^ width) (hn : n < 16 ^ width) :
    hexadecimal width m < hexadecimal width n ↔ m < n := by
  induction width generalizing m n with
  | zero =>
      simp only [hexadecimal, List.lt_irrefl, false_iff]
      omega
  | succ width ih =>
      have hmod : ∀ k : Nat, k % 16 < 16 := fun k => Nat.mod_lt k (by decide)
      have hlt := ih (div_lt_pow hm) (div_lt_pow hn)
      have hgt := ih (div_lt_pow hn) (div_lt_pow hm)
      have heq : hexadecimal width (m / 16) = hexadecimal width (n / 16) ↔ m / 16 = n / 16 := by
        constructor
        · intro heq
          rw [heq] at hlt hgt
          simp only [List.lt_irrefl, false_iff] at hlt hgt
          omega
        · exact congrArg _
      have hlength : (hexadecimal width (m / 16)).length = (hexadecimal width (n / 16)).length := by
        rw [length_hexadecimal, length_hexadecimal]
      rw [hexadecimal, hexadecimal, Text.append_lt_append_iff hlength, hlt, heq,
        List.cons_lt_cons_iff, hexDigit_lt_iff _ (hmod m) _ (hmod n)]
      simp only [List.lt_irrefl, and_false, or_false]
      omega

end Width

end Numeral

end OrphanSweep
