import Mathlib.Data.List.Induction
import Mathlib.Data.Nat.Digits.Defs
import OrphanSweep.Numeral.Signed
import OrphanSweep.Proofs.Trimming

/-! # The texts of integers

    A decimal integer is read from exactly these texts: one sign or none, then digits of any script,
    with an underscore between two of them or not, and no more digits than the limit
    (`integer?_eq_some_iff`).  The grammar is a relation with one constructor for each way to go on
    (`Grouped`, `Spells`).  No such text has a blank at an end (`Spells.bare`), and the digits that
    an integer is written with are one of them (`spells_toString`). -/

namespace OrphanSweep.Numeral

/-! ## Rows of digits -/

section Grouped

variable {digit : Char → Option Nat}

/-- A row of digits with single underscores strictly between two of them, and the digits' values. -/
inductive Grouped (digit : Char → Option Nat) : List Char → List Nat → Prop
  | single {c : Char} {d : Nat} : digit c = some d → Grouped digit [c] [d]
  | next {c : Char} {d : Nat} {s : List Char} {ds : List Nat} :
      digit c = some d → Grouped digit s ds → Grouped digit (c :: s) (d :: ds)
  | parted {c : Char} {d : Nat} {s : List Char} {ds : List Nat} :
      digit c = some d → Grouped digit s ds → Grouped digit (c :: '_' :: s) (d :: ds)

theorem digits?_nil : digits? digit [] = none := rfl

/-- There is no digit in front of an underscore that comes first. -/
theorem digits?_underscore (s : List Char) : digits? digit ('_' :: s) = none := by
  rw [digits?, Text.pieces_sep, List.mapM_cons]
  rfl

theorem digits?_single {c : Char} (hc : c ≠ '_') :
    digits? digit [c] = (digit c).map fun d => [d] := by
  rw [digits?, Text.pieces_of_ne hc rfl]
  cases h : digit c with
  | none => simp [group?, h]
  | some d => simp [group?, h]

theorem digits?_parted {c : Char} (hc : c ≠ '_') (s : List Char) :
    digits? digit (c :: '_' :: s) =
      (digit c).bind fun d => (digits? digit s).map fun ds => d :: ds := by
  rw [digits?, digits?, Text.pieces_of_ne hc (Text.pieces_sep '_' s), List.mapM_cons]
  cases h : digit c with
  | none => simp [group?, h]
  | some d =>
      cases hs : List.mapM (group? digit) (Text.pieces '_' s) with
      | none => simp [group?, h]
      | some groups => simp [group?, h]

theorem group?_cons_cons (c c' : Char) (p : List Char) :
    group? digit (c :: c' :: p) =
      (digit c).bind fun d => (group? digit (c' :: p)).map fun ds => d :: ds := by
  rw [group?, group?, if_neg (List.cons_ne_nil _ _), if_neg (List.cons_ne_nil _ _),
    List.mapM_cons]
  cases digit c with
  | none => rfl
  | some d => cases List.mapM digit (c' :: p) <;> rfl

theorem digits?_next {c c' : Char} (hc : c ≠ '_') (hc' : c' ≠ '_') (s : List Char) :
    digits? digit (c :: c' :: s) =
      (digit c).bind fun d => (digits? digit (c' :: s)).map fun ds => d :: ds := by
  obtain ⟨p, ps, hs⟩ := List.exists_cons_of_ne_nil (Text.pieces_ne_nil '_' s)
  have hrest : Text.pieces '_' (c' :: s) = (c' :: p) :: ps := Text.pieces_of_ne hc' hs
  rw [digits?, digits?, Text.pieces_of_ne hc hrest, hrest, List.mapM_cons, List.mapM_cons,
    group?_cons_cons]
  cases digit c with
  | none => rfl
  | some d =>
      cases group? digit (c' :: p) with
      | none => rfl
      | some first => cases List.mapM (group? digit) ps <;> rfl

/-- The underscore parts digits, so it is none itself. -/
theorem ne_underscore (hunderscore : digit '_' = none) {c : Char} {d : Nat}
    (hc : digit c = some d) : c ≠ '_' := by
  rintro rfl
  rw [hunderscore] at hc
  cases hc

/-- A row of digits begins with one. -/
theorem Grouped.head {s : List Char} {ds : List Nat} (h : Grouped digit s ds) :
    ∃ c rest d, s = c :: rest ∧ digit c = some d := by
  cases h with
  | single hc => exact ⟨_, _, _, rfl, hc⟩
  | next hc _ => exact ⟨_, _, _, rfl, hc⟩
  | parted hc _ => exact ⟨_, _, _, rfl, hc⟩

/-- A row of digits ends with one. -/
theorem Grouped.last {s : List Char} {ds : List Nat} (h : Grouped digit s ds) :
    ∃ rest c d, s = rest ++ [c] ∧ digit c = some d := by
  induction h with
  | single hc => exact ⟨[], _, _, rfl, hc⟩
  | next _ _ ih =>
      obtain ⟨rest, c, d, rfl, hc⟩ := ih
      exact ⟨_ :: rest, c, d, rfl, hc⟩
  | parted _ _ ih =>
      obtain ⟨rest, c, d, rfl, hc⟩ := ih
      exact ⟨_ :: '_' :: rest, c, d, rfl, hc⟩

theorem Grouped.concat {s : List Char} {ds : List Nat} (h : Grouped digit s ds) {c : Char} {d : Nat}
    (hc : digit c = some d) : Grouped digit (s ++ [c]) (ds ++ [d]) := by
  induction h with
  | single hfirst => exact .next hfirst (.single hc)
  | next hfirst _ ih => exact .next hfirst ih
  | parted hfirst _ ih => exact .parted hfirst ih

/-- A row of digits is made of digits and underscores. -/
theorem Grouped.forall_mem {s : List Char} {ds : List Nat} (h : Grouped digit s ds) :
    ∀ c ∈ s, c = '_' ∨ ∃ d, digit c = some d := by
  induction h with
  | single hc => exact List.forall_mem_singleton.mpr (Or.inr ⟨_, hc⟩)
  | next hc _ ih => exact List.forall_mem_cons.mpr ⟨Or.inr ⟨_, hc⟩, ih⟩
  | parted hc _ ih =>
      exact List.forall_mem_cons.mpr ⟨Or.inr ⟨_, hc⟩, List.forall_mem_cons.mpr ⟨Or.inl rfl, ih⟩⟩

/-- There are no more digits than characters. -/
theorem Grouped.length_le {s : List Char} {ds : List Nat} (h : Grouped digit s ds) :
    ds.length ≤ s.length := by
  induction h with
  | single _ => exact Nat.le_refl 1
  | next _ _ ih => exact Nat.succ_le_succ ih
  | parted _ _ ih => exact Nat.le_succ_of_le (Nat.succ_le_succ ih)

/-- What holds of the value of every digit holds of the values in a row. -/
theorem Grouped.forall_value {p : Nat → Prop} (hdigit : ∀ c d, digit c = some d → p d)
    {s : List Char} {ds : List Nat} (h : Grouped digit s ds) : ∀ d ∈ ds, p d := by
  induction h with
  | single hc => exact List.forall_mem_singleton.mpr (hdigit _ _ hc)
  | next hc _ ih => exact List.forall_mem_cons.mpr ⟨hdigit _ _ hc, ih⟩
  | parted hc _ ih => exact List.forall_mem_cons.mpr ⟨hdigit _ _ hc, ih⟩

theorem digits?_of_grouped (hunderscore : digit '_' = none) {s : List Char} {ds : List Nat}
    (h : Grouped digit s ds) : digits? digit s = some ds := by
  induction h with
  | single hc => rw [digits?_single (ne_underscore hunderscore hc), hc]; rfl
  | parted hc _ ih => rw [digits?_parted (ne_underscore hunderscore hc), hc, ih]; rfl
  | next hc hrest ih =>
      obtain ⟨c', rest, d', rfl, hc'⟩ := hrest.head
      rw [digits?_next (ne_underscore hunderscore hc) (ne_underscore hunderscore hc'), hc, ih]
      rfl

/-- A digit and the digits behind it are read one after the other. -/
theorem exists_of_bind_map {first : Option Nat} {rest : Option (List Nat)} {ds : List Nat}
    (h : (first.bind fun d => rest.map fun ds => d :: ds) = some ds) :
    ∃ d ds', first = some d ∧ rest = some ds' ∧ ds = d :: ds' := by
  obtain ⟨d, hd, h⟩ := Option.bind_eq_some_iff.mp h
  obtain ⟨ds', hds', rfl⟩ := Option.map_eq_some_iff.mp h
  exact ⟨d, ds', hd, hds', rfl⟩

/-- What is read follows the grammar.  The cases are those of the grammar, and beside them the
    texts that begin with an underscore. -/
theorem grouped_of_digits? :
    ∀ (s : List Char) {ds : List Nat}, digits? digit s = some ds → Grouped digit s ds
  | [], _, h => by
      rw [digits?_nil] at h
      cases h
  | [c], ds, h => by
      by_cases hc : c = '_'
      · subst hc
        rw [digits?_underscore] at h
        cases h
      · rw [digits?_single hc] at h
        obtain ⟨d, hd, rfl⟩ := Option.map_eq_some_iff.mp h
        exact .single hd
  | c :: c' :: s, ds, h => by
      by_cases hc : c = '_'
      · subst hc
        rw [digits?_underscore] at h
        cases h
      · by_cases hc' : c' = '_'
        · subst hc'
          rw [digits?_parted hc] at h
          obtain ⟨d, ds', hd, hrest, rfl⟩ := exists_of_bind_map h
          exact .parted hd (grouped_of_digits? s hrest)
        · rw [digits?_next hc hc'] at h
          obtain ⟨d, ds', hd, hrest, rfl⟩ := exists_of_bind_map h
          exact .next hd (grouped_of_digits? (c' :: s) hrest)

/-- **Digits are read from rows of digits**, and from nothing else. -/
theorem digits?_eq_some_iff (hunderscore : digit '_' = none) {s : List Char} {ds : List Nat} :
    digits? digit s = some ds ↔ Grouped digit s ds :=
  ⟨grouped_of_digits? s, digits?_of_grouped hunderscore⟩

end Grouped

/-! ## Signed numerals -/

/-- The texts of an integer: one sign or none, and no more than 4300 digits in a row, of which the
    first weighs most. -/
inductive Spells : List Char → Int → Prop
  | unsigned {s : List Char} {ds : List Nat} : Grouped Text.digit? s ds → ds.length ≤ 4300 →
      Spells s (Nat.ofDigits 10 ds.reverse : Nat)
  | plus {s : List Char} {ds : List Nat} : Grouped Text.digit? s ds → ds.length ≤ 4300 →
      Spells ('+' :: s) (Nat.ofDigits 10 ds.reverse : Nat)
  | minus {s : List Char} {ds : List Nat} : Grouped Text.digit? s ds → ds.length ≤ 4300 →
      Spells ('-' :: s) (-(Nat.ofDigits 10 ds.reverse : Nat))

/-- Neither the underscore nor a sign is a digit. -/
theorem digit?_eq_none : Text.digit? '_' = none ∧ Text.digit? '+' = none ∧
    Text.digit? '-' = none := by decide

theorem ofDigits_eq (base : Nat) (ds : List Nat) :
    ofDigits base ds = Nat.ofDigits base ds.reverse := by
  induction ds using List.reverseRecOn with
  | nil => rfl
  | append_singleton ds d ih =>
      rw [ofDigits_append_one, ih, List.reverse_append, List.reverse_singleton,
        List.singleton_append, Nat.ofDigits_cons]
      exact Nat.add_comm _ _

theorem sign_of_ne {c : Char} (hplus : c ≠ '+') (hminus : c ≠ '-') (s : List Char) :
    sign (c :: s) = (false, c :: s) := by
  rw [sign]
  · rintro _ ⟨⟩
    exact hplus rfl
  · rintro _ ⟨⟩
    exact hminus rfl

/-- No sign begins a row of digits, for no sign is a digit. -/
theorem sign_of_grouped {digit : Char → Option Nat} (hplus : digit '+' = none)
    (hminus : digit '-' = none) {s : List Char} {ds : List Nat} (h : Grouped digit s ds) :
    sign s = (false, s) := by
  obtain ⟨c, rest, d, rfl, hc⟩ := h.head
  refine sign_of_ne ?_ ?_ rest
  · rintro rfl
    rw [hplus] at hc
    cases hc
  · rintro rfl
    rw [hminus] at hc
    cases hc

/-- A text is read from the digits behind its sign. -/
theorem integer?_of_sign {s body : List Char} {negative : Bool} (hsign : sign s = (negative, body))
    {n : Int} : integer? s = some n ↔ ∃ ds, Grouped Text.digit? body ds ∧ ds.length ≤ 4300 ∧
      n = signed negative (Nat.ofDigits 10 ds.reverse) := by
  have hdigits := @digits?_eq_some_iff Text.digit? digit?_eq_none.1 body
  rw [integer?, hsign]
  dsimp only
  cases hds : digits? Text.digit? body with
  | none =>
      refine iff_of_false nofun ?_
      rintro ⟨ds, hgrouped, -⟩
      rw [hdigits.mpr hgrouped] at hds
      cases hds
  | some ds =>
      dsimp only
      constructor
      · intro h
        by_cases hfew : ds.length ≤ digitLimit
        · rw [if_pos hfew, ofDigits_eq] at h
          exact ⟨ds, hdigits.mp hds, hfew, (Option.some.inj h).symm⟩
        · rw [if_neg hfew] at h
          cases h
      · rintro ⟨ds', hgrouped, hfew, rfl⟩
        obtain rfl : ds = ds' := Option.some.inj (hds.symm.trans (hdigits.mpr hgrouped))
        rw [if_pos (show ds.length ≤ digitLimit from hfew), ofDigits_eq]

/-- **An integer is read from the texts that spell it**, and from no others. -/
theorem integer?_eq_some_iff {s : List Char} {n : Int} : integer? s = some n ↔ Spells s n := by
  constructor
  · intro h
    by_cases hplus : ∃ body, s = '+' :: body
    · obtain ⟨body, rfl⟩ := hplus
      obtain ⟨ds, hgrouped, hfew, rfl⟩ := (integer?_of_sign rfl).mp h
      exact .plus hgrouped hfew
    by_cases hminus : ∃ body, s = '-' :: body
    · obtain ⟨body, rfl⟩ := hminus
      obtain ⟨ds, hgrouped, hfew, rfl⟩ := (integer?_of_sign rfl).mp h
      exact .minus hgrouped hfew
    have hsign : sign s = (false, s) := by
      cases s with
      | nil => rfl
      | cons c body =>
          refine sign_of_ne ?_ ?_ body
          · rintro rfl
            exact hplus ⟨body, rfl⟩
          · rintro rfl
            exact hminus ⟨body, rfl⟩
    obtain ⟨ds, hgrouped, hfew, rfl⟩ := (integer?_of_sign hsign).mp h
    exact .unsigned hgrouped hfew
  · intro h
    cases h with
    | unsigned hgrouped hfew =>
        have hsign := sign_of_grouped digit?_eq_none.2.1 digit?_eq_none.2.2 hgrouped
        exact (integer?_of_sign hsign).mpr ⟨_, hgrouped, hfew, rfl⟩
    | plus hgrouped hfew => exact (integer?_of_sign rfl).mpr ⟨_, hgrouped, hfew, rfl⟩
    | minus hgrouped hfew => exact (integer?_of_sign rfl).mpr ⟨_, hgrouped, hfew, rfl⟩

/-! ## Blanks around a numeral -/

/-- The ranges of the digits of all scripts. -/
def digitRanges : Text.Ranges := Text.zeros.map fun start => (start, start + 9)

theorem areApart_digitRanges : Text.Ranges.areApart digitRanges Text.blanks = true := by
  decide +kernel

theorem isBlank_of_digit? {c : Char} {d : Nat} (h : Text.digit? c = some d) :
    Text.isBlank c = false := by
  obtain ⟨start, hstart, -⟩ := Option.map_eq_some_iff.mp h
  have hmem : start ∈ Text.zeros := List.mem_of_find?_eq_some hstart
  have hrange := List.find?_some hstart
  rw [Bool.and_eq_true, decide_eq_true_eq, decide_eq_true_eq] at hrange
  refine Text.Ranges.not_has_of_areApart areApart_digitRanges ?_
  exact (Text.Ranges.has_iff _ c).mpr
    ⟨_, List.mem_map_of_mem hmem, hrange.1, Nat.le_of_lt_succ hrange.2⟩

/-- A text between two characters that are not blank is bare. -/
theorem bare_of_ends {first last : Char} {front back : List Char}
    (hends : first :: back = front ++ [last]) (hfirst : Text.isBlank first = false)
    (hlast : Text.isBlank last = false) : Text.Bare Text.isBlank (first :: back) where
  head := by
    rintro _ ⟨⟩
    exact hfirst
  last := by
    rw [hends, List.getLast?_concat]
    rintro _ ⟨⟩
    exact hlast

/-- No blank stands at an end of a numeral. -/
theorem Spells.bare {s : List Char} {n : Int} (h : Spells s n) : Text.Bare Text.isBlank s := by
  cases h with
  | unsigned hgrouped _ =>
      obtain ⟨first, back, _, rfl, hfirst⟩ := hgrouped.head
      obtain ⟨front, last, _, hends, hlast⟩ := hgrouped.last
      exact bare_of_ends hends (isBlank_of_digit? hfirst) (isBlank_of_digit? hlast)
  | plus hgrouped _ =>
      obtain ⟨front, last, _, rfl, hlast⟩ := hgrouped.last
      exact bare_of_ends (List.cons_append ..).symm (by decide) (isBlank_of_digit? hlast)
  | minus hgrouped _ =>
      obtain ⟨front, last, _, rfl, hlast⟩ := hgrouped.last
      exact bare_of_ends (List.cons_append ..).symm (by decide) (isBlank_of_digit? hlast)

theorem Spells.ne_nil {s : List Char} {n : Int} (h : Spells s n) : s ≠ [] := by
  cases h with
  | unsigned hgrouped _ =>
      obtain ⟨c, rest, _, rfl, -⟩ := hgrouped.head
      exact List.cons_ne_nil c rest
  | plus _ _ => exact List.cons_ne_nil _ _
  | minus _ _ => exact List.cons_ne_nil _ _

/-! ## Written integers -/

theorem digit?_digitChar : ∀ d < 10, Text.digit? (Nat.digitChar d) = some d := by decide

/-- The digits that a number is written with stand for it. -/
theorem grouped_toDigits (n : Nat) : ∃ ds, Grouped Text.digit? (Nat.toDigits 10 n) ds ∧
    ds.length = (Nat.toDigits 10 n).length ∧ Nat.ofDigits 10 ds.reverse = n := by
  induction n using Nat.strongRecOn with
  | ind n ih =>
      by_cases hn : n < 10
      · rw [Nat.toDigits_of_lt_base hn]
        exact ⟨[n], .single (digit?_digitChar n hn), rfl, Nat.ofDigits_singleton⟩
      · have hlast : n % 10 < 10 := Nat.mod_lt n (by decide)
        have hsplit : Nat.toDigits 10 n =
            Nat.toDigits 10 (n / 10) ++ [Nat.digitChar (n % 10)] := by
          rw [← Nat.toDigits_of_lt_base hlast,
            Nat.toDigits_append_toDigits (by decide) (by omega) hlast, Nat.div_add_mod]
        obtain ⟨ds, hgrouped, hlength, hvalue⟩ := ih (n / 10) (by omega)
        rw [hsplit]
        refine ⟨ds ++ [n % 10], hgrouped.concat (digit?_digitChar _ hlast), ?_, ?_⟩
        · rw [List.length_append, List.length_append, hlength]
          rfl
        · rw [List.reverse_append, List.reverse_singleton, List.singleton_append,
            Nat.ofDigits_cons, hvalue]
          exact Nat.mod_add_div n 10

/-- **A written integer spells itself**, unless it has too many digits. -/
theorem spells_toString {n : Int} (hn : (Nat.toDigits 10 n.natAbs).length ≤ 4300) :
    Spells (toString n).toList n := by
  obtain ⟨ds, hgrouped, hlength, hvalue⟩ := grouped_toDigits n.natAbs
  rw [← hlength] at hn
  rw [Int.toString_eq_repr]
  cases n with
  | ofNat m =>
      have hspells := Spells.unsigned hgrouped hn
      rw [hvalue] at hspells
      rw [Int.repr, Nat.repr_eq_ofList_toDigits, String.toList_ofList]
      exact hspells
  | negSucc m =>
      have hspells := Spells.minus hgrouped hn
      rw [hvalue] at hspells
      rw [Int.repr, Nat.repr_eq_ofList_toDigits, String.toList_append, String.toList_ofList,
        String.toList_ofList]
      rwa [show -((Int.negSucc m).natAbs : Int) = Int.negSucc m from rfl] at hspells

end OrphanSweep.Numeral
