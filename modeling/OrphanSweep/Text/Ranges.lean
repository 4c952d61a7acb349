/-! # Sets of characters given by ranges

    A character class of the standard is a list of inclusive ranges of code points in
    ascending order.  Membership is one pass over the list. -/

namespace OrphanSweep.Text

/-- Inclusive ranges of code points. -/
abbrev Ranges := List (Nat × Nat)

/-- A character lies in the set when one of the ranges holds its code point. -/
def Ranges.has (ranges : Ranges) (c : Char) : Bool :=
  ranges.any fun range => range.1 ≤ c.toNat && c.toNat ≤ range.2

theorem Ranges.has_iff (ranges : Ranges) (c : Char) :
    ranges.has c = true ↔ ∃ range ∈ ranges, range.1 ≤ c.toNat ∧ c.toNat ≤ range.2 := by
  simp [Ranges.has]

/-- Whether no code point lies in both tables. -/
def Ranges.areApart (first second : Ranges) : Bool :=
  first.all fun a => second.all fun b => a.2 < b.1 || b.2 < a.1

theorem Ranges.not_has_of_areApart {first second : Ranges} (h : first.areApart second = true)
    {c : Char} (hc : first.has c = true) : second.has c = false := by
  obtain ⟨a, ha, hfrom, hto⟩ := (Ranges.has_iff first c).mp hc
  rw [Bool.eq_false_iff]
  intro hc'
  obtain ⟨b, hb, hfrom', hto'⟩ := (Ranges.has_iff second c).mp hc'
  have hapart := List.all_eq_true.mp (List.all_eq_true.mp h a ha) b hb
  simp only [Bool.or_eq_true, decide_eq_true_eq] at hapart
  omega

end OrphanSweep.Text
