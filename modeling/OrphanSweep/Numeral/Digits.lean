import OrphanSweep.Text.Pieces

/-! # Digit groups

    A numeral is a row of digits that may be grouped: single underscores may stand strictly
    between two digits.  In other words the pieces between the underscores are all nonempty and
    hold digits only.  Which characters are digits is a parameter. -/

namespace OrphanSweep.Numeral

/-- The digits of one group, which is not empty. -/
def group? (digit : Char → Option Nat) (s : List Char) : Option (List Nat) :=
  if s = [] then none else s.mapM digit

/-- The digits of all groups in a row. -/
def digits? (digit : Char → Option Nat) (s : List Char) : Option (List Nat) :=
  ((Text.pieces '_' s).mapM (group? digit)).map List.flatten

/-- The number that digits stand for, the first digit weighing most. -/
def ofDigits (base : Nat) (digits : List Nat) : Nat :=
  digits.foldl (fun n d => base * n + d) 0

theorem ofDigits_append_one (base : Nat) (digits : List Nat) (d : Nat) :
    ofDigits base (digits ++ [d]) = base * ofDigits base digits + d := by
  simp [ofDigits]

end OrphanSweep.Numeral
