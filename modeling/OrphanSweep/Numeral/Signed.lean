import OrphanSweep.Numeral.Digits
import OrphanSweep.Text.Digit

/-! # Signed decimal integers

    The numerals of the integer settings: one optional sign, then decimal digits of any script,
    grouped or not.  A numeral holds at most `digitLimit` digits; leading zeros count, underscores
    do not. -/

namespace OrphanSweep.Numeral

/-- The greatest number of digits that a decimal integer is read or written with. -/
def digitLimit : Nat := 4300

/-- Splits off one sign; `true` stands for a minus. -/
def sign : List Char → Bool × List Char
  | '+' :: s => (false, s)
  | '-' :: s => (true, s)
  | s        => (false, s)

/-- The integer with a given sign and size. -/
def signed (negative : Bool) (size : Nat) : Int :=
  if negative then -(size : Int) else size

/-- Reads a signed decimal integer. -/
def integer? (s : List Char) : Option Int :=
  match digits? Text.digit? (sign s).2 with
  | some ds => if ds.length ≤ digitLimit then some (signed (sign s).1 (ofDigits 10 ds)) else none
  | none    => none

end OrphanSweep.Numeral
