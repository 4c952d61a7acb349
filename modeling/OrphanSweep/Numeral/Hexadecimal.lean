import OrphanSweep.Numeral.Signed
import OrphanSweep.Text.Blank

/-! # Hexadecimal numbers

    Writing gives a fixed number of lower-case digits (`hexadecimal`).  Reading is lenient
    (`hexadecimal?`): blanks around the numeral, a sign, the mark `0x`, groups, digits of either
    case and decimal digits of any script. -/

namespace OrphanSweep.Numeral

/-- The lower-case digit of a value below sixteen. -/
def hexDigit (n : Nat) : Char :=
  if n < 10 then Char.ofNat (48 + n) else Char.ofNat (87 + n)

/-- The value of a digit of either case. -/
def hexDigit? (c : Char) : Option Nat :=
  if '0' ≤ c && c ≤ '9' then some (c.toNat - 48)
  else if 'a' ≤ c && c ≤ 'f' then some (c.toNat - 87)
  else if 'A' ≤ c && c ≤ 'F' then some (c.toNat - 55)
  else none

/-- The last `width` hexadecimal digits of a number, the first one weighing most. -/
def hexadecimal : (width : Nat) → Nat → List Char
  | 0, _         => []
  | width + 1, n => hexadecimal width (n / 16) ++ [hexDigit (n % 16)]

theorem length_hexadecimal (width n : Nat) : (hexadecimal width n).length = width := by
  induction width generalizing n with
  | zero => rfl
  | succ width ih => simp [hexadecimal, ih]

/-- A decimal digit of another script becomes the digit of the same value. -/
def plainDigit (c : Char) : Char :=
  match Text.digit? c with
  | some d => hexDigit d
  | none   => c

/-- The blanks around a numeral: of the separators U+001C to U+001F none is one here. -/
def isPadding (c : Char) : Bool :=
  Text.isBlank c && !(0x1C ≤ c.toNat && c.toNat ≤ 0x1F)

/-- Drops the mark `0x`, with the underscore that may close it. -/
def unmarked : List Char → List Char
  | '0' :: 'x' :: '_' :: s => s
  | '0' :: 'X' :: '_' :: s => s
  | '0' :: 'x' :: s        => s
  | '0' :: 'X' :: s        => s
  | s                      => s

/-- Reads a signed hexadecimal integer. -/
def hexadecimal? (s : List Char) : Option Int :=
  let (negative, body) := sign ((Text.trimBy isPadding s).map plainDigit)
  (digits? hexDigit? (unmarked body)).map fun ds => signed negative (ofDigits 16 ds)

end OrphanSweep.Numeral
