import OrphanSweep.Numeral.Hexadecimal
import OrphanSweep.Text.Quoted

/-! # Padded decimal integers

    A signed decimal integer may have blanks around it.  A text that is none is refused: with the
    number of its digits if there are too many, and else with the text. -/

namespace OrphanSweep.Numeral

/-- Reads a signed decimal integer with blanks around it. -/
def padded? (s : String) : Option Int := integer? (Text.trimBy isPadding s.toList)

/-- The number of digits at the beginning of a text, after a sign. -/
def leadingDigits (s : String) : Nat :=
  let body := (sign (Text.trimBy isPadding s.toList)).2
  let run := body.takeWhile fun c => c = '_' || (Text.digit? c).isSome
  ((digits? Text.digit? run).getD []).length

/-- A text between quotes, of which at most 200 characters are shown. -/
def shown (s : String) : String := String.ofList ((Text.quoted s).toList.take 200)

/-- The words for a text that is no integer. -/
def refusal (s : String) : String :=
  if digitLimit < leadingDigits s then
    s!"Exceeds the limit ({digitLimit} digits) for integer string conversion: value has " ++
      s!"{leadingDigits s} digits; use sys.set_int_max_str_digits() to increase the limit"
  else "invalid literal for int() with base 10: " ++ shown s

end OrphanSweep.Numeral
