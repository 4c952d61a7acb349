import OrphanSweep.Numeral.Signed
import OrphanSweep.Text.Blank

/-! # Reading doubles

    A decimal numeral is a sign, digits with at most one point among them, and an exponent that
    may be missing.  It stands for the nearest double.  The words for infinity and for no number
    are numerals too, in either case. -/

namespace OrphanSweep.Decimal

/-- A decimal numeral without its sign: `digits * 10 ^ exponent`. -/
structure Magnitude where
  digits   : List Nat
  exponent : Int

/-- The double nearest to a magnitude.  Beyond the range of doubles the power of ten is not
    computed: above it stands infinity, below it zero. -/
def Magnitude.toFloat (m : Magnitude) : Float :=
  let number := Numeral.ofDigits 10 m.digits
  let top := ((m.digits.dropWhile (· = 0)).length : Int) + m.exponent
  if number = 0 ∨ top < -400 then 0.0
  else if 400 < top then 1.0 / 0.0
  else Float.ofScientific number (m.exponent < 0) m.exponent.natAbs

/-- Splits a text before the first character of a class. -/
def upTo (stop : Char → Bool) (s : List Char) : List Char × List Char :=
  (s.takeWhile fun c => !stop c, s.dropWhile fun c => !stop c)

/-- The digits of a text that may be empty. -/
def optionalDigits? (s : List Char) : Option (List Nat) :=
  if s = [] then some [] else Numeral.digits? Text.digit? s

/-- The exponent at the end of a numeral, zero if there is none. -/
def exponent? : List Char → Option Int
  | []     => some 0
  | _ :: s =>
      let (negative, body) := Numeral.sign s
      (Numeral.digits? Text.digit? body).map fun ds =>
        Numeral.signed negative (Numeral.ofDigits 10 ds)

/-- A magnitude from digits, point and exponent; there is at least one digit. -/
def Magnitude.parse? (s : List Char) : Option Magnitude :=
  let (mantissa, tail) := upTo (fun c => c = 'e' || c = 'E') s
  let (whole, point) := upTo (· = '.') mantissa
  match optionalDigits? whole, optionalDigits? (point.drop 1), exponent? tail with
  | some before, some after, some exponent =>
      if before = [] ∧ after = [] then none
      else some ⟨before ++ after, exponent - after.length⟩
  | _, _, _ => none

/-- A size: a word or a magnitude. -/
def size? (s : List Char) : Option Float :=
  let word := String.ofList (s.map Char.toLower)
  if word = "nan" then some (0.0 / 0.0)
  else if word = "inf" ∨ word = "infinity" then some (1.0 / 0.0)
  else (Magnitude.parse? s).map Magnitude.toFloat

/-- Reads a double, with blanks around it or none. -/
def parse? (s : String) : Option Float :=
  let (negative, body) := Numeral.sign (Text.trim s.toList)
  (size? body).map fun x => if negative then -x else x

end OrphanSweep.Decimal
