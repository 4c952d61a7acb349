import OrphanSweep.Decimal.Binary

/-! # Shortest decimal text of a double

    The text of a double has the fewest digits that read back to it, and of two such decimals the
    nearer one.  The search tries one digit, then two, and so on: on the grid of decimals with so
    many digits only the two neighbours of the exact value can be nearest, so only they are
    tested. -/

namespace OrphanSweep.Decimal

/-- A positive number `numerator / denominator` in the scale of a decimal grid, with the double
    whose exact value it is. -/
structure Scaled where
  double      : Binary
  numerator   : Nat
  denominator : Nat

/-- Whether the whole number `n` of the grid reads back as the double: it lies no further away
    than half the way to the next double, and exactly half the way only if the mantissa is even. -/
def Scaled.readsBack (x : Scaled) (n : Nat) : Bool :=
  let point := n * x.denominator
  let reach :=
    if x.numerator ≤ point then 2 * x.double.mantissa * (point - x.numerator)
    else (if x.double.narrow then 4 else 2) * x.double.mantissa * (x.numerator - point)
  reach < x.numerator || (reach = x.numerator && x.double.mantissa % 2 = 0)

/-- The neighbour on the grid that reads back; of two the nearer, of two equally near the even. -/
def Scaled.hit? (x : Scaled) : Option Nat :=
  let low := x.numerator / x.denominator
  match x.readsBack low, x.readsBack (low + 1) with
  | false, false => none
  | true, false  => some low
  | false, true  => some (low + 1)
  | true, true   =>
      match compare (2 * x.numerator) ((2 * low + 1) * x.denominator) with
      | .lt => some low
      | .gt => some (low + 1)
      | .eq => some (if low % 2 = 0 then low else low + 1)

/-- The least power of ten above a positive quotient. -/
def magnitude (numerator denominator : Nat) : Int :=
  if denominator ≤ numerator then (whole (numerator / denominator)).length
  else 1 - (whole ((denominator - 1) / numerator)).length

/-- The value on the grid whose unit is `10 ^ unit`. -/
def Binary.scaled (x : Binary) (unit : Int) : Scaled where
  double      := x
  numerator   := x.ratio.1 * Nat.pow 10 (-unit).toNat
  denominator := x.ratio.2 * Nat.pow 10 unit.toNat

/-- Digits, the first of them not zero, and the place of the point counted from their left. -/
structure Selection where
  digits : List Char
  point  : Int
deriving DecidableEq

/-- The digits of `n` on the grid of a unit, without the zeros at their end. -/
def Selection.of (n : Nat) (unit : Int) : Selection where
  digits := ((whole n).reverse.dropWhile (· = '0')).reverse
  point  := (whole n).length + unit

/-- The first grid with a hit, among those of one to seventeen digits; seventeen digits single
    out every double. -/
def Binary.select (x : Binary) : Selection :=
  let top := magnitude x.ratio.1 x.ratio.2
  let hit := (List.range 17).findSome? fun (count : Nat) =>
    let unit := top - ((count : Int) + 1)
    (x.scaled unit).hit?.map fun n => Selection.of n unit
  let last := x.scaled (top - 17)
  hit.getD (Selection.of (last.numerator / last.denominator) (top - 17))

/-- Positional notation with a point, from `0.0001` up to sixteen digits before the point. -/
def Selection.positional (s : Selection) : List Char :=
  if s.point ≤ 0 then '0' :: '.' :: zeros (-s.point).toNat ++ s.digits
  else if s.digits.length ≤ s.point then
    s.digits ++ zeros (s.point.toNat - s.digits.length) ++ ['.', '0']
  else s.digits.take s.point.toNat ++ '.' :: s.digits.drop s.point.toNat

/-- Scientific notation: one digit, the others after a point, an exponent of two digits or more. -/
def Selection.scientific (s : Selection) : List Char :=
  let exponent := s.point - 1
  let size := whole exponent.natAbs
  let fraction := if s.digits.length ≤ 1 then [] else '.' :: s.digits.drop 1
  s.digits.take 1 ++ fraction ++ 'e' :: (if exponent < 0 then '-' else '+') ::
    (zeros (2 - size.length) ++ size)

/-- The text of a selection. -/
def Selection.chars (s : Selection) : List Char :=
  if -4 < s.point ∧ s.point ≤ 16 then s.positional else s.scientific

/-- The shortest text of a double that reads back. -/
def shortest (x : Float) : String :=
  match Reading.of x with
  | .nan                  => "nan"
  | .infinite negative    => String.ofList (signText negative ++ ['i', 'n', 'f'])
  | .finite negative size =>
      if size.mantissa = 0 then String.ofList (signText negative ++ ['0', '.', '0'])
      else String.ofList (signText negative ++ size.select.chars)

end OrphanSweep.Decimal
