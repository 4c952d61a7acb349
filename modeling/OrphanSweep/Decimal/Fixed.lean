import OrphanSweep.Decimal.Binary

/-! # Decimal text with a fixed number of places

    The exact value is rounded once, to a whole number of units of the last place; a half goes to
    the even neighbour.  The sign stays, also before a zero. -/

namespace OrphanSweep.Decimal

/-- The whole number nearest to a quotient; a half goes to the even neighbour. -/
def roundQuotient (numerator denominator : Nat) : Nat :=
  let low := numerator / denominator
  match compare (2 * (numerator % denominator)) denominator with
  | .lt => low
  | .gt => low + 1
  | .eq => if low % 2 = 0 then low else low + 1

/-- The digits of `n` with a point before the last `places`. -/
def withPoint (places n : Nat) : List Char :=
  let plain := whole n
  let padded := zeros (places + 1 - plain.length) ++ plain
  padded.take (padded.length - places) ++ '.' :: padded.drop (padded.length - places)

/-- The text of a double with a positive number of places. -/
def fixed (places : Nat) (x : Float) : String :=
  match Reading.of x with
  | .nan                  => "nan"
  | .infinite negative    => String.ofList (signText negative ++ ['i', 'n', 'f'])
  | .finite negative size =>
      String.ofList (signText negative ++
        withPoint places (roundQuotient (size.ratio.1 * Nat.pow 10 places) size.ratio.2))

end OrphanSweep.Decimal
