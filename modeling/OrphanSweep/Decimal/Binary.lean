/-! # The exact value of a double

    Every text of a double is computed from its exact value, a natural mantissa times a power of
    two.  `ratio` gives that value as a quotient of two naturals, so all later steps compare and
    divide naturals. -/

namespace OrphanSweep.Decimal

/-- The size of a finite double: `mantissa * 2 ^ exponent`. -/
structure Binary where
  mantissa : Nat
  exponent : Int
  /-- The double below is only half as far away as the double above. -/
  narrow   : Bool
deriving DecidableEq

/-- What the bits of a double stand for. -/
inductive Reading
  | nan
  | infinite (negative : Bool)
  | finite (negative : Bool) (size : Binary)
deriving DecidableEq

/-- Takes the sign, the exponent and the fraction apart. -/
def Reading.ofBits (bits : UInt64) : Reading :=
  let negative := bits >>> 63 == 1
  let scale := (bits >>> 52 &&& 0x7FF).toNat
  let fraction := (bits &&& 0xFFFFFFFFFFFFF).toNat
  if scale = 0x7FF then
    if fraction = 0 then .infinite negative else .nan
  else if scale = 0 then
    .finite negative ⟨fraction, -1074, false⟩
  else
    .finite negative ⟨0x10000000000000 + fraction, scale - 1075, fraction = 0 && 1 < scale⟩

/-- The reading of a double. -/
def Reading.of (x : Float) : Reading := ofBits x.toBits

/-- The size as a numerator and a denominator. -/
def Binary.ratio (x : Binary) : Nat × Nat :=
  (x.mantissa * Nat.pow 2 x.exponent.toNat, Nat.pow 2 (-x.exponent).toNat)

/-- A natural number in base ten. -/
def whole (n : Nat) : List Char := (toString n).toList

/-- A run of zeros. -/
def zeros (count : Nat) : List Char := List.replicate count '0'

/-- The sign of a negative number. -/
def signText (negative : Bool) : List Char := if negative then ['-'] else []

end OrphanSweep.Decimal
