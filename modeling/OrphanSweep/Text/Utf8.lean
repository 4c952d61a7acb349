/-! # Bytes as characters

    A text may come as a row of characters and single bytes, the bytes in UTF-8.  Reading is total:
    what is no character is replaced (`replacement`), once for each longest beginning of one. -/

namespace OrphanSweep.Text

/-- What stands for bytes that are no character. -/
def replacement : Char := '\uFFFD'

/-- The beginning of a character: its bits so far, the number of bytes to come, and the bounds of
    the next one. -/
structure Beginning where
  bits    : Nat
  missing : Nat
  low     : Nat := 0x80
  high    : Nat := 0xBF

/-- The beginning that a first byte makes.  The bounds of the second byte keep out spellings that
    are too long, the surrogates, and what lies past the last character. -/
def Beginning.ofByte? (b : Nat) : Option Beginning :=
  if b = 0xE0 then some { bits := 0x0, missing := 2, low := 0xA0 }
  else if b = 0xED then some { bits := 0xD, missing := 2, high := 0x9F }
  else if b = 0xF0 then some { bits := 0x0, missing := 3, low := 0x90 }
  else if b = 0xF4 then some { bits := 0x4, missing := 3, high := 0x8F }
  else if 0xC2 ≤ b ∧ b ≤ 0xDF then some { bits := b - 0xC0, missing := 1 }
  else if 0xE1 ≤ b ∧ b ≤ 0xEF then some { bits := b - 0xE0, missing := 2 }
  else if 0xF1 ≤ b ∧ b ≤ 0xF3 then some { bits := b - 0xF0, missing := 3 }
  else none

/-- What is put down for a beginning that comes to nothing. -/
def Beginning.dropped : Option Beginning → List Char
  | none   => []
  | some _ => [replacement]

/-- The characters that a first byte settles, and the beginning that it makes. -/
def firstByte (b : Nat) : List Char × Option Beginning :=
  if b < 0x80 then ([Char.ofNat b], none)
  else
    match Beginning.ofByte? b with
    | none   => ([replacement], none)
    | some p => ([], some p)

/-- The characters that a byte settles after a beginning, and the beginning that is left. -/
def nextByte (b : Nat) : Option Beginning → List Char × Option Beginning
  | none   => firstByte b
  | some p =>
      if p.low ≤ b ∧ b ≤ p.high then
        let bits := 64 * p.bits + b % 64
        if p.missing ≤ 1 then ([Char.ofNat bits], none)
        else ([], some { bits, missing := p.missing - 1 })
      else (replacement :: (firstByte b).1, (firstByte b).2)

/-- Reads a row of bytes (left) and characters (right) after a beginning. -/
def readBytes : Option Beginning → List (Nat ⊕ Char) → List Char
  | p, []           => Beginning.dropped p
  | p, .inl b :: s  => (nextByte b p).1 ++ readBytes (nextByte b p).2 s
  | p, .inr c :: s  => Beginning.dropped p ++ c :: readBytes none s

end OrphanSweep.Text
