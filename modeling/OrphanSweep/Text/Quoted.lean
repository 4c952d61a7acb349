import OrphanSweep.Numeral.Hexadecimal
import OrphanSweep.Text.Printable

/-! # Quoted texts

    A message shows a text between quotes, with escapes, so that its ends and its unprintable
    characters can be seen.  The quote is the single one unless the text holds a single quote and
    no double one. -/

namespace OrphanSweep.Text

/-- The quote that a text is put between. -/
def quoteMark (s : List Char) : Char :=
  if s.contains '\'' && !s.contains '"' then '"' else '\''

/-- The escape by code point: two, four or eight hexadecimal digits. -/
def codeEscape (c : Char) : List Char :=
  if c.toNat ≤ 0xFF then '\\' :: 'x' :: Numeral.hexadecimal 2 c.toNat
  else if c.toNat ≤ 0xFFFF then '\\' :: 'u' :: Numeral.hexadecimal 4 c.toNat
  else '\\' :: 'U' :: Numeral.hexadecimal 8 c.toNat

/-- The form of one character between the given quotes. -/
def escaped (mark c : Char) : List Char :=
  if c = mark ∨ c = '\\' then ['\\', c]
  else if c = '\t' then ['\\', 't']
  else if c = '\n' then ['\\', 'n']
  else if c = '\r' then ['\\', 'r']
  else if isPrintable c then [c]
  else codeEscape c

/-- A text between quotes. -/
def quoted (s : String) : String :=
  let mark := quoteMark s.toList
  String.ofList (mark :: s.toList.flatMap (escaped mark) ++ [mark])

end OrphanSweep.Text
