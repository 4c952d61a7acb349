import OrphanSweep.Numeral.Hexadecimal
import OrphanSweep.Text.Utf8

/-! # Form fields

    The query of an address is a row of fields `name=value` with ampersands between them.  In a
    name or a value a plus sign stands for a space, and a percent sign with two hexadecimal digits
    for a byte.  A field without a value says nothing. -/

namespace OrphanSweep.Text

/-- A text with its escaped bytes. -/
def percentBytes : List Char → List (Nat ⊕ Char)
  | []               => []
  | '%' :: a :: b :: s =>
      match Numeral.hexDigit? a, Numeral.hexDigit? b with
      | some m, some n => .inl (16 * m + n) :: percentBytes s
      | _, _           => .inr '%' :: percentBytes (a :: b :: s)
  | c :: s           => .inr c :: percentBytes s

/-- The text that a name or a value stands for. -/
def unescaped (s : List Char) : List Char :=
  readBytes none (percentBytes (s.map fun c => if c = '+' then ' ' else c))

/-- The name and the value of a field; the first equals sign stands between them. -/
def field? (s : List Char) : Option (String × String) :=
  match s.dropWhile (· ≠ '=') with
  | '=' :: c :: value =>
      some (String.ofList (unescaped (s.takeWhile (· ≠ '='))),
        String.ofList (unescaped (c :: value)))
  | _ => none

/-- The fields of a query, in order. -/
def fields (s : List Char) : List (String × String) := (pieces '&' s).filterMap field?

/-- The values of the fields of a name, in order. -/
def fieldValues (name : String) (fields : List (String × String)) : List String :=
  (fields.filter fun f => f.1 = name).map Prod.snd

end OrphanSweep.Text
