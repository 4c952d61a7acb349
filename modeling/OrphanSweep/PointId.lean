import OrphanSweep.Numeral.Hexadecimal
import OrphanSweep.Text.Pieces

/-! # Point ids

    A point is named by a number of 128 bits.  `PointId.text` writes it in the canonical form of
    36 characters, and `PointId.parse?` reads that form and its looser spellings. -/

namespace OrphanSweep

/-- The number of ids, two to the power of 128. -/
abbrev PointId.count : Nat := 0x100000000000000000000000000000000

/-- The id of a point. -/
structure PointId where
  /-- The number that the id stands for. -/
  val  : Nat
  /-- The number has at most 128 bits. -/
  isLt : val < PointId.count := by decide
deriving DecidableEq

namespace PointId

/-- The id that no other id precedes. -/
def nil : PointId where
  val := 0

instance : Inhabited PointId := ⟨nil⟩

instance : LT PointId := ⟨fun p q => p.val < q.val⟩

instance : LE PointId := ⟨fun p q => p.val ≤ q.val⟩

instance (p q : PointId) : Decidable (p < q) := inferInstanceAs (Decidable (p.val < q.val))

instance (p q : PointId) : Decidable (p ≤ q) := inferInstanceAs (Decidable (p.val ≤ q.val))

/-- The id of a number, if it has at most 128 bits. -/
def ofNat? (n : Nat) : Option PointId :=
  if h : n < count then some ⟨n, h⟩ else none

/-- Cuts a list into stretches of given lengths; what is left over is dropped. -/
def cut {α : Type} : (lengths : List Nat) → List α → List (List α)
  | [], _           => []
  | n :: lengths, l => l.take n :: cut lengths (l.drop n)

/-- The canonical characters: 32 hexadecimal digits in groups with dashes between them. -/
def chars (p : PointId) : List Char :=
  Text.join '-' (cut [8, 4, 4, 4, 12] (Numeral.hexadecimal 32 p.val))

/-- The canonical text. -/
def text (p : PointId) : String := String.ofList p.chars

instance : ToString PointId := ⟨text⟩

/-! ## Reading -/

/-- Drops every occurrence of a word, from the left; `skip` counts the characters of the
    occurrence at hand that are still to be dropped. -/
def without (word : List Char) : (skip : Nat) → List Char → List Char
  | _, []            => []
  | skip + 1, _ :: s => without word skip s
  | 0, c :: s        =>
      if word.isPrefixOf (c :: s) then without word (word.length - 1) s
      else c :: without word 0 s

/-- The digits of a spelling: without the name of the notation, the braces around the id and the
    dashes inside it. -/
def core (s : List Char) : List Char :=
  let unnamed := without "uuid:".toList 0 (without "urn:".toList 0 s)
  (Text.trimBy (fun c => c = '\x7b' || c = '\x7d') unnamed).filter (· ≠ '-')

/-- Reads an id in any of its spellings: its core is a hexadecimal number of 32 characters. -/
def parse? (s : String) : Option PointId :=
  let digits := core s.toList
  if digits.length = 32 then
    (Numeral.hexadecimal? digits).bind fun n => if 0 ≤ n then ofNat? n.toNat else none
  else none

end PointId

end OrphanSweep
