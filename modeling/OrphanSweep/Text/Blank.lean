import OrphanSweep.Text.Ranges

/-! # Blank characters and trimming

    Settings are read without the blanks around them.  The blanks are those of Unicode,
    with the four separators U+001C to U+001F among them; a zero-width space is none. -/

namespace OrphanSweep.Text

/-- The blank characters. -/
def blanks : Ranges :=
  [(0x09, 0x0D), (0x1C, 0x20), (0x85, 0x85), (0xA0, 0xA0), (0x1680, 0x1680), (0x2000, 0x200A),
   (0x2028, 0x2029), (0x202F, 0x202F), (0x205F, 0x205F), (0x3000, 0x3000)]

/-- Whether a character is blank. -/
def isBlank (c : Char) : Bool := blanks.has c

/-- Drops the characters of a class from both ends. -/
def trimBy (drop : Char → Bool) (s : List Char) : List Char :=
  ((s.dropWhile drop).reverse.dropWhile drop).reverse

/-- Trimming adds nothing. -/
theorem mem_of_mem_trimBy {drop : Char → Bool} {c : Char} {s : List Char}
    (h : c ∈ trimBy drop s) : c ∈ s := by
  have outer := (List.dropWhile_suffix drop).subset (List.mem_reverse.1 h)
  exact (List.dropWhile_suffix drop).subset (List.mem_reverse.1 outer)

/-- Drops the blanks from both ends. -/
def trim (s : List Char) : List Char := trimBy isBlank s

/-- A text without the blanks at its ends. -/
def strip (s : String) : String := String.ofList (trim s.toList)

end OrphanSweep.Text
