import OrphanSweep.Text.Blank
import OrphanSweep.Text.Pieces

/-! # Comma-separated lists

    The items of a list stand between commas; blanks around an item do not belong to it, and an
    item of blanks alone is none. -/

namespace OrphanSweep.Text

/-- The items of a list as characters. -/
def items (s : List Char) : List (List Char) :=
  ((pieces ',' s).map trim).filter (· ≠ [])

/-- The items of a list. -/
def commaItems (s : String) : List String := (items s.toList).map String.ofList

end OrphanSweep.Text
