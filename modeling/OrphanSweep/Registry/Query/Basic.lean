import OrphanSweep.Registry.Basic
import OrphanSweep.Text.Blank

/-! # Queries with placeholders

    One way to write the query of a lookup is a text with a placeholder for the ids, named after the
    column.  Before the query is sent, every placeholder in its text is looked for and filled in.
    The names of the table and of the column are part of that text, so a name can spoil the query:
    it can spell a placeholder itself, and blanks in it can keep the placeholder of the ids from
    being found.  `fate` says which of these happens where queries are written so. -/

namespace OrphanSweep.Query

/-! ## The text -/

/-- A name between double quotes; a double quote inside it is written twice. -/
def quoted (name : String) : List Char :=
  '"' :: name.toList.flatMap (fun c => if c = '"' then ['"', '"'] else [c]) ++ ['"']

/-- Whether a character never stands in the name of a placeholder. -/
def isSpecial (c : Char) : Bool := ['%', '(', ')', ' ', '$'].contains c

/-- Writes an underscore for every stretch of special characters. -/
def squeezed : List Char → List Char
  | []     => []
  | c :: s =>
      if !isSpecial c then c :: squeezed s
      else if s.head?.any isSpecial then squeezed s
      else '_' :: squeezed s

/-- The form that a character takes in the name of a placeholder. -/
def plainForm (c : Char) : Char :=
  if c = ':' then 'C' else if c = '.' || c = '[' || c = ']' then '_' else c

/-- What the name of the placeholder for the ids takes from the column. -/
def stem (column : String) : List Char :=
  (Text.trimBy (· = '_') (squeezed column.toList)).map plainForm

/-- The name of the placeholder for the ids. -/
def placeholderName (column : String) : List Char := stem column ++ ['_', '1']

/-- The mark that opens a placeholder; a square bracket closes it. -/
def opening : List Char := ['_', '_', '[', 'P', 'O', 'S', 'T', 'C', 'O', 'M', 'P', 'I', 'L', 'E', '_']

/-- The text of the query before the placeholder for the ids. -/
def lead (table column : String) : List Char :=
  let field := quoted table ++ '.' :: quoted column
  "SELECT ".toList ++ field ++ " \nFROM ".toList ++ quoted table ++ " \nWHERE ".toList ++ field ++
    " IN (".toList

/-- The text of the query before its placeholders are filled in. -/
def text (table column : String) : List Char :=
  lead table column ++ (opening ++ (placeholderName column ++ [']', ')']))

/-! ## The placeholders in a text -/

/-- A placeholder that was found. -/
structure Placeholder where
  name : List Char
  /-- What stands between the outer tildes after the name, if there are any. -/
  wrap : Option (List Char) := none
deriving DecidableEq

/-- Reads a wrapping up to the tildes and the bracket that close it, with what follows them.  It
    is not empty and lies in one line. -/
def wrap? : (read : List Char) → List Char → Option (List Char × List Char)
  | _, []       => none
  | read, c :: s =>
      if read ≠ [] ∧ ['~', '~', ']'].isPrefixOf (c :: s) then some (read.reverse, s.drop 2)
      else if c = '\n' then none
      else wrap? (c :: read) s

/-- Closes a placeholder whose name has been read; what follows it comes second. -/
def close? (name : List Char) : List Char → Option (Placeholder × List Char)
  | ']' :: s        => some ({ name }, s)
  | '~' :: '~' :: s => (wrap? [] s).map fun w => ({ name, wrap := some w.1 }, w.2)
  | _               => none

/-- Reads a placeholder after its mark, with what follows it.  Its name is not empty, has no
    blanks, and is as short as it can be. -/
def placeholder? : (read : List Char) → List Char → Option (Placeholder × List Char)
  | _, []        => none
  | read, c :: s =>
      match if read = [] then none else close? read.reverse (c :: s) with
      | some found => some found
      | none       => if Text.isBlank c then none else placeholder? (c :: read) s

/-- The placeholders in a text, from the left; `skip` counts the characters of the placeholder at
    hand that are still to be passed. -/
def placeholders : (skip : Nat) → List Char → List Placeholder
  | _, []            => []
  | skip + 1, _ :: s => placeholders skip s
  | 0, c :: s        =>
      if opening.isPrefixOf (c :: s) then
        match placeholder? [] ((c :: s).drop opening.length) with
        | some (found, rest) => found :: placeholders (s.length - rest.length) s
        | none               => placeholders 0 s
      else placeholders 0 s

/-! ## Filling in -/

/-- The number of places at which a text is cut by pairs of tildes. -/
def cuts : List Char → Nat
  | '~' :: '~' :: s => cuts s + 1
  | _ :: s          => cuts s
  | []              => 0

/-- Whether a placeholder can be filled in when the one for the ids has a given name: it has that
    name, and a wrapping has a part before each id and a part after it. -/
def Placeholder.isFillable (name : List Char) (p : Placeholder) : Bool :=
  p.name = name && p.wrap.all fun w => 2 ≤ cuts (w ++ ['~', '~'])

/-- What becomes of the query for the names of a table and a column. -/
def fate (table column : String) : Fate :=
  let name := placeholderName column
  let found := placeholders 0 (text table column)
  if !found.all (Placeholder.isFillable name) then .unsent
  else if found = [{ name }] then .sound
  else .garbled

end OrphanSweep.Query
