import OrphanSweep.Decimal.Shortest
import OrphanSweep.PointId
import OrphanSweep.Text.Quoted

/-! # Values

    What a vector store sends as the id of a record or as a cursor is any value, and so is what an
    error carries.  A value has two texts: `literal` shows it as it would be written down, with
    quotes around a text, and `display` gives a text as it is. -/

namespace OrphanSweep

/-- A dynamic value. -/
inductive Value
  | null
  | bool (b : Bool)
  | int (n : Int)
  | float (x : Float)
  | text (s : String)
  | id (p : PointId)
  | list (items : List Value)
  | dict (entries : List (Value × Value))

namespace Value

instance : Inhabited Value := ⟨null⟩

mutual

/-- The text of a value as it would be written down. -/
def literal : Value → String
  | null         => "None"
  | bool true    => "True"
  | bool false   => "False"
  | int n        => toString n
  | float x      => Decimal.shortest x
  | text s       => Text.quoted s
  | id p         => "UUID('" ++ p.text ++ "')"
  | list items   => "[" ++ ", ".intercalate (literals items) ++ "]"
  | dict entries => "\x7b" ++ ", ".intercalate (entryLiterals entries) ++ "\x7d"

/-- The literals of the items of a list. -/
def literals : List Value → List String
  | []      => []
  | v :: vs => literal v :: literals vs

/-- The literals of the entries of a dictionary, each a key and its value. -/
def entryLiterals : List (Value × Value) → List String
  | []           => []
  | (k, v) :: es => (literal k ++ ": " ++ literal v) :: entryLiterals es

end

/-- The text of a value inside a sentence. -/
def display : Value → String
  | text s => s
  | id p   => p.text
  | v      => literal v

/-- The literals of several values between parentheses; a comma follows a single one. -/
def tuple (values : List Value) : String :=
  "(" ++ ", ".intercalate (literals values) ++ (if values.length = 1 then ",)" else ")")

/-- Whether a value counts as given: nothing, zero and what is empty do not. -/
def isGiven : Value → Bool
  | null       => false
  | bool b     => b
  | int n      => n ≠ 0
  | float x    => x != 0.0
  | text s     => s ≠ ""
  | id _       => true
  | list items => !items.isEmpty
  | dict es    => !es.isEmpty

/-! ## Keys of a dictionary -/

/-- The number that a value stands for, a truth value counting as zero or one. -/
def number? : Value → Option (Int ⊕ Float)
  | bool b  => some (.inl (if b then 1 else 0))
  | int n   => some (.inl n)
  | float x => some (.inr x)
  | _       => none

/-- Whether a double is exactly an integer. -/
def isInteger (x : Float) (n : Int) : Bool :=
  match Decimal.Reading.of x with
  | .finite negative size =>
      (size.ratio.1 : Int) * (if negative then -1 else 1) = n * size.ratio.2
  | _ => false

/-- Whether two values are the same key: numbers by what they stand for, all else by kind. -/
def sameKey (v w : Value) : Bool :=
  match number? v, number? w with
  | some (.inl m), some (.inl n) => m = n
  | some (.inl m), some (.inr x) => isInteger x m
  | some (.inr x), some (.inl m) => isInteger x m
  | some (.inr x), some (.inr y) => x == y
  | _, _ =>
    match v, w with
    | null, null     => true
    | text s, text t => s = t
    | id p, id q     => p = q
    | _, _           => false

/-- Writes an entry: a key that is there keeps its place and its spelling. -/
def putEntry (k v : Value) : List (Value × Value) → List (Value × Value)
  | []           => [(k, v)]
  | (l, w) :: es => if sameKey l k then (l, v) :: es else (l, w) :: putEntry k v es

/-- The dictionary that results from writing entries in order. -/
def ofEntries (entries : List (Value × Value)) : Value :=
  dict (entries.foldl (fun es e => putEntry e.1 e.2 es) [])

end Value

end OrphanSweep
