import OrphanSweep.Page

/-! # Collections

    A collection holds points, or answers from a list of pages made beforehand, or is not there at
    all.  Beside what it holds stand the numbers of calls that were made for it. -/

namespace OrphanSweep

/-- What the store holds under a name. -/
inductive Contents
  /-- There is no such collection. -/
  | missing
  /-- Points; a page is a stretch of them. -/
  | points (points : PointSet)
  /-- The answers to the scrolls to come, whatever is asked for. -/
  | scripted (answers : List (Except Failure RawPage))

namespace Contents

/-- The failure of a call for a collection that is not there. -/
def notFound (name : String) : Failure :=
  .foreign .badValue [.text s!"Collection {name} not found"]

/-- The failure of a scroll after the last answer. -/
def exhausted : Failure := .foreign .runtime [.text "no more pages"]

/-- The page of a set from an offset on: at most `limit` members, and the one after them as the
    cursor. -/
def page (points : PointSet) (offset : PointId) (limit : Int) : RawPage :=
  let rest := (points.filter fun p => offset ≤ p).toList
  { records := (rest.take limit.toNat).map .id
    next    := ((rest.drop limit.toNat).head?.map .id).getD .null }

/-- Answers a scroll of the collection of a name. -/
def scroll (name : String) (offset : PointId) (limit : Int) :
    Contents → Except Failure RawPage × Contents
  | missing                   => (.error (notFound name), missing)
  | points held               => (.ok (page held offset limit), points held)
  | scripted []               => (.error exhausted, scripted [])
  | scripted (answer :: rest) => (answer, scripted rest)

/-- Deletes points; those that are not there are ignored. -/
def delete (name : String) (ids : PointSet) : Contents → Except Failure Unit × Contents
  | missing          => (.error (notFound name), missing)
  | points held      => (.ok (), points (held \ ids))
  | scripted answers => (.ok (), scripted answers)

/-- Adds points to the collection of a name, which has to hold points. -/
def add (name : String) (ids : PointSet) : Contents → Except Failure Contents
  | points held => .ok (points (held ∪ ids))
  | _           => .error (notFound name)

/-- Removes points from the collection of a name, which has to hold points. -/
def remove (name : String) (ids : PointSet) : Contents → Except Failure Contents
  | points held => .ok (points (held \ ids))
  | _           => .error (notFound name)

/-- The points held, if the collection holds points. -/
def points? : Contents → Option PointSet
  | points held => some held
  | _           => none

/-- Whether the store hosts the collection. -/
def isHosted : Contents → Bool
  | missing => false
  | _       => true

/-- A bound on the number of pages in one scan. -/
def pageBound : Contents → Nat
  | missing          => 1
  | points held      => held.size + 2
  | scripted answers => answers.length + 1

end Contents

/-- What the store holds under a name, and the numbers of calls so far. -/
structure Collection where
  name      : String
  contents  : Contents := .missing
  scrolls   : Nat := 0
  lookups   : Nat := 0
  deletions : Nat := 0

namespace Collection

/-- The collection of a name in a list: the first one, or one that is not there. -/
def find (name : String) : List Collection → Collection
  | []      => { name }
  | c :: cs => if c.name = name then c else find name cs

/-- The list with a collection in the place of the first one of its name, or at the end. -/
def store (collection : Collection) : List Collection → List Collection
  | []      => [collection]
  | c :: cs => if c.name = collection.name then collection :: cs else c :: store collection cs

theorem name_find (name : String) (cs : List Collection) : (find name cs).name = name := by
  induction cs with
  | nil => rfl
  | cons c cs ih =>
      by_cases h : c.name = name
      · simp [find, h]
      · simp [find, h, ih]

theorem find_store_self (c : Collection) (cs : List Collection) :
    find c.name (store c cs) = c := by
  induction cs with
  | nil => simp [store, find]
  | cons d cs ih =>
      by_cases h : d.name = c.name
      · simp [store, h, find]
      · simp [store, h, find, ih]

theorem find_store_of_ne {name : String} {c : Collection} (h : name ≠ c.name)
    (cs : List Collection) : find name (store c cs) = find name cs := by
  induction cs with
  | nil => simp [store, find, Ne.symm h]
  | cons d cs ih =>
      by_cases hd : d.name = c.name
      · simp [store, hd, find, Ne.symm h]
      · by_cases hn : d.name = name
        · subst hn; simp [store, hd, find]
        · simp [store, hd, find, hn, ih]

end Collection

end OrphanSweep
