import OrphanSweep.World.Basic
import OrphanSweep.Text.Blank

/-! # Snapshots

    A snapshot describes a world line by line: `collection NAME` opens a collection, `point ID`
    puts a point into the collection opened last, and `row ID` gives the registry a row.  Blank
    lines mean nothing. -/

namespace OrphanSweep.World

/-- What one line of a snapshot describes. -/
inductive Entry
  | collection (name : String)
  | point (id : PointId)
  | row (id : PointId)
  | blank

/-- Reads one line: a word, a blank, and what the word is about. -/
def Entry.ofLine? (line : String) : Option Entry :=
  let s := Text.trim line.toList
  let word := String.ofList (s.takeWhile fun c => !Text.isBlank c)
  let about := Text.strip (String.ofList (s.dropWhile fun c => !Text.isBlank c))
  if s = [] then some .blank
  else if word = "collection" ∧ about ≠ "" then some (.collection about)
  else if word = "point" then (PointId.parse? about).map .point
  else if word = "row" then (PointId.parse? about).map .row
  else none

/-- The world with an entry added to it; a point needs a collection. -/
def add? (w : World) : Entry → Option World
  | .blank           => some w
  | .row id          => some (w.addRows [id])
  | .collection name =>
      some { w with
        collections := w.collections ++ [{ name, contents := .points ∅ }] }
  | .point id        =>
      w.collections.getLast?.bind fun c => (w.addPoints c.name (.ofList [id])).toOption

/-- The world that lines describe, or the number of the first line that cannot be used. -/
def ofLines (w : World) (number : Nat) : List String → Except Nat World
  | []            => .ok w
  | line :: lines =>
      match (Entry.ofLine? line).bind w.add? with
      | some next => ofLines next (number + 1) lines
      | none      => .error number

end OrphanSweep.World
