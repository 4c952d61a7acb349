import OrphanSweep.Event
import OrphanSweep.Failure

/-! # The registry

    The registry is the table of a database whose rows own points.  A lookup tells which of some
    points have a row; it sends one query, and none if there is nothing to look up.  A column
    without a name is refused when the registry is defined (`Registry.define`); a table without a
    name can be defined, but no statement about it can be written.  Whether the query of a lookup
    comes out as it is meant is up to what writes queries for the database (`Database.fate`). -/

namespace OrphanSweep

/-- What becomes of the query of a lookup. -/
inductive Query.Fate
  /-- It asks which ids have a row. -/
  | sound
  /-- It is sent, and the database cannot make sense of it. -/
  | garbled
  /-- It cannot be written, so it is not sent. -/
  | unsent
deriving DecidableEq

/-- A database, as far as lookups can tell. -/
structure Database where
  /-- The ids in the rows of a table, by the names of the table and of its column, and nothing for
      an empty row; no list if there is no such table. -/
  tables  : (table column : String) → Option (List (Option PointId)) := fun _ _ => none
  /-- What becomes of the query of a lookup, by the same names. -/
  fate    : (table column : String) → Query.Fate := fun _ _ => .sound
  /-- The failure of every attempt to connect. -/
  refused : Option Failure := none

/-- The name of the table unless another is given. -/
def Registry.defaultTable : String := "chunk_metadata"

/-- The name of the column of ids unless another is given. -/
def Registry.defaultColumn : String := "qdrant_point_id"

/-- The table that owns the points, and whether its database can be reached. -/
structure Registry where
  tableName    : String := Registry.defaultTable
  columnName   : String := Registry.defaultColumn
  column_named : columnName ≠ "" := by decide
  /-- The ids in the rows, nothing for an empty one; no list if there is no table. -/
  rows         : Option (List (Option PointId)) := none
  /-- What becomes of the query of a lookup. -/
  queryFate    : Query.Fate := .sound
  /-- The failure of every attempt to connect. -/
  refused      : Option Failure := none

namespace Registry

/-- The refusal of a column without a name. -/
def unnamedColumn : Failure :=
  .foreign .badDefinition [.text ("Column must be constructed with a non-blank name or assign a " ++
    "non-blank .name before adding to a Table.")]

/-- The registry of a table of a database; its column needs a name. -/
def define (d : Database) (tableName columnName : String) : Except Failure Registry :=
  if h : columnName = "" then .error unnamedColumn
  else
    .ok {
      tableName, columnName
      column_named := h
      rows         := d.tables tableName columnName
      queryFate    := d.fate tableName columnName
      refused      := d.refused }

/-- The failure of a statement about a table without a name. -/
def unnamedTable : Failure := .foreign .outOfRange [.text "string index out of range"]

/-- Whether the table has a name. -/
def isNamed (r : Registry) : Bool := r.tableName ≠ ""

/-- What becomes of a failure to connect: a failure of the database may pass. -/
def connectFailure (failure : Failure) : Failure :=
  if failure.isOfDatabase then
    .transient (.text "point lookup") (.told (.text failure.message)) .null
  else failure

/-- The failure of a query to a table that does not exist. -/
def noTable (name : String) : Failure :=
  .transient (.text "point lookup") (.missingTable name) .null

/-- The ids of a set that have at least one row. -/
def owned (rows : List (Option PointId)) (ids : PointSet) : PointSet :=
  ids.filter fun p => rows.contains (some p)

/-- The failure of a query that is not sound. -/
def spoiled : Failure := .transient (.text "point lookup") .spoiledQuery .null

/-- What keeps a query from being sent: first the connection, then the name of the table, then what
    writes queries. -/
def obstacle? (r : Registry) : Option Failure :=
  (r.refused.map connectFailure).or
    (if !r.isNamed then some unnamedTable
     else if r.queryFate = .unsent then some spoiled
     else none)

/-- What the database answers to a query. -/
def reply (r : Registry) (ids : PointSet) : Except Failure PointSet :=
  if r.queryFate = .garbled then .error spoiled
  else
    match r.rows with
    | none      => .error (noTable r.tableName)
    | some rows => .ok (owned rows ids)

/-- Looks up which ids have a row; the events are the queries sent. -/
def lookup (r : Registry) (ids : PointSet) : List Event × Except Failure PointSet :=
  if ids.isEmpty then ([], .ok ∅)
  else
    match r.obstacle? with
    | some failure => ([], .error failure)
    | none         => ([.query], r.reply ids)

/-! ## Changes of the table -/

/-- The rows of the table, which is made if it is missing. -/
def contents (r : Registry) : List (Option PointId) := r.rows.getD []

/-- Adds a row for each id. -/
def insert (r : Registry) (ids : List PointId) : Registry :=
  { r with rows := some (r.contents ++ ids.map some) }

/-- Adds a row without an id. -/
def insertEmpty (r : Registry) : Registry :=
  { r with rows := some (r.contents ++ [none]) }

/-- Removes every row of some ids. -/
def remove (r : Registry) (ids : List PointId) : Registry :=
  { r with rows := some (r.contents.filter fun row => !(ids.map some).contains row) }

/-- Drops the table. -/
def drop (r : Registry) : Registry := { r with rows := none }

/-- From now on connecting fails so, or works again. -/
def refuse (r : Registry) (failure : Option Failure) : Registry := { r with refused := failure }

end Registry

end OrphanSweep
