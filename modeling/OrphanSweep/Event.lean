import OrphanSweep.PointSet

/-! # Events

    What an observer of a sweep sees, in order: printed lines, waits, and the requests that reach
    the vector store, the registry and the outside. -/

namespace OrphanSweep

/-- A request for one page of a collection. -/
structure ScrollRequest where
  collection  : String
  offset      : String
  limit       : Int
  withPayload : Bool := false
  withVectors : Bool := false
deriving DecidableEq

/-- A request to delete points of a collection. -/
structure DeleteRequest where
  collection : String
  ids        : List String
  wait       : Bool := true
deriving DecidableEq

/-- How the database is connected to. -/
structure EnginePlan where
  url         : String
  poolSize    : Int
  maxOverflow : Int := 0
  prePing     : Bool := true
deriving DecidableEq

/-- How the vector store is connected to. -/
structure ClientPlan where
  url     : String
  apiKey  : Option String
  timeout : Int
deriving DecidableEq

/-- An observable step. -/
inductive Event
  /-- A line is printed. -/
  | print (line : String)
  /-- The sweep waits. -/
  | sleep (seconds : Nat)
  /-- The collections are asked for. -/
  | list
  /-- A page is asked for. -/
  | scroll (request : ScrollRequest)
  /-- The registry is asked which of some points have a row. -/
  | lookup (ids : PointSet)
  /-- The registry sends a query to its database. -/
  | query
  /-- Points are to be deleted. -/
  | delete (request : DeleteRequest)
  /-- The database engine is made. -/
  | engine (plan : EnginePlan)
  /-- The registry takes up its table and column. -/
  | table (name column : String)
  /-- The client of the vector store is made. -/
  | client (plan : ClientPlan)
  /-- The connections to the database are given back. -/
  | dispose
deriving DecidableEq

/-- The lines that are printed, in order. -/
def Event.printed (events : List Event) : List String :=
  events.filterMap fun
    | .print line => some line
    | _           => none

/-- The seconds that are spent waiting. -/
def Event.waited (events : List Event) : Nat :=
  events.foldr (fun
    | .sleep seconds => (seconds + ·)
    | _              => (0 + ·)) 0

/-- The offset that a cursor stands for; a scan without one begins at the nil id. -/
def ScrollRequest.offsetOf (cursor : Option String) : String :=
  cursor.getD PointId.nil.text

end OrphanSweep
