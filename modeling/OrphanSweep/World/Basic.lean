import OrphanSweep.Registry.Basic
import OrphanSweep.VectorStore
import OrphanSweep.World.Collection
import OrphanSweep.World.Schedule

/-! # The world of a sweep

    A sweep meets the collections of the vector store, the registry, the faults that strike its
    calls, and the signals of its program.  `World.answer` answers the questions of a scan and
    `World.hosts` the question for the collections; both count the call and let the schedule strike
    it. -/

namespace OrphanSweep

/-- What a sweep runs against. -/
structure World where
  collections : List Collection := []
  registry    : Registry := {}
  schedule    : Schedule := Schedule.calm
  /-- The number of listings so far. -/
  listings    : Nat := 0
  signals     : Signals := {}
  /-- A scan of a run with several workers has failed, and no run has begun since. -/
  aborted     : Bool := false

namespace World

/-- The collection of a name. -/
def collection (w : World) (name : String) : Collection := .find name w.collections

/-- The world with a collection changed. -/
def store (w : World) (c : Collection) : World := { w with collections := c.store w.collections }

/-- The names of the collections that the store hosts, in order. -/
def hosted (w : World) : List String :=
  (w.collections.filter fun c => c.contents.isHosted).map Collection.name

/-- The points of the collections that hold points, in order. -/
def points (w : World) : List (String × PointSet) :=
  w.collections.filterMap fun c => c.contents.points?.map fun held => (c.name, held)

/-- Whether a scan has to stop; `stop` is the event that tells the sweep to. -/
def stopping (w : World) (stop : Nat) : Bool := w.signals.isSet stop || w.aborted

/-! ## Changes between runs -/

/-- Adds points to a collection that holds points. -/
def addPoints (w : World) (name : String) (ids : PointSet) : Except Failure World :=
  let c := w.collection name
  (c.contents.add name ids).map fun contents => w.store { c with contents }

/-- Removes points from a collection that holds points. -/
def removePoints (w : World) (name : String) (ids : PointSet) : Except Failure World :=
  let c := w.collection name
  (c.contents.remove name ids).map fun contents => w.store { c with contents }

/-- Adds rows to the registry. -/
def addRows (w : World) (ids : List PointId) : World :=
  { w with registry := w.registry.insert ids }

/-- Removes rows from the registry. -/
def removeRows (w : World) (ids : List PointId) : World :=
  { w with registry := w.registry.remove ids }

end World

end OrphanSweep
