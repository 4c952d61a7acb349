import OrphanSweep.DatabaseUrl.Problem
import OrphanSweep.Job
import OrphanSweep.Registry.Query.Basic

/-! # Rehearsals

    A rehearsal is a job without a database and without a vector store.  Its site judges an address
    by its form alone, takes every table to have the same rows, and writes queries with
    placeholders. -/

namespace OrphanSweep.Job

/-- The site of a rehearsal with some rows. -/
def Site.rehearsal (rows : List (Option PointId)) : Site where
  engine plan :=
    match DatabaseUrl.problem? plan.url with
    | some failure => .error failure
    | none         => .ok { tables := fun _ _ => some rows, fate := Query.fate }

/-- Runs the job in a world where time passes in waits only, with the rows of its registry. -/
def rehearse (env : Environment) (w : World) : Outcome World (Except Failure ExitStatus) :=
  let site := Site.rehearsal w.registry.contents
  run site [] env { ended := (Event.waited (run site [] env {} w).log).toFloat } w

end OrphanSweep.Job
