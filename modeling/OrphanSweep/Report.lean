import OrphanSweep.Decimal.Fixed
import OrphanSweep.Tally

/-! # The report of a run

    What is printed after a run that ended well. -/

namespace OrphanSweep

/-- The lines of the report; the time is given in seconds with one place. -/
def Summary.report (s : Summary) (elapsed : Float) : List String :=
  ["\n=== Sync Complete ===",
   s!"Collections: {s.tallies.length}",
   s!"Points scanned: {s.points}",
   s!"Orphans found: {s.found}",
   if s.dryRun then "Orphans deleted: 0 (dry run)" else s!"Orphans deleted: {s.deleted}",
   s!"Elapsed: {Decimal.fixed 1 elapsed}s"]

end OrphanSweep
