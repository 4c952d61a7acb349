import OrphanSweep.Failure

/-! # Tallies and summaries

    A tally counts what a scan of one collection met.  A summary holds the tallies of a run, and
    its totals are their sums. -/

namespace OrphanSweep

/-- How far the scan of a collection has come. -/
inductive Phase
  | scanning
  | pruning
  | done
deriving DecidableEq

/-- The name of a phase. -/
def Phase.name : Phase → String
  | scanning => "SCANNING"
  | pruning  => "PRUNING"
  | done     => "DONE"

/-- The phase that a value names, or a refusal that shows the value. -/
def Phase.ofValue (v : Value) : Except Failure Phase :=
  match [scanning, pruning, done].find? fun phase =>
      match v with
      | .text s => s = phase.name
      | _       => false with
  | some phase => .ok phase
  | none       =>
      .error (.foreign .badValue [.text (v.literal ++ " is not a valid CollectionState")])

/-- The counts of one collection. -/
structure Tally where
  collection : String
  pages      : Int := 0
  points     : Int := 0
  found      : Int := 0
  deleted    : Int := 0
  phase      : Phase := .scanning
deriving DecidableEq

/-- The tallies of a run. -/
structure Summary where
  tallies : List Tally := []
  dryRun  : Bool := false
deriving DecidableEq

namespace Summary

/-- The sum of one of the counts over all tallies. -/
def total (count : Tally → Int) (s : Summary) : Int :=
  s.tallies.foldr (fun t sum => count t + sum) 0

/-- The number of points that were scanned. -/
def points : Summary → Int := total Tally.points

/-- The number of orphans that were found. -/
def found : Summary → Int := total Tally.found

/-- The number of orphans that were deleted. -/
def deleted : Summary → Int := total Tally.deleted

end Summary

end OrphanSweep
