import OrphanSweep.Rehearsal
import OrphanSweep.World.Snapshot

/-! # The command line

    The job takes its settings from the environment and its world from a snapshot on the standard
    input.  It prints its lines and ends with its exit status. -/

namespace OrphanSweep.CommandLine

/-- The lines of a stream, after those read so far. -/
partial def readLines (stream : IO.FS.Stream) (lines : List String) : IO (List String) := do
  let line ← stream.getLine
  if line = "" then return lines.reverse
  readLines stream (line :: lines)

/-- The variables of the environment that are settings, with their texts. -/
def readVariables : IO (List (String × String)) :=
  Settings.names.filterMapM fun name => do
    return (← IO.getEnv name).map fun text => (name, text)

/-- Prints the lines of a job and gives its exit status. -/
def report (done : Outcome World (Except Failure ExitStatus)) : IO UInt32 := do
  for line in Event.printed done.log do
    IO.println line
  match done.result with
  | .ok status     => return status.code.toUInt32
  | .error failure =>
      IO.eprintln failure.message
      return 1

/-- Runs the job in the world of a snapshot. -/
def job : IO UInt32 := do
  let set ← readVariables
  let lines ← readLines (← IO.getStdin) []
  match World.ofLines { registry := { rows := some [] } } 1 lines with
  | .ok world     => report (Job.rehearse (fun name => set.lookup name) world)
  | .error number =>
      IO.eprintln s!"snapshot: line {number} cannot be used"
      return 2

end OrphanSweep.CommandLine

def main : IO UInt32 := OrphanSweep.CommandLine.job
