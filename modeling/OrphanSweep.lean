import OrphanSweep.Text.Blank
import OrphanSweep.Text.Digit
import OrphanSweep.Text.Printable
import OrphanSweep.Text.Word
import OrphanSweep.PointId
import OrphanSweep.Decimal.Shortest
import OrphanSweep.Decimal.Fixed
import OrphanSweep.Decimal.Reader
import OrphanSweep.Failure
import OrphanSweep.Page
import OrphanSweep.Retry
import OrphanSweep.VectorStore
import OrphanSweep.Registry.History
import OrphanSweep.Registry.Query.Plain
import OrphanSweep.Signals
import OrphanSweep.Report
import OrphanSweep.Settings
import OrphanSweep.DatabaseUrl.Basic
import OrphanSweep.DatabaseUrl.Problem
import OrphanSweep.World.Answer
import OrphanSweep.Rehearsal
import OrphanSweep.Session
import OrphanSweep.Job
import OrphanSweep.Main
import OrphanSweep.Proofs.Dialogue
import OrphanSweep.Proofs.Retry
import OrphanSweep.Proofs.PointSet
import OrphanSweep.Proofs.Registry
import OrphanSweep.Proofs.World
import OrphanSweep.Proofs.Pool
import OrphanSweep.Proofs.Watch
import OrphanSweep.Proofs.Sweep
import OrphanSweep.Proofs.Deletion
import OrphanSweep.Proofs.Orphans
import OrphanSweep.Proofs.Pages
import OrphanSweep.Proofs.SetScan
import OrphanSweep.Proofs.SetSweep
import OrphanSweep.Proofs.ExactRun
import OrphanSweep.Proofs.Rerun
import OrphanSweep.Proofs.Lone
import OrphanSweep.Proofs.Agreement
import OrphanSweep.Proofs.Comparison
import OrphanSweep.Proofs.Attempts
import OrphanSweep.Proofs.Transcript
import OrphanSweep.Proofs.Transparency
import OrphanSweep.Proofs.Abreast
import OrphanSweep.Proofs.Reports
import OrphanSweep.Proofs.AllowList
import OrphanSweep.Proofs.Release
import OrphanSweep.Proofs.Settings
import OrphanSweep.Proofs.Job
import OrphanSweep.Proofs.DryRun
import OrphanSweep.Proofs.Moments
import OrphanSweep.Proofs.Visit
import OrphanSweep.Proofs.Cancellation
import OrphanSweep.Proofs.Efforts
import OrphanSweep.Proofs.Raises
import OrphanSweep.Proofs.FailFast
import OrphanSweep.Proofs.Stopping
import OrphanSweep.Proofs.ExitStatus
import OrphanSweep.Proofs.Counts
import OrphanSweep.Proofs.Cursors
import OrphanSweep.Proofs.Blocks
import OrphanSweep.Proofs.Abort
import OrphanSweep.Proofs.Backoff
import OrphanSweep.Proofs.PageSizes
import OrphanSweep.Proofs.LastingFailures
import OrphanSweep.Proofs.MalformedPages
import OrphanSweep.Proofs.Trimming
import OrphanSweep.Proofs.Numerals
import OrphanSweep.Proofs.IntegerSettings
import OrphanSweep.Proofs.Environments
import OrphanSweep.Proofs.CommaLists
import OrphanSweep.Proofs.Handlers
import OrphanSweep.Proofs.Disclosure
import OrphanSweep.Proofs.Hexadecimals
import OrphanSweep.Proofs.Spellings
import OrphanSweep.Proofs.CanonicalTexts
import OrphanSweep.Proofs.Flags
