import OrphanSweep.Pool

/-! # Sweeps

    A sweep asks for the hosted collections, picks those it is for, and scans them: one after the
    other, or several at a time if it has several workers and more than one collection.  The first
    failure ends it. -/

namespace OrphanSweep

/-- How a sweep is made. -/
structure Sweeper where
  plan        : Plan := {}
  workers     : Nat := 1
  workers_pos : 0 < workers := by decide
  /-- The number of the event that tells the sweep to stop. -/
  stop        : Nat := 0

/-- What became of the scans of a sweep. -/
structure Scans where
  /-- The transcripts of the scans, in the order of the collections; that of a scan that was called
      off is empty. -/
  records : List ScanRecord
  result  : Except Failure (List Tally)
  state   : World

/-- What became of a sweep. -/
structure Swept where
  /-- What was asked and shown before the scans. -/
  opening : List Event
  /-- Whether the scans were made at the same time. -/
  shared  : Bool := false
  records : List ScanRecord := []
  result  : Except Failure Summary
  state   : World

/-- The events of several scans, those of one collection together. -/
def ScanRecord.grouped (records : List ScanRecord) : List Event :=
  (records.map ScanRecord.name).eraseDups.flatMap fun name =>
    (records.filter fun r => r.name = name).flatMap ScanRecord.events

/-- The events of the scans of a sweep; those of scans that were made at the same time are shown
    collection by collection. -/
def Swept.scanEvents (s : Swept) : List Event :=
  if s.shared then ScanRecord.grouped s.records else s.records.flatMap ScanRecord.events

/-- The events of a sweep. -/
def Swept.log (s : Swept) : List Event := s.opening ++ s.scanEvents

namespace Sweeper

/-- A sweeper with numbers that need not be in range: there is at least one worker, and a bound on
    retries below zero stands for none. -/
def ofNumbers (pageSize workers maxRetries : Int) (dryRun : Bool) (stop : Nat) : Sweeper where
  plan        := { pageSize, maxRetries := maxRetries.toNat, dryRun }
  workers     := (max 1 workers).toNat
  workers_pos := by omega
  stop        := stop

variable (s : Sweeper)

/-- Asks for the hosted collections, with retries. -/
def listing (w : World) :
    Played Unit (fun _ => Except Failure (List String)) World (Except Failure (List String)) :=
  (retry s.plan.maxRetries "list collections"
    (.asks () fun reply => .ended (VectorStore.listed reply))).run World.hosts w

/-- Scans one collection. -/
def scanOne (name : String) (w : World) : Played Call Call.Reply World (Except Halt Tally) :=
  (scan s.plan name (w.collection name).contents.pageBound).run (World.answer s.stop name) w

/-- Scans collections one after the other, up to the first that fails. -/
def scanEach : List String → World → Scans
  | [], w            => ⟨[], .ok [], w⟩
  | name :: names, w =>
      let first := s.scanOne name w
      match first.result with
      | .error halt => ⟨[⟨name, first.transcript⟩], .error halt.failure, first.state⟩
      | .ok tally   =>
          let rest := scanEach names first.state
          ⟨⟨name, first.transcript⟩ :: rest.records, rest.result.map (tally :: ·), rest.state⟩

/-- Scans several collections at a time; `turns` says how the scans take turns. -/
def scanTogether (turns : List Nat) (names : List String) (w : World) : Scans :=
  let done := (Pool.start s.plan names w).run s.stop s.workers turns
  ⟨done.scanners.map Scanner.record,
   match done.failure with
   | some failure => .error failure
   | none         => .ok (names.filterMap done.tally?),
   done.world⟩

/-- The collections that a sweep is for: those hosted that are allowed, or all that are hosted. -/
def selected (allowed hosted : List String) : List String :=
  if allowed.isEmpty then hosted else hosted.filter allowed.contains

/-- The line for an allowed collection that is not hosted. -/
def missingLine (name : String) : String :=
  s!"Warning: collection {name} not found in Qdrant, skipping"

/-- The line that tells how many collections are swept. -/
def openingLine (names : List String) : String :=
  s!"Reconciling {names.length} collection(s) with {min s.workers (max 1 names.length)} worker(s)"

/-- The lines between the listing and the scans. -/
def announcement (allowed hosted : List String) : List Event :=
  ((allowed.filter fun name => !hosted.contains name).map fun name => .print (missingLine name)) ++
    [.print (s.openingLine (selected allowed hosted))]

/-- Whether the collections are scanned at the same time. -/
def isShared (names : List String) : Bool := 1 < s.workers && 1 < names.length

/-- Scans collections, one after the other or at the same time. -/
def scanAll (turns : List Nat) (names : List String) (w : World) : Scans :=
  if s.isShared names then s.scanTogether turns names w else s.scanEach names w

/-- Sweeps; `turns` says how scans at the same time take turns. -/
def run (turns : List Nat) (allowed : List String) (w : World) : Swept :=
  let listed := s.listing { w with aborted := false }
  let opening := Line.events (fun _ => some .list) listed.transcript
  match listed.result with
  | .error failure => { opening, result := .error failure, state := listed.state }
  | .ok hosted     =>
      let names := selected allowed hosted
      let scans := s.scanAll turns names listed.state
      { opening := opening ++ s.announcement allowed hosted
        shared  := s.isShared names
        records := scans.records
        result  := scans.result.map fun tallies => { tallies, dryRun := s.plan.dryRun }
        state   := scans.state }

end Sweeper

end OrphanSweep
