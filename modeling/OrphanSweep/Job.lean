import OrphanSweep.Report
import OrphanSweep.Settings
import OrphanSweep.Sweep

/-! # The job

    The job loads its variables, reads its settings, connects, sweeps with its own signal handlers
    in place, and turns every end of the sweep into an exit status.  Whatever way the sweep ends,
    the handlers that were there before are put back and the connections are given back.  What the
    job gets from outside, and what it may fail to get, is its site (`Job.Site`). -/

namespace OrphanSweep

/-- How the job ended. -/
inductive ExitStatus
  /-- Everything was swept. -/
  | success
  /-- The sweep failed. -/
  | failure
  /-- The settings cannot be used. -/
  | badSettings
  /-- The sweep was told to stop. -/
  | cancelled
deriving DecidableEq

/-- The number of an exit status. -/
def ExitStatus.code : ExitStatus → Nat
  | success     => 0
  | failure     => 1
  | badSettings => 2
  | cancelled   => 130

namespace Job

/-- A line in a colour of the terminal. -/
def coloured (code : Nat) (line : String) : Event := .print s!"\x1b[{code}m{line}\x1b[0m"

/-- The line that reports an error. -/
def errorLine (words : String) : Event := .print s!"\x1b[31mERROR:\x1b[0m {words}"

/-- The lines that the job opens with. -/
def banner (s : Settings) : List Event :=
  let rule := fun c => coloured 34 (String.ofList (List.replicate 60 c))
  [rule '=', coloured 36 "  Qdrant Orphan Sync", rule '-', coloured 32 ("  " ++ s.describe),
   rule '=']

/-- How the database is connected to. -/
def enginePlan (s : Settings) : EnginePlan := { url := s.databaseUrl, poolSize := s.poolSize }

/-- How the vector store is connected to. -/
def clientPlan (s : Settings) : ClientPlan :=
  { url := s.storeUrl, apiKey := s.apiKey, timeout := s.timeout }

/-- What the job gets from outside, or why it does not get it. -/
structure Site where
  /-- The variables once a file of variables has been loaded. -/
  load   : Environment → Except Failure Environment := .ok
  /-- The database that an engine reaches. -/
  engine : EnginePlan → Except Failure Database
  /-- The failure to make a client of the vector store, if none can be made. -/
  client : ClientPlan → Option Failure := fun _ => none

/-- The registry of the settings: their table and column, in the database of their engine. -/
def registry (site : Site) (s : Settings) : Except Failure Registry :=
  (site.engine (enginePlan s)).bind fun database => Registry.define database s.table s.column

/-- The requests that connect the job. -/
def requests (s : Settings) : List Event :=
  [.engine (enginePlan s), .table s.table s.column, .client (clientPlan s)]

/-- The sweeper of the settings. -/
def sweeper (s : Settings) (stop : Nat) : Sweeper :=
  .ofNumbers s.pageSize s.workers s.maxRetries s.dryRun stop

/-- What is shown at the end of a sweep before everything is given back. -/
def endingEvents : Except Failure Summary → List Event
  | .ok _                                => []
  | .error (.cancelled collection)       =>
      [coloured 33 ((Failure.cancelled collection).message ++
        ". Re-run the job to finish reconciliation.")]
  | .error failure                       =>
      if failure.isOwn then [errorLine failure.message] else []

/-- What is shown after everything has been given back. -/
def reportEvents (elapsed : Float) : Except Failure Summary → List Event
  | .ok summary => (summary.report elapsed).map .print
  | .error _    => []

/-- The exit status of the end of a sweep; a foreign failure gets none. -/
def status : Except Failure Summary → Except Failure ExitStatus
  | .ok _                       => .ok .success
  | .error (.cancelled _)       => .ok .cancelled
  | .error failure              => if failure.isOwn then .ok .failure else .error failure

/-- The times, in seconds, at which a sweep begins and ends. -/
structure Clock where
  began : Float := 0
  ended : Float := 0

/-- The time between, in seconds. -/
def Clock.elapsed (c : Clock) : Float := c.ended - c.began

/-- The sweep of the job through a registry, with handlers of its own. -/
def swept (turns : List Nat) (s : Settings) (registry : Registry) (w : World) : Swept :=
  (sweeper s w.signals.events.length).run turns s.collections
    { w with registry, signals := w.signals.install }

/-- Sweeps through a registry, and gives everything back. -/
def sweep (turns : List Nat) (s : Settings) (clock : Clock) (registry : Registry) (w : World) :
    Outcome World (Except Failure ExitStatus) :=
  let done := swept turns s registry w
  ⟨done.log ++ endingEvents done.result ++
     .dispose :: reportEvents clock.elapsed done.result,
   status done.result,
   { done.state with
     signals := done.state.signals.restore fun signal => some (w.signals.handlers.get signal) }⟩

/-- What becomes of a job that gets no registry: the refusal of a definition is reported, and any
    other failure gets no exit status. -/
def unusable (s : Settings) (w : World) : Failure → Outcome World (Except Failure ExitStatus)
  | .foreign .badDefinition details =>
      let words := (Failure.foreign .badDefinition details).message
      ⟨[.engine (enginePlan s), errorLine ("Invalid DATABASE_URL: " ++ words)],
       .ok .badSettings, w⟩
  | failure => ⟨[.engine (enginePlan s)], .error failure, w⟩

/-- Connects and sweeps. -/
def connect (site : Site) (turns : List Nat) (s : Settings) (clock : Clock) (w : World) :
    Outcome World (Except Failure ExitStatus) :=
  match registry site s with
  | .error failure => unusable s w failure
  | .ok registry   =>
      match site.client (clientPlan s) with
      | some failure => ⟨requests s, .error failure, w⟩
      | none         =>
          let done := sweep turns s clock registry w
          { done with log := requests s ++ done.log }

/-- Runs the job with the variables that are loaded. -/
def runLoaded (site : Site) (turns : List Nat) (env : Environment) (clock : Clock) (w : World) :
    Outcome World (Except Failure ExitStatus) :=
  match Settings.read env with
  | .error failure => ⟨[errorLine failure.message], .ok .badSettings, w⟩
  | .ok settings   =>
      match settings.problem? with
      | some problem => ⟨[errorLine problem], .ok .badSettings, w⟩
      | none         =>
          let done := connect site turns settings clock w
          { done with log := banner settings ++ done.log }

/-- Runs the job; `turns` says how scans at the same time take turns. -/
def run (site : Site) (turns : List Nat) (env : Environment) (clock : Clock) (w : World) :
    Outcome World (Except Failure ExitStatus) :=
  match site.load env with
  | .error failure => ⟨[], .error failure, w⟩
  | .ok loaded     => runLoaded site turns loaded clock w

end Job

end OrphanSweep
