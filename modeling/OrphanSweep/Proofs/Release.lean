import OrphanSweep.Proofs.Registry
import OrphanSweep.Proofs.Reports
import OrphanSweep.Rehearsal

/-! # What a job gives back

    A job ends before its sweep if it has no variables, if its settings are rejected, if it gets no
    registry, or if it gets no client; and in every other case it is its sweep with what comes before
    it and behind it (`run_of_sweeps`).  Only the last puts handlers in place, and it gives
    everything back whatever the end of its sweep is (`run_releases`). -/

namespace OrphanSweep

/-- The settings of an environment can be read, and nothing is wrong with them. -/
structure Settings.Accepted (env : Environment) (settings : Settings) : Prop where
  read  : Settings.read env = .ok settings
  sound : settings.problem? = none

namespace Job

/-! ## The ways of a job -/

/-- The job accepts settings: they are those of the variables that its site loads. -/
def Accepts (site : Site) (env : Environment) (settings : Settings) : Prop :=
  ∃ loaded, site.load env = .ok loaded ∧ Settings.Accepted loaded settings

/-- The job gets as far as its sweep: it accepts settings, and its site gives what they ask for. -/
structure Sweeps (site : Site) (env : Environment) (settings : Settings) (registry : Registry) :
    Prop where
  accepts  : Accepts site env settings
  registry : Job.registry site settings = .ok registry
  client   : site.client (clientPlan settings) = none

/-- What the job does before its sweep. -/
def preparations (settings : Settings) : List Event := banner settings ++ requests settings

variable {site : Site} {turns : List Nat} {env loaded : Environment} {clock : Clock} {w : World}
variable {settings : Settings} {registry : Registry} {failure : Failure}

/-- A job without variables does nothing. -/
theorem run_of_unloaded (h : site.load env = .error failure) :
    run site turns env clock w = ⟨[], .error failure, w⟩ := by
  rw [run, h]

/-- A job whose settings are rejected says why, and does nothing. -/
theorem run_of_rejected (turns : List Nat) (clock : Clock) (w : World)
    (hload : site.load env = .ok loaded) (h : ∀ settings, ¬ Settings.Accepted loaded settings) :
    ∃ words, run site turns env clock w = ⟨[errorLine words], .ok .badSettings, w⟩ := by
  rw [run, hload]
  cases hread : Settings.read loaded with
  | error failure => exact ⟨failure.message, by simp only [runLoaded, hread]⟩
  | ok settings =>
      cases hproblem : settings.problem? with
      | none => exact absurd ⟨hread, hproblem⟩ (h settings)
      | some problem => exact ⟨problem, by simp only [runLoaded, hread, hproblem]⟩

/-- A job that accepts settings connects with them. -/
theorem run_of_accepts (h : Accepts site env settings) :
    run site turns env clock w =
      { connect site turns settings clock w with
        log := banner settings ++ (connect site turns settings clock w).log } := by
  obtain ⟨loaded, hload, haccepted⟩ := h
  simp only [run, hload, runLoaded, haccepted.read, haccepted.sound]

/-- A job that gets no registry ends there. -/
theorem run_of_unusable (h : Accepts site env settings)
    (hregistry : Job.registry site settings = .error failure) :
    run site turns env clock w =
      { unusable settings w failure with
        log := banner settings ++ (unusable settings w failure).log } := by
  rw [run_of_accepts h, connect, hregistry]

/-- A job that gets no client ends there. -/
theorem run_of_clientless (h : Accepts site env settings)
    (hregistry : Job.registry site settings = .ok registry)
    (hclient : site.client (clientPlan settings) = some failure) :
    run site turns env clock w = ⟨preparations settings, .error failure, w⟩ := by
  rw [run_of_accepts h]
  simp only [connect, hregistry, hclient, preparations]

/-- Any other job is its sweep, with what comes before it and behind it. -/
theorem run_of_sweeps (h : Sweeps site env settings registry) :
    let done := swept turns settings registry w
    run site turns env clock w =
      ⟨preparations settings ++ done.log ++ endingEvents done.result ++
          .dispose :: reportEvents clock.elapsed done.result,
        status done.result,
        { done.state with
          signals := done.state.signals.restore fun signal =>
            some (w.signals.handlers.get signal) }⟩ := by
  rw [run_of_accepts h.accepts]
  simp [connect, h.registry, h.client, sweep, preparations]

/-! ## What is given back -/

theorem unusable_state (settings : Settings) (w : World) (failure : Failure) :
    (unusable settings w failure).state = w := by
  rw [unusable.eq_def]
  split <;> rfl

/-- A job that accepts settings but does not get to its sweep leaves the world as it was. -/
theorem state_of_not_sweeps (haccepts : Accepts site env settings)
    (h : ∀ registry, ¬ Sweeps site env settings registry) :
    (run site turns env clock w).state = w := by
  cases hregistry : Job.registry site settings with
  | error failure =>
      rw [run_of_unusable haccepts hregistry]
      exact unusable_state settings w failure
  | ok registry =>
      cases hclient : site.client (clientPlan settings) with
      | none => exact absurd ⟨haccepts, hregistry, hclient⟩ (h registry)
      | some failure => rw [run_of_clientless haccepts hregistry hclient]

theorem isReport_endingEvents (ends : Except Failure Summary) :
    ∀ event ∈ endingEvents ends, event.isReport = true := by
  intro event hevent
  rw [endingEvents.eq_def] at hevent
  split at hevent
  · cases hevent
  · cases List.mem_singleton.mp hevent
    rfl
  · split at hevent
    · cases List.mem_singleton.mp hevent
      rfl
    · cases hevent

theorem isReport_reportEvents (elapsed : Float) (ends : Except Failure Summary) :
    ∀ event ∈ reportEvents elapsed ends, event.isReport = true := by
  intro event hevent
  cases ends with
  | error failure => cases hevent
  | ok summary =>
      obtain ⟨line, -, rfl⟩ := List.mem_map.mp hevent
      rfl

theorem dispose_not_mem_preparations (settings : Settings) :
    .dispose ∉ preparations settings := by
  simp [preparations, requests, banner, coloured]

/-- A sweep gives no connection back. -/
theorem dispose_not_mem_swept (turns : List Nat) (settings : Settings) (registry : Registry)
    (w : World) : .dispose ∉ (swept turns settings registry w).log := by
  intro hmem
  rcases Sweeper.mem_log _ _ _ _ hmem with h | h | ⟨r, -, call, reply, -, hrequest⟩
  · cases h
  · cases h
  · cases call <;> cases hrequest

/-- Reports hold no other event. -/
theorem not_mem_of_isReport {events : List Event} {event : Event}
    (h : ∀ event ∈ events, event.isReport = true) (hevent : event.isReport = false) :
    event ∉ events := by
  intro hmem
  rw [h event hmem] at hevent
  cases hevent

/-- **A job gives back what it takes.**  Without variables it does nothing, with rejected settings it
    prints and does nothing else, and if it does not get to its sweep it leaves the world as it was.
    Otherwise, however its sweep ends, the handlers are those there were before, and the connections
    are given back once: behind the whole of the sweep, with everything that its scans have asked and
    shown, and with nothing but reports after it, in a world that differs from the one that the sweep
    left in the handlers only. -/
theorem run_releases (site : Site) (turns : List Nat) (env : Environment) (clock : Clock)
    (w : World) :
    let done := run site turns env clock w
    (∀ failure, site.load env = .error failure → done.log = [] ∧ done.state = w) ∧
    (∀ loaded, site.load env = .ok loaded → (∀ settings, ¬ Settings.Accepted loaded settings) →
      (∀ event ∈ done.log, event.isReport = true) ∧ done.state = w) ∧
    ∀ settings, Accepts site env settings →
      ((∀ registry, ¬ Sweeps site env settings registry) → done.state = w) ∧
      ∀ registry, Sweeps site env settings registry →
        let swept := swept turns settings registry w
        done.state = { swept.state with
          signals := { swept.state.signals with handlers := w.signals.handlers } } ∧
        ∃ before after, done.log = before ++ .dispose :: after ∧ swept.log <:+: before ∧
          (∀ r ∈ swept.records, ∀ event ∈ r.events, event ∈ before) ∧ .dispose ∉ before ∧
          ∀ event ∈ after, event.isReport = true := by
  refine ⟨fun failure hload => ?_, fun loaded hload hrejected => ?_, fun settings haccepts =>
    ⟨state_of_not_sweeps haccepts, fun registry hsweeps => ?_⟩⟩
  · rw [run_of_unloaded hload]
    exact ⟨rfl, rfl⟩
  · obtain ⟨words, hrun⟩ := run_of_rejected turns clock w hload hrejected
    rw [hrun]
    exact ⟨List.forall_mem_singleton.mpr rfl, rfl⟩
  · rw [run_of_sweeps hsweeps]
    refine ⟨rfl, _, _, rfl, ⟨_, _, rfl⟩, fun r hr event hevent => ?_, ?_, isReport_reportEvents _ _⟩
    · have hlog : event ∈ (swept turns settings registry w).log :=
        Swept.mem_log.mpr (Or.inr ⟨r, hr, hevent⟩)
      exact List.mem_append_left _ (List.mem_append_right _ hlog)
    · have hending : .dispose ∉ endingEvents (swept turns settings registry w).result :=
        not_mem_of_isReport (isReport_endingEvents _) rfl
      rw [List.mem_append, List.mem_append]
      rintro ((hprepared | hswept) | hended)
      · exact dispose_not_mem_preparations settings hprepared
      · exact dispose_not_mem_swept turns settings registry w hswept
      · exact hending hended

/-! ## Rehearsals -/

theorem ok_of_toOption {α : Type} {result : Except Failure α} {a : α}
    (h : result.toOption = some a) : result = .ok a := by
  cases result with
  | error failure => cases h
  | ok other => exact congrArg Except.ok (Option.some.inj h)

/-- The registry of a rehearsal. -/
def rehearsed (rows : List (Option PointId)) (settings : Settings) (h : settings.column ≠ "") :
    Registry where
  tableName    := settings.table
  columnName   := settings.column
  column_named := h
  rows         := some rows
  queryFate    := Query.fate settings.table settings.column

/-- An environment that names a database and nothing else. -/
def plainEnvironment : Environment := fun name =>
  [("DATABASE_URL", "postgresql://db/app")].lookup name

/-- The settings of an environment that names a database and nothing else. -/
def plainSettings : Settings where
  databaseUrl := "postgresql://db/app"
  poolSize    := Settings.maxPoolSize
  table       := Registry.defaultTable
  column      := Registry.defaultColumn
  storeUrl    := "http://localhost:6333"
  apiKey      := none
  timeout     := 60
  pageSize    := VectorStore.defaultPageSize
  workers     := 1
  maxRetries  := 0
  collections := []
  dryRun      := false

/-- A rehearsal has a database if nothing is wrong with the form of its address. -/
theorem engine_rehearsal (rows : List (Option PointId)) (settings : Settings)
    (hurl : (DatabaseUrl.problem? settings.databaseUrl).isNone = true) :
    (Site.rehearsal rows).engine (enginePlan settings) =
      .ok { tables := fun _ _ => some rows, fate := Query.fate } := by
  simp only [Site.rehearsal, enginePlan, Option.isNone_iff_eq_none.mp hurl]

/-- A rehearsal gets as far as its sweep if its settings are accepted and nothing is wrong with the
    form of its address. -/
theorem sweeps_rehearsal {env : Environment} {settings : Settings} (rows : List (Option PointId))
    (hread : (Settings.read env).toOption = some settings) (hproblem : settings.problem? = none)
    (hurl : (DatabaseUrl.problem? settings.databaseUrl).isNone = true)
    (hcolumn : settings.column ≠ "") :
    Sweeps (.rehearsal rows) env settings (rehearsed rows settings hcolumn) where
  accepts  := ⟨env, rfl, ok_of_toOption hread, hproblem⟩
  client   := rfl
  registry := by
    rw [Job.registry, engine_rehearsal rows settings hurl, Except.bind, Registry.define,
      dif_neg hcolumn, rehearsed]

theorem one_lt_count : 1 < PointId.count := by decide

/-- Two collections with the same point, the second of which cannot be scrolled. -/
def halfBroken : World where
  collections := ["a", "b"].map fun name =>
    { name, contents := .points (.ofList [⟨1, one_lt_count⟩]) }
  registry    := { column_named := Registry.defaultColumn_named }
  schedule    := fun kind name _ =>
    if kind = .scroll ∧ name = some "b" then { failure := some (.foreign .connection []) } else {}

/-- Two scans at the same time, one of which fails: the job fails, and gives back what it has taken
    behind the delete of the one and the scroll of the other. -/
theorem run_releases_halfBroken :
    let one : PointId := ⟨1, one_lt_count⟩
    let env : Environment := fun name =>
      [("DATABASE_URL", "postgresql://db/app"), ("SYNC_WORKERS", "2")].lookup name
    let done := run (.rehearsal []) [0, 1, 0, 1] env {} halfBroken
    done.state.signals.handlers = halfBroken.signals.handlers ∧
      ∃ before after, done.log = before ++ .dispose :: after ∧ .dispose ∉ before ∧
        (∀ event ∈ [Event.delete { collection := "a", ids := [one.text] },
          .scroll { collection := "b", offset := PointId.nil.text, limit := 1000 }],
          event ∈ before) ∧ ∀ event ∈ after, event.isReport = true := by
  intro one env done
  let settings : Settings := { plainSettings with workers := 2 }
  let registry := rehearsed [] settings (by decide)
  have hsweeps : Sweeps (.rehearsal []) env settings registry :=
    sweeps_rehearsal [] (by decide +kernel) (by decide +kernel) (by decide +kernel) (by decide)
  obtain ⟨-, -, haccepted⟩ := run_releases (.rehearsal []) [0, 1, 0, 1] env {} halfBroken
  obtain ⟨hstate, before, after, hlog, -, hrecords, hdispose, hafter⟩ :=
    (haccepted settings hsweeps.accepts).2 registry hsweeps
  have hasked : ∀ event ∈ [Event.delete { collection := "a", ids := [one.text] },
      .scroll { collection := "b", offset := PointId.nil.text, limit := 1000 }],
      ∃ r ∈ (swept [0, 1, 0, 1] settings registry halfBroken).records, event ∈ r.events := by
    decide +kernel
  refine ⟨?_, before, after, hlog, hdispose, fun event hevent => ?_, hafter⟩
  · rw [hstate]
  · obtain ⟨r, hr, hmem⟩ := hasked event hevent
    exact hrecords r hr event hmem

end Job

end OrphanSweep
