import OrphanSweep.Proofs.Job
import OrphanSweep.Proofs.Stopping

/-! # The exit status of a job

    `Job.Ends` lists the ways in which a job can end, each with what has happened then: the settings
    were rejected, the sweep went through, a signal has cancelled it, it failed and said so, or a
    failure left the job without a status.  The last happens in five ways only: the variables are not
    loaded, the registry is not made for another reason than its definition, the client is not made,
    a lookup raises what is no failure of the database, or another attempt cannot be announced.  Where
    nothing out of the ordinary is raised and no wait is too long to be made, a job ends in one of
    these ways, and each of them determines its status (`run_status`). -/

namespace OrphanSweep

/-! ## Failures that are not the sweep's own -/

/-- A scan of a run ends with a lookup that raises a failure. -/
def Swept.EndsInLookup (swept : Swept) (failure : Failure) : Prop :=
  ∃ r ∈ swept.records, ∃ ids, r.said.getLast? = some ⟨.lookup ids, .error failure⟩

namespace Sweeper

variable (s : Sweeper) {w : World}

/-- **A run fails with a failure that is not its own only if a lookup raises it**, or if there are
    more retries than waits that can be announced. -/
theorem foreign_run (turns : List Nat) (allowed : List String) (hw : w.Ordinary)
    {failure : Failure} (hforeign : failure.isOwn = false)
    (h : (s.run turns allowed w).result = .error failure) :
    ((∃ cause details, failure = .foreign cause details ∧ cause.isOfDatabase = false) ∧
        (s.run turns allowed w).EndsInLookup failure) ∨
      Retry.writableRetries < s.plan.maxRetries ∧ failure = Retry.unwritable := by
  let v : World := { w with aborted := false }
  have hordinary : v.Ordinary := ⟨hw.strikes, hw.refused, hw.answers⟩
  have hnotOwn : ¬ failure.isOwn = true := by
    rw [hforeign]
    exact nofun
  rcases s.failed_run turns allowed h with hlisted | ⟨hosted, hlisted, hscans⟩
  · exact Or.inr ((s.failure_listing hordinary hlisted).resolve_left fun hown => hnotOwn hown.1)
  · obtain ⟨hrelisted, -⟩ := s.listing_spec v False nofun
    have hlistedWorld := hordinary.listed hrelisted.listed
    obtain ⟨r, hr, ⟨hown, -⟩ | ⟨hraised, ids, hlast⟩ | hmany⟩ :=
      s.failure_scanAll turns _ hlistedWorld hscans
    · exact absurd hown hnotOwn
    · obtain ⟨⟨cause, details, rfl, -⟩, hother⟩ := hraised.ordinary hlistedWorld
      have hrecords := (s.run_of_listed turns allowed hlisted).records
      exact Or.inl ⟨⟨cause, details, rfl, hother⟩, r, hrecords ▸ hr, ids, hlast⟩
    · exact Or.inr hmany

end Sweeper

/-- Whether an event is a wait that cannot be made: of 2^63 nanoseconds or more. -/
def Event.isOverlong : Event → Bool
  | .sleep seconds => 2 ^ 63 ≤ seconds * 10 ^ 9
  | _              => false

namespace Job

/-! ## The ways in which a job ends -/

/-- The settings of a job are rejected: they cannot be read, something is wrong with them, or the
    registry that they ask for is refused as a definition. -/
def Rejected (site : Site) (env : Environment) : Prop :=
  ∃ loaded, site.load env = .ok loaded ∧ ∀ settings, Settings.Accepted loaded settings →
    ∃ details, Job.registry site settings = .error (.foreign .badDefinition details)

/-- How a job ends, and what has happened then. -/
inductive Ends (site : Site) (turns : List Nat) (env : Environment) (clock : Clock) (w : World) :
    Except Failure Nat → Prop
  | rejected : Rejected site env → Ends site turns env clock w (.ok 2)
  | completed {settings : Settings} {registry : Registry} {summary : Summary} :
      Sweeps site env settings registry →
      (swept turns settings registry w).result = .ok summary → Ends site turns env clock w (.ok 0)
  /-- A signal was handled, and the sweep was cancelled. -/
  | cancelled {settings : Settings} {registry : Registry} {c : Value} :
      Sweeps site env settings registry →
      (swept turns settings registry w).result = .error (.cancelled c) →
      (swept turns settings registry w).Signalled → Ends site turns env clock w (.ok 130)
  /-- The sweep failed, and the failure was printed. -/
  | failed {settings : Settings} {registry : Registry} {failure : Failure} :
      Sweeps site env settings registry →
      (swept turns settings registry w).result = .error failure → failure.isOwn = true →
      (∀ c, failure ≠ .cancelled c) →
      errorLine failure.message ∈ (run site turns env clock w).log →
      Ends site turns env clock w (.ok 1)
  /-- The variables cannot be loaded. -/
  | unloaded {failure : Failure} : site.load env = .error failure →
      Ends site turns env clock w (.error failure)
  /-- The registry is not made, but not because it is refused as a definition. -/
  | unusable {settings : Settings} {failure : Failure} : Accepts site env settings →
      Job.registry site settings = .error failure →
      (∀ details, failure ≠ .foreign .badDefinition details) →
      Ends site turns env clock w (.error failure)
  /-- The client of the vector store is not made. -/
  | clientless {settings : Settings} {registry : Registry} {failure : Failure} :
      Accepts site env settings → Job.registry site settings = .ok registry →
      site.client (clientPlan settings) = some failure →
      Ends site turns env clock w (.error failure)
  /-- A lookup raises what is no failure of the database. -/
  | raised {settings : Settings} {registry : Registry} {cause : Cause} {details : List Value} :
      Sweeps site env settings registry →
      (swept turns settings registry w).result = .error (.foreign cause details) →
      cause.isOfDatabase = false →
      (swept turns settings registry w).EndsInLookup (.foreign cause details) →
      Ends site turns env clock w (.error (.foreign cause details))
  /-- Another attempt cannot be announced, for a number on its line has too many digits. -/
  | unwritable {settings : Settings} {registry : Registry} : Sweeps site env settings registry →
      (swept turns settings registry w).result = .error Retry.unwritable →
      14285 < settings.maxRetries → Ends site turns env clock w (.error Retry.unwritable)

/-! ## What a job meets -/

/-- What a job meets is nothing out of the ordinary. -/
structure Ordinary (site : Site) (turns : List Nat) (env : Environment) (clock : Clock)
    (w : World) : Prop where
  /-- Whatever is raised comes from elsewhere, and is no interrupt. -/
  strikes : ∀ kind name n failure, (w.schedule kind name n).failure = some failure →
    failure.Ordinary
  refused : ∀ plan database, site.engine plan = .ok database → ∀ failure,
    database.refused = some failure → failure.Ordinary
  answers : ∀ name, (w.collection name).contents.Ordinary
  /-- Only signals set the event of the job. -/
  signals : w.Uncancelled w.signals.events.length
  /-- Every wait can be made: the waits of a job end, be they as long as they may. -/
  waits   : ∀ event ∈ (run site turns env clock w).log, event.isOverlong = false

variable {site : Site} {turns : List Nat} {env : Environment} {clock : Clock} {w : World}
variable {settings : Settings} {registry : Registry} {failure : Failure}

/-- The registry of a job is refused by its database, if at all. -/
theorem refused_registry (h : Job.registry site settings = .ok registry) :
    ∃ database, site.engine (enginePlan settings) = .ok database ∧
      registry.refused = database.refused := by
  obtain ⟨database, hengine, hdefine⟩ := Settings.ok_of_bind h
  exact ⟨database, hengine, (Registry.isOf_of_define hdefine).refused⟩

/-- What the sweep of a job meets is nothing out of the ordinary either. -/
theorem Ordinary.world (h : Ordinary site turns env clock w)
    (hregistry : Job.registry site settings = .ok registry) (signals : Signals) :
    ({ w with registry, signals } : World).Ordinary where
  strikes := h.strikes
  refused := by
    obtain ⟨database, hengine, hrefused⟩ := refused_registry hregistry
    intro failure hfailure
    exact h.refused _ database hengine failure (hrefused.symm.trans hfailure)
  answers := h.answers

/-! ## The result of a job -/

theorem result_of_unusable (h : Accepts site env settings)
    (hregistry : Job.registry site settings = .error failure)
    (hother : ∀ details, failure ≠ .foreign .badDefinition details) :
    (run site turns env clock w).result = .error failure := by
  rw [run_of_unusable h hregistry, unusable.eq_def]
  split
  · exact absurd rfl (hother _)
  · rfl

theorem result_of_rejected (h : Rejected site env) :
    (run site turns env clock w).result = .ok .badSettings := by
  obtain ⟨loaded, hload, hrefused⟩ := h
  by_cases haccepted : ∃ settings, Settings.Accepted loaded settings
  · obtain ⟨settings, haccepted⟩ := haccepted
    obtain ⟨details, hregistry⟩ := hrefused settings haccepted
    rw [run_of_unusable ⟨loaded, hload, haccepted⟩ hregistry]
    rfl
  · obtain ⟨words, hrun⟩ := run_of_rejected turns clock w hload (not_exists.mp haccepted)
    rw [hrun]

theorem result_of_sweeps (h : Sweeps site env settings registry) :
    (run site turns env clock w).result = status (swept turns settings registry w).result := by
  rw [run_of_sweeps h]

/-- A failure of the sweep's own that is no cancellation. -/
theorem status_of_own (hown : failure.isOwn = true) (hother : ∀ c, failure ≠ .cancelled c) :
    status (.error failure) = .ok .failure ∧
      endingEvents (.error failure) = [errorLine failure.message] := by
  cases failure with
  | cancelled c => exact absurd rfl (hother c)
  | foreign cause details => cases hown
  | transient operation reason collection => exact ⟨rfl, rfl⟩
  | malformed collection value detail => exact ⟨rfl, rfl⟩
  | other details => exact ⟨rfl, rfl⟩

/-- A job that gets as far as its sweep ends as the sweep does. -/
theorem ends_of_sweeps (hordinary : Ordinary site turns env clock w)
    (h : Sweeps site env settings registry) :
    Ends site turns env clock w
      ((status (swept turns settings registry w).result).map ExitStatus.code) := by
  have hworld := hordinary.world h.registry w.signals.install
  let s := sweeper settings w.signals.events.length
  cases hresult : (swept turns settings registry w).result with
  | ok summary => exact .completed h hresult
  | error failure =>
      by_cases hcancelled : ∃ c, failure = .cancelled c
      · obtain ⟨c, rfl⟩ := hcancelled
        exact .cancelled h hresult (s.signalled_run turns settings.collections hworld
          hordinary.signals w.signals.isSet_install hresult)
      · have hother : ∀ c, failure ≠ .cancelled c := not_exists.mp hcancelled
        cases hown : failure.isOwn with
        | true =>
            obtain ⟨hstatus, hending⟩ := status_of_own hown hother
            rw [hstatus]
            refine .failed h hresult hown hother ?_
            rw [run_of_sweeps h, hresult, hending]
            simp
        | false =>
            rcases s.foreign_run turns settings.collections hworld hown hresult with
              ⟨⟨cause, details, rfl, hcause⟩, hlookup⟩ | ⟨hmany, rfl⟩
            · exact .raised h hresult hcause hlookup
            · refine .unwritable h hresult ?_
              have hretries : Retry.writableRetries < settings.maxRetries.toNat := hmany
              rw [Retry.writableRetries] at hretries
              omega

/-- A job that accepts settings ends before its sweep, or as its sweep does. -/
theorem ends_of_accepts (hordinary : Ordinary site turns env clock w)
    (h : Accepts site env settings) :
    Ends site turns env clock w ((run site turns env clock w).result.map ExitStatus.code) := by
  cases hregistry : Job.registry site settings with
  | error failure =>
      by_cases hdefinition : ∃ details, failure = .foreign .badDefinition details
      · obtain ⟨details, rfl⟩ := hdefinition
        obtain ⟨loaded, hload, haccepted⟩ := h
        have hrejected : Rejected site env := by
          refine ⟨loaded, hload, fun other hother => ?_⟩
          cases haccepted.read.symm.trans hother.read
          exact ⟨details, hregistry⟩
        rw [result_of_rejected hrejected]
        exact .rejected hrejected
      · have hother := not_exists.mp hdefinition
        rw [result_of_unusable h hregistry hother]
        exact .unusable h hregistry hother
  | ok registry =>
      cases hclient : site.client (clientPlan settings) with
      | some failure =>
          rw [run_of_clientless h hregistry hclient]
          exact .clientless h hregistry hclient
      | none =>
          have hsweeps : Sweeps site env settings registry := ⟨h, hregistry, hclient⟩
          rw [result_of_sweeps hsweeps]
          exact ends_of_sweeps hordinary hsweeps

/-- **The exit status of a job.**  Where nothing out of the ordinary is met, a job ends in one of the
    ways of `Ends`, and its status or the failure that leaves it is the one listed there. -/
theorem run_status {site : Site} {turns : List Nat} {env : Environment} {clock : Clock} {w : World}
    (hordinary : Ordinary site turns env clock w) (result : Except Failure Nat) :
    Ends site turns env clock w result ↔
      (run site turns env clock w).result.map ExitStatus.code = result := by
  constructor
  · intro h
    cases h with
    | rejected hrejected => rw [result_of_rejected hrejected]; rfl
    | completed h hresult => rw [result_of_sweeps h, hresult]; rfl
    | cancelled h hresult _ => rw [result_of_sweeps h, hresult]; rfl
    | failed h hresult hown hother _ =>
        rw [result_of_sweeps h, hresult, (status_of_own hown hother).1]
        rfl
    | unloaded hload => rw [run_of_unloaded hload]; rfl
    | unusable haccepts hregistry hother =>
        rw [result_of_unusable haccepts hregistry hother]
        rfl
    | clientless haccepts hregistry hclient =>
        rw [run_of_clientless haccepts hregistry hclient]
        rfl
    | raised h hresult _ _ => rw [result_of_sweeps h, hresult]; rfl
    | unwritable h hresult _ => rw [result_of_sweeps h, hresult]; rfl
  · rintro rfl
    cases hload : site.load env with
    | error failure =>
        rw [run_of_unloaded hload]
        exact .unloaded hload
    | ok loaded =>
        by_cases haccepted : ∃ settings, Settings.Accepted loaded settings
        · obtain ⟨settings, haccepted⟩ := haccepted
          exact ends_of_accepts hordinary ⟨loaded, hload, haccepted⟩
        · have hrejected : Rejected site env :=
            ⟨loaded, hload, fun settings h => absurd ⟨settings, h⟩ haccepted⟩
          rw [result_of_rejected hrejected]
          exact .rejected hrejected

/-! ## A collection with one orphan -/

/-- A world with one collection that holds one point. -/
def oneOrphan (schedule : Schedule) : World where
  collections := [{ name := "c", contents := .points (.ofList [⟨1, one_lt_count⟩]) }]
  registry    := { column_named := Registry.defaultColumn_named }
  schedule    := schedule

theorem ordinary_oneOrphan {schedule : Schedule} {site : Site} {turns : List Nat}
    {env : Environment} {clock : Clock}
    (hstrikes : ∀ kind name n failure, (schedule kind name n).failure = some failure →
      failure.Ordinary)
    (hrefused : ∀ plan database, site.engine plan = .ok database → database.refused = none)
    (hsignals : ∀ kind name n event, .cancel event ∉ (schedule kind name n).nudges)
    (hwaits : ∀ event ∈ (run site turns env clock (oneOrphan schedule)).log,
      event.isOverlong = false) : Ordinary site turns env clock (oneOrphan schedule) where
  strikes := hstrikes
  refused := by
    intro plan database hengine failure hfailure
    rw [hrefused plan database hengine] at hfailure
    cases hfailure
  answers := by
    intro name answers hscripted
    simp only [oneOrphan, World.collection, Collection.find] at hscripted
    split at hscripted <;> cases hscripted
  signals := fun kind name n event hevent => absurd hevent (hsignals kind name n event)
  waits   := hwaits

/-- The database of a rehearsal can be reached. -/
theorem refused_rehearsal (rows : List (Option PointId)) :
    ∀ plan database, (Site.rehearsal rows).engine plan = .ok database → database.refused = none := by
  intro plan database hengine
  simp only [Site.rehearsal] at hengine
  split at hengine
  · cases hengine
  · cases hengine
    rfl

/-- A job that is terminated while the collections are listed is cancelled. -/
theorem run_status_terminated :
    let w := oneOrphan fun kind _ _ => if kind = .list then { nudges := [.signal .terminate] } else {}
    Ordinary (.rehearsal []) [] plainEnvironment {} w ∧
      Ends (.rehearsal []) [] plainEnvironment {} w (.ok 130) := by
  intro w
  have hordinary : Ordinary (.rehearsal []) [] plainEnvironment {} w := by
    refine ordinary_oneOrphan ?_ (refused_rehearsal []) ?_ (by decide +kernel)
    · intro kind name n failure hfailure
      split at hfailure <;> cases hfailure
    · intro kind name n event hevent
      split at hevent <;> simp at hevent
  have hcode : ((run (.rehearsal []) [] plainEnvironment {} w).result.map
      ExitStatus.code).toOption = some 130 := by
    decide +kernel
  exact ⟨hordinary, (run_status hordinary _).mpr (ok_of_toOption hcode)⟩

/-- A job whose lookup finds the connection refused has no exit status. -/
theorem no_status_of_refused_lookup :
    let w := oneOrphan fun kind _ _ =>
      if kind = .lookup then { failure := some (.foreign .connection [.text "refused"]) } else {}
    Ordinary (.rehearsal []) [] plainEnvironment {} w ∧
      ∀ status, (run (.rehearsal []) [] plainEnvironment {} w).result ≠ .ok status := by
  intro w
  have hordinary : Ordinary (.rehearsal []) [] plainEnvironment {} w := by
    refine ordinary_oneOrphan ?_ (refused_rehearsal []) ?_ (by decide +kernel)
    · intro kind name n failure hfailure
      split at hfailure
      · cases hfailure
        exact ⟨.connection, _, rfl, nofun⟩
      · cases hfailure
    · intro kind name n event hevent
      split at hevent <;> cases hevent
  have hnone : (run (.rehearsal []) [] plainEnvironment {} w).result.toOption = none := by
    decide +kernel
  refine ⟨hordinary, fun status hok => ?_⟩
  rw [hok] at hnone
  cases hnone

end Job

end OrphanSweep
