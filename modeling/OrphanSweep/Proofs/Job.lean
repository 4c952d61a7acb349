import OrphanSweep.Proofs.Flags
import OrphanSweep.Proofs.Release
import OrphanSweep.Proofs.Settings
import OrphanSweep.Proofs.Transparency

/-! # The whole job

    Where nothing strikes, a job that accepts its settings and gets what they ask for ends well.  Its
    sweep returns, so its report tells the totals of an exact run; and the collections that it scrolls
    are those that it is for, for a scan asks for its own collection only (`collection_of_scroll`) and
    for at least one page of it (`scroll_loneLog`).  `run_completes` goes all the way from the
    environment to the points. -/

namespace OrphanSweep

namespace Dialogue

variable {Ask : Type} {Reply : Ask → Type} {σ α β : Type} {line : Line Ask Reply} {s : σ}
variable {answer : Answering Ask Reply σ}

/-- What goes on from an end takes no line back. -/
theorem mem_bind {next : α → Dialogue Ask Reply β} {d : Dialogue Ask Reply α}
    (h : line ∈ (d.run answer s).transcript) : line ∈ ((d.bind next).run answer s).transcript := by
  rw [run_bind]
  exact List.mem_append_left _ h

/-- A call makes its first attempt. -/
theorem mem_retry {bound : Nat} {label : String} {attempt : Dialogue Ask Reply (Except Failure α)}
    (h : line ∈ (attempt.run answer s).transcript) :
    line ∈ ((retry bound label attempt).run answer s).transcript := by
  rw [retry, if_neg (by omega)]
  cases bound with
  | zero => exact h
  | succ bound => exact mem_bind h

end Dialogue

theorem Scan.mem_call {σ α : Type} {line : Line Call Call.Reply} {s : σ}
    {answer : Answering Call Call.Reply σ} {plan : Plan} {name what : String} {reached : Tally}
    {attempt : Talk (Except Failure α)} (h : line ∈ (attempt.run answer s).transcript) :
    line ∈ ((call plan name what reached attempt).run answer s).transcript :=
  Dialogue.mem_bind (Dialogue.mem_retry h)

namespace Sweeper

open Dialogue

variable (s : Sweeper) {w : World} {name : String}

/-! ## The scrolls of a scan -/

/-- A scan scrolls its own collection only. -/
theorem collection_of_scroll {request : ScrollRequest}
    (h : .scroll request ∈ s.loneLog w name) : request.collection = name := by
  rcases Line.mem_events.mp h with hshown | ⟨call, reply, -, hrequest⟩
  · have hsilent : ∀ call c, ∀ event ∈ (Collection.alone w.registry w.schedule name call c).log,
        event.isReport = true := fun _ _ => List.forall_mem_nil _
    have hreport := (Scan.reports_scan s.plan name _).run hsilent _ _ hshown
    cases hreport
  · cases call with
    | scroll cursor limit =>
        cases hrequest
        rfl
    | stopping => cases hrequest
    | lookup ids => cases hrequest
    | delete ids => cases hrequest

/-- A scan of a set scrolls it. -/
theorem scroll_loneLog {held : PointSet} (hheld : (w.collection name).contents = .points held) :
    ∃ request, .scroll request ∈ s.loneLog w name := by
  let first : Call := .scroll none s.plan.pageSize
  let alone := Collection.alone w.registry w.schedule name
  have hattempt : .asked first (alone first (w.collection name)).result ∈
      ((Scan.fetch s.plan name none).run alone (w.collection name)).transcript :=
    List.mem_cons_self
  have hmem : .asked first (alone first (w.collection name)).result ∈
      (s.lone w name).transcript := by
    rw [lone, hheld]
    -- the scan is not told to stop, and its first page comes after its opening line
    exact List.mem_cons_of_mem _ (List.mem_append_right _
      (mem_bind (mem_bind (Scan.mem_call hattempt))))
  exact ⟨_, Line.mem_events.mpr (Or.inr ⟨_, _, hmem, rfl⟩)⟩

/-- A listing scrolls nothing. -/
theorem not_scroll_listing {request : ScrollRequest} :
    .scroll request ∉ Line.events (fun _ => some .list) (s.listing w).transcript := by
  intro hmem
  rcases Line.mem_events.mp hmem with hshown | ⟨-, reply, -, hrequest⟩
  · cases s.isReport_listing w _ hshown
  · cases hrequest

/-- **A run that nothing strikes returns, and scrolls the collections that it is for.** -/
theorem scrolls_run (turns : List Nat) (allowed : List String) (hsize : 1 ≤ s.plan.pageSize)
    (hw : w.OfSets) (hworks : w.registry.Works) (hgoing : w.signals.isSet s.stop = false)
    (hcalm : w.schedule = Schedule.calm) :
    (∃ summary, (s.run turns allowed w).result = .ok summary) ∧
      ∀ name, (∃ request, .scroll request ∈ (s.run turns allowed w).log ∧
        request.collection = name) ↔ name ∈ selected allowed w.hosted := by
  have hfaultless : w.faultless = w := by
    rw [World.faultless, ← hcalm]
  have hunnudged : w.Unnudged := by
    intro kind name n
    rw [hcalm]
    rfl
  have hheld : ∀ name ∈ selected allowed w.hosted,
      (w.collection name).contents = .points (w.held name) :=
    fun name hname => hw.contents (mem_hosted hname)
  have hlists : True → ∀ n, w.listings < n → (w.schedule .list none n).Harmless := by
    intro _ n _
    rw [hcalm]
    exact ⟨rfl, rfl⟩
  obtain ⟨hlisted, hresult | ⟨hnot, -⟩⟩ := s.listing_spec { w with aborted := false } True hlists
  · obtain ⟨hok, hlog, -⟩ := s.run_of_lone turns allowed hw hunnudged hgoing hlisted hresult
      fun name hname => hfaultless ▸ s.lone_faultless hsize hworks (hheld name hname)
    refine ⟨hok, fun name => ?_⟩
    rw [hlog]
    constructor
    · rintro ⟨request, hmem, rfl⟩
      rcases List.mem_append.mp hmem with hopening | hscans
      · rcases List.mem_append.mp hopening with hlisting | hannounced
        · exact absurd hlisting s.not_scroll_listing
        · rcases List.mem_append.mp hannounced with hmissing | hline
          · obtain ⟨other, -, hother⟩ := List.mem_map.mp hmissing
            cases hother
          · cases List.mem_singleton.mp hline
      · obtain ⟨other, hother, hscroll⟩ := List.mem_flatMap.mp hscans
        rw [s.collection_of_scroll hscroll]
        exact hother
    · intro hname
      obtain ⟨request, hscroll⟩ := s.scroll_loneLog (hheld name hname)
      exact ⟨request, List.mem_append_right _ (List.mem_flatMap.mpr ⟨name, hname, hscroll⟩),
        s.collection_of_scroll hscroll⟩
  · exact absurd trivial hnot

/-- **A run that returns reports** how many points and orphans there were, and how many points are
    gone. -/
theorem report_of_run (turns : List Nat) (allowed : List String) {summary : Summary}
    (hsize : 1 ≤ s.plan.pageSize) (hw : w.OfSets)
    (h : (s.run turns allowed w).result = .ok summary) (elapsed : Float) :
    let names := selected allowed w.hosted
    let points : Int := (names.map fun name => ((w.held name).size : Int)).sum
    let found : Int := (names.map fun name => (w.registry.orphans (w.held name).toList : Int)).sum
    let gone : Int := (names.map fun name =>
      ((w.held name).size - ((s.run turns allowed w).state.held name).size : Int)).sum
    summary.report elapsed = ["\n=== Sync Complete ===", s!"Collections: {names.length}",
      s!"Points scanned: {points}", s!"Orphans found: {found}",
      if s.plan.dryRun then "Orphans deleted: 0 (dry run)" else s!"Orphans deleted: {gone}",
      s!"Elapsed: {Decimal.fixed 1 elapsed}s"] := by
  intro names points found gone
  obtain ⟨hsummary, hcontents, -⟩ := s.run_reconciles turns allowed hsize hw h
  have hscanned : summary.points = points := by
    rw [hsummary]
    exact total_map _ _ _ _
  have horphans : summary.found = found := by
    rw [hsummary]
    exact total_map _ _ _ _
  have hdeleted : summary.deleted = gone := by
    rw [hsummary, Summary.deleted, total_map]
    refine congrArg List.sum (List.map_congr_left fun name hname => ?_)
    have hleft : (s.run turns allowed w).state.held name =
        (w.held name).filter (s.plan.spares w.registry) := by
      rw [World.held, hcontents name hname]
      rfl
    rw [deleted_exact, hleft]
  have hcount : summary.tallies.length = names.length := by
    rw [hsummary]
    exact List.length_map _
  have hflag : summary.dryRun = s.plan.dryRun := by
    rw [hsummary]
  rw [Summary.report, hscanned, horphans, hdeleted, hcount, hflag]

end Sweeper

theorem Sweeper.selected_eq_filter (allowed hosted : List String) :
    Sweeper.selected allowed hosted =
      hosted.filter fun name => allowed.isEmpty || allowed.contains name := by
  rw [Sweeper.selected]
  cases allowed.isEmpty with
  | true => exact (List.filter_true hosted).symm
  | false => rfl

/-- A stop event that was just made is not set. -/
theorem Signals.isSet_install (p : Signals) : p.install.isSet p.events.length = false := by
  simp [isSet, install, newEvent]

namespace Job

/-- Only the sweep of a job scrolls. -/
theorem scroll_mem_iff (settings : Settings) (swept : List Event) (report : List String)
    (request : ScrollRequest) :
    .scroll request ∈ preparations settings ++ swept ++ .dispose :: report.map .print ↔
      .scroll request ∈ swept := by
  simp [preparations, requests, banner, coloured]

/-- A job whose sweep goes through ends well, and reports what the sweep came to. -/
theorem run_of_summary {site : Site} {turns : List Nat} {env : Environment} (clock : Clock)
    {w : World} {settings : Settings} {registry : Registry} {summary : Summary}
    (h : Sweeps site env settings registry)
    (hok : (swept turns settings registry w).result = .ok summary) :
    (run site turns env clock w).result = .ok .success ∧
      (run site turns env clock w).state.collections =
        (swept turns settings registry w).state.collections ∧
      (run site turns env clock w).log =
        preparations settings ++ (swept turns settings registry w).log ++
          .dispose :: (summary.report clock.elapsed).map .print := by
  rw [run_of_sweeps h, hok]
  refine ⟨rfl, rfl, ?_⟩
  rw [endingEvents, List.append_nil]
  rfl

/-- A job that accepts settings, and whose site gives what they ask for, gets as far as its sweep with
    a registry that works. -/
theorem exists_sweeps {site : Site} {env : Environment} {settings : Settings} {database : Database}
    {rows : List (Option PointId)} (haccepts : Accepts site env settings) (hvalid : settings.Valid)
    (hengine : site.engine (enginePlan settings) = .ok database)
    (hclient : site.client (clientPlan settings) = none) (hwrites : database.WritesIdentifiers)
    (hrows : database.tables settings.table settings.column = some rows)
    (hreach : database.refused = none) :
    ∃ registry, Sweeps site env settings registry ∧ registry.Works ∧
      registry.hasRow = fun p => rows.contains (some p) := by
  obtain ⟨registry, hdefine, hisOf⟩ :=
    Registry.define_of_named database settings.table (Text.isIdentifier_spec hvalid.column).1
  refine ⟨registry, ⟨haccepts, ?_, hclient⟩, ?_, ?_⟩
  · rw [Job.registry, hengine]
    exact hdefine
  · exact hvalid.works hwrites (by rw [hrows]; rfl) hreach hdefine
  · funext p
    rw [Registry.hasRow, Registry.contents, hisOf.rows, hrows]
    rfl

/-- **The whole job.**  Where the settings are accepted, an engine and a client can be made, the
    database can be reached, writes queries with identifiers as they are meant and has the table of
    the settings, and nothing strikes, the job ends well.  It scrolls the hosted collections that the
    items name, or all of them if there is no item; each of these is left with its points that have a
    row, or with all of them if the flag says so; every other collection is as it was; and the report
    tells how many points and orphans there were and how many points are gone. -/
theorem run_completes (site : Site) (turns : List Nat) (env : Environment) (clock : Clock)
    {loaded : Environment} {settings : Settings} {database : Database}
    {rows : List (Option PointId)} {w : World} (hload : site.load env = .ok loaded)
    (hread : Settings.read loaded = .ok settings) (hproblem : settings.problem? = none)
    (hengine : site.engine (enginePlan settings) = .ok database)
    (hclient : site.client (clientPlan settings) = none) (hwrites : database.WritesIdentifiers)
    (hrows : database.tables settings.table settings.column = some rows)
    (hreach : database.refused = none) (hw : w.OfSets) (hcalm : w.schedule = Schedule.calm) :
    let items := Text.commaItems ((loaded "SYNC_COLLECTIONS").getD "")
    let dryRun := Settings.Affirms ((loaded "SYNC_DRY_RUN").getD "false")
    let names := w.hosted.filter fun name => items.isEmpty || items.contains name
    let done := run site turns env clock w
    let hasRow (p : PointId) : Bool := rows.contains (some p)
    let points : Int := (names.map fun name => ((w.held name).size : Int)).sum
    let found : Int :=
      (names.map fun name => (((w.held name).filter fun p => !hasRow p).size : Int)).sum
    let gone : Int :=
      (names.map fun name => ((w.held name).size - (done.state.held name).size : Int)).sum
    done.result.map ExitStatus.code = .ok 0 ∧
      (∀ name, (∃ request, .scroll request ∈ done.log ∧ request.collection = name) ↔
        name ∈ names) ∧
      (done.state.points = w.points.map fun (name, held) =>
        (name, if name ∈ names ∧ ¬ dryRun then held.filter hasRow else held)) ∧
      (∀ name, name ∉ names → done.state.collection name = w.collection name) ∧
      ∃ before, done.log = before ++ .dispose :: List.map Event.print
        ["\n=== Sync Complete ===", s!"Collections: {names.length}", s!"Points scanned: {points}",
          s!"Orphans found: {found}",
          if dryRun then "Orphans deleted: 0 (dry run)" else s!"Orphans deleted: {gone}",
          s!"Elapsed: {Decimal.fixed 1 clock.elapsed}s"] := by
  intro items dryRun names done hasRow points found gone
  obtain ⟨hitems, hdry⟩ := Settings.read_ok hread
  have hvalid := Settings.valid_of_problem? hproblem
  obtain ⟨registry, hsweeps, hworks, hhasRow⟩ := exists_sweeps ⟨loaded, hload, hread, hproblem⟩
    hvalid hengine hclient hwrites hrows hreach
  let s := sweeper settings w.signals.events.length
  let v : World := { w with registry, signals := w.signals.install }
  have hnames : Sweeper.selected settings.collections v.hosted = names := by
    rw [Sweeper.selected_eq_filter, hitems]
    rfl
  have hkind : s.plan.dryRun = true ↔ dryRun := by
    rw [show s.plan.dryRun = settings.dryRun from rfl, hdry]
    exact Settings.isYes_iff
  have hsets : v.OfSets := ⟨hw.names, hw.unscripted⟩
  -- the sweep returns, and what it has done is exact
  obtain ⟨⟨summary, hok⟩, hscrolls⟩ := s.scrolls_run turns settings.collections hvalid.pageSize
    hsets hworks w.signals.isSet_install hcalm
  rw [hnames] at hscrolls
  obtain ⟨-, hcontents, hothers, hkept⟩ :=
    s.run_reconciles turns settings.collections hvalid.pageSize hsets hok
  rw [hnames] at hcontents hothers
  obtain ⟨hresult, hstate, hlog⟩ := run_of_summary clock hsweeps hok
  have hcollection : ∀ name, done.state.collection name =
      (s.run turns settings.collections v).state.collection name := by
    intro name
    rw [World.collection, World.collection, hstate]
    rfl
  refine ⟨?_, ?_, ?_, ?_, ?_⟩
  · rw [hresult]
    rfl
  · intro name
    rw [← hscrolls name, hlog]
    exact exists_congr fun request => and_congr_left fun _ => scroll_mem_iff _ _ _ request
  · have hpoints : done.state.points = (s.run turns settings.collections v).state.points := by
      rw [World.points, World.points, hstate]
      rfl
    rw [hpoints, s.points_of_reconciled hsets (fun name hname => (List.mem_filter.mp hname).1)
      hcontents hothers hkept]
    have hwet : s.plan.dryRun = false ↔ ¬ dryRun := by rw [← hkind, Bool.not_eq_true]
    simp only [hwet, show v.registry.hasRow = hasRow from hhasRow]
    rfl
  · intro name hname
    rw [hcollection name, hothers name hname]
    rfl
  · refine ⟨preparations settings ++ (s.run turns settings.collections v).log, ?_⟩
    rw [hlog]
    refine congrArg (fun report => _ ++ .dispose :: List.map Event.print report) ?_
    have hreport := s.report_of_run turns settings.collections hvalid.pageSize hsets hok
      clock.elapsed
    have hgone : (names.map fun name => ((v.held name).size -
        ((s.run turns settings.collections v).state.held name).size : Int)).sum = gone := by
      refine congrArg List.sum (List.map_congr_left fun name _ => ?_)
      have hleft : (s.run turns settings.collections v).state.held name = done.state.held name := by
        rw [World.held, World.held, hcollection name]
      rw [hleft]
      rfl
    have hfound : (names.map fun name => (v.registry.orphans (v.held name).toList : Int)).sum =
        found := by
      refine congrArg List.sum (List.map_congr_left fun name _ => ?_)
      rw [Registry.orphans, hhasRow]
      rfl
    simp only [hnames, hkind, hgone, hfound] at hreport
    exact hreport

/-- A job for one of two collections, its name among blanks and with a name that is not hosted: with
    a flag that says yes it leaves all points, and with another flag those that have a row. -/
theorem run_completes_one :
    let env (flag : String) : Environment := fun name => [("DATABASE_URL", "postgresql://db/app"),
      ("SYNC_PAGE_SIZE", " 1 "), ("SYNC_COLLECTIONS", " a , ,missing"),
      ("SYNC_DRY_RUN", flag)].lookup name
    let w := Sweeper.lossy.faultless
    let done flag := run (.rehearsal [some { val := 2 }]) [] (env flag) {} w
    (done "no").result.map ExitStatus.code = .ok 0 ∧
      (∀ name, (∃ request, .scroll request ∈ (done "no").log ∧ request.collection = name) ↔
        name = "a") ∧
      (done "no").state.points =
        [("a", .ofList [{ val := 2 }]), ("b", .ofList [{ val := 3 }])] ∧
      (done " YES\n").result.map ExitStatus.code = .ok 0 ∧
      (done " YES\n").state.points =
        [("a", .ofList [{ val := 1 }, { val := 2 }]), ("b", .ofList [{ val := 3 }])] := by
  intro env w done
  let settings (dryRun : Bool) : Settings :=
    { plainSettings with pageSize := 1, collections := ["a", "missing"], dryRun }
  have hsets : w.OfSets := ⟨Sweeper.ofSets_lossy.names, Sweeper.ofSets_lossy.unscripted⟩
  obtain ⟨hcode, hscrolls, hpoints, -⟩ := run_completes (.rehearsal [some { val := 2 }]) []
    (env "no") {} rfl (ok_of_toOption (a := settings false) (by decide +kernel)) (by decide +kernel)
    (engine_rehearsal _ _ (by decide +kernel)) rfl (Database.writesIdentifiers_placeholders _) rfl rfl
    hsets rfl
  obtain ⟨hcodeDry, -, hpointsDry, -⟩ := run_completes (.rehearsal [some { val := 2 }]) []
    (env " YES\n") {} rfl (ok_of_toOption (a := settings true) (by decide +kernel))
    (by decide +kernel) (engine_rehearsal _ _ (by decide +kernel)) rfl
    (Database.writesIdentifiers_placeholders _) rfl rfl hsets rfl
  have hnames : (w.hosted.filter fun name =>
      (Text.commaItems (((env "no") "SYNC_COLLECTIONS").getD "")).isEmpty ||
        (Text.commaItems (((env "no") "SYNC_COLLECTIONS").getD "")).contains name) = ["a"] := by
    decide +kernel
  refine ⟨hcode, fun name => ?_, ?_, hcodeDry, ?_⟩
  · rw [hscrolls name, hnames, List.mem_singleton]
  · rw [hpoints]
    decide +kernel
  · rw [hpointsDry]
    decide +kernel

end Job

end OrphanSweep
