import OrphanSweep.Proofs.Histories
import OrphanSweep.Proofs.Rerun
import OrphanSweep.Proofs.Stopping

/-! # Aborts

    When one of several scans at the same time fails, the sweep marks the others as aborted, and the
    mark stays when the run is over.  A run takes it away before anything else and does not look at
    it (`run_of_aborted`), so the mark tells of the last run alone: it is there exactly if that run
    has failed in scans at the same time (`aborted_run`, `aborted_left`).  A scan of a single
    collection heeds the mark as it heeds the event, before its first page (`cancelled_iff`).

    What such a run fails with is not the mark's doing: the scan that was the first to fail had not
    been aborted (`FirstFailure`). -/

namespace OrphanSweep

/-! ## Pools that have failed -/

namespace Pool

variable {stop workers place : Nat} {pool later last : Pool} {scanner : Scanner}

/-- A scan that has ended stays as it is. -/
theorem getElem?_leads_of_ended (h : pool.scanners[place]? = some scanner)
    (hended : scanner.talk.isEnded = true) (hleads : pool.Leads stop later) :
    later.scanners[place]? = some scanner := by
  induction hleads with
  | refl => exact h
  | @move now other moving _ hother hgoing ih =>
      have hne : place ≠ other := by
        rintro rfl
        rw [ih] at hother
        cases hother
        rw [hended] at hgoing
        cases hgoing
      rw [getElem?_move_of_ne hother hne, ih]
  | heed _ ih => exact ih

/-- If a scan has failed, the others are aborted. -/
def Heeded (pool : Pool) : Prop := pool.failure.isSome = true → pool.world.aborted = true

theorem heeded_heed (pool : Pool) : pool.heed.Heeded := by
  intro hsome
  show (pool.world.aborted || pool.failure.isSome) = true
  rw [show pool.failure.isSome = true from hsome, Bool.or_true]

/-- The sweep heeds the end of each scan that it lets run to its end, so also of the last. -/
theorem heeded_foldl (places : List Nat) :
    ∀ pool : Pool, places ≠ [] →
      (places.foldl (fun pool place => (pool.finish stop place).heed) pool).Heeded := by
  induction places with
  | nil => intro pool hnil; exact absurd rfl hnil
  | cons place places ih =>
      intro pool _
      cases places with
      | nil => exact heeded_heed _
      | cons next places => exact ih _ (List.cons_ne_nil next places)

theorem heeded_run (turns : List Nat) (h : pool.names ≠ []) :
    (pool.run stop workers turns).Heeded := by
  refine heeded_foldl _ _ ?_
  have hnames : (pool.turns stop workers turns).names = pool.names :=
    names_leads (leads_turns turns pool)
  intro hnil
  refine h ?_
  rw [List.range_eq_nil, List.length_eq_zero_iff] at hnil
  rw [← hnames, names, hnil, List.map_nil]

theorem names_start (plan : Plan) (names : List String) (w : World) :
    (start plan names w).names = names := by
  rw [Pool.names, start, List.map_map]
  exact List.map_id names

/-- What a scan says up to its failure explains it, whatever the turns are. -/
theorem explained_leads {plan : Plan} {names : List String} {w : World}
    (h : (start plan names w).Leads stop later) :
    ∀ scanner ∈ later.scanners, scanner.talk.Keeps (fun _ _ => True) Dialogue.Adds
      (Scan.Explains plan scanner.record.name) scanner.record.said := by
  refine forall_leads ?_ ?_ h
  · intro scanner v hkeeps
    have hmade : True ∧ (scanner.made stop v).result.Keeps (fun _ _ => True) Dialogue.Adds
        (Scan.Explains plan scanner.record.name)
        (scanner.record.said ++ Line.answered (scanner.made stop v).transcript) :=
      Dialogue.Keeps.step (fun _ _ => True) (fun said _ => said)
        (fun _ _ _ _ _ => ⟨trivial, rfl⟩) trivial hkeeps
    rw [Scanner.said_moved]
    exact hmade.2
  · intro scanner hmem
    obtain ⟨name, -, rfl⟩ := List.mem_map.mp hmem
    exact Scan.explains_scan _

/-- The scan that was the first to fail is there at the end as it was. -/
theorem Breaks.getElem?_last {failure : Failure} {now : Pool}
    (h : Breaks stop pool last failure now place scanner) :
    last.scanners[place]? = some (scanner.moved stop now.world) := by
  obtain ⟨halt, hended, -⟩ := h.fails
  refine getElem?_leads_of_ended (getElem?_move_self h.there) ?_ h.behind
  rw [show (scanner.moved stop now.world).talk = _ from hended]
  rfl

end Pool

/-! ## Runs that abort their scans -/

namespace Sweeper

variable (s : Sweeper) {w : World}

/-- A run makes its scans at the same time, and one of them fails. -/
structure FailsTogether (turns : List Nat) (allowed : List String) (w : World)
    (hosted : List String) (failure : Failure) : Prop where
  listed  : (s.listing { w with aborted := false }).result = .ok hosted
  workers : 1 < s.workers
  several : 1 < (selected allowed hosted).length
  failed  : (s.run turns allowed w).result = .error failure

/-- Scans one after the other abort none. -/
theorem aborted_scanEach (names : List String) :
    ∀ w : World, (s.scanEach names w).state.aborted = w.aborted := by
  induction names with
  | nil => intro w; rfl
  | cons name names ih =>
      intro w
      have hfirst : (s.scanOne name w).state.aborted = w.aborted := World.aborted_run _
      cases hresult : (s.scanOne name w).result with
      | error halt => rw [scanEach_error names hresult, hfirst]
      | ok tally => rw [scanEach_ok names hresult, ih, hfirst]

/-- Scans at the same time are aborted exactly if one of them fails. -/
theorem aborted_scanTogether (turns : List Nat) {names : List String} (hnames : names ≠ [])
    (haborted : w.aborted = false) :
    (s.scanTogether turns names w).state.aborted = true ↔
      ∃ failure, (s.scanTogether turns names w).result = .error failure := by
  rw [state_scanTogether]
  constructor
  · intro h
    have hheeds := (Pool.heeds_start s.plan names haborted).leads (s.leads_pooled turns names w)
    obtain ⟨failure, hfailure⟩ := Option.isSome_iff_exists.mp (hheeds.aborted h)
    exact ⟨failure, scanTogether_failed hfailure⟩
  · rintro ⟨failure, hfailed⟩
    have hheeded : (s.pooled turns names w).Heeded := by
      refine Pool.heeded_run turns ?_
      rw [Pool.names_start]
      exact hnames
    refine hheeded ?_
    cases hfailure : (s.pooled turns names w).failure with
    | some first => rfl
    | none => rw [scanTogether_unfailed hfailure] at hfailed; cases hfailed

theorem FailsTogether.shared {turns : List Nat} {allowed hosted : List String} {failure : Failure}
    (h : s.FailsTogether turns allowed w hosted failure) :
    s.isShared (selected allowed hosted) = true :=
  isShared_iff.mpr ⟨h.workers, h.several⟩

theorem aborted_listing (w : World) :
    (s.listing { w with aborted := false }).state.aborted = false :=
  (s.listing_spec { w with aborted := false } False nofun).1.listed.aborted

/-- A run does not depend on the abort that it finds. -/
theorem run_of_aborted (turns : List Nat) (allowed : List String) (w : World) (aborted : Bool) :
    s.run turns allowed { w with aborted } = s.run turns allowed w := rfl

/-- **Which runs leave an abort**: those that fail in scans at the same time.  One that returns, or
    fails in its listing or in scans one after the other, leaves none, whatever it found. -/
theorem aborted_run (turns : List Nat) (allowed : List String) (w : World) :
    (s.run turns allowed w).state.aborted = true ↔
      ∃ hosted failure, s.FailsTogether turns allowed w hosted failure := by
  have haborted := s.aborted_listing w
  cases hlisted : (s.listing { w with aborted := false }).result with
  | error refusal =>
      have hstate := (s.run_of_unlisted turns allowed hlisted).state
      rw [hstate, haborted]
      refine iff_of_false Bool.false_ne_true ?_
      rintro ⟨hosted, failure, hfails⟩
      rw [hfails.listed] at hlisted
      cases hlisted
  | ok hosted =>
      have hsame : ∀ hosted' failure, s.FailsTogether turns allowed w hosted' failure →
          hosted' = hosted := by
        intro hosted' failure hfails
        rw [hfails.listed] at hlisted
        exact Except.ok.inj hlisted
      cases hshared : s.isShared (selected allowed hosted) with
      | false =>
          obtain ⟨hscanned, -⟩ := s.run_of_each turns allowed hlisted hshared
          rw [hscanned.state, aborted_scanEach, haborted]
          refine iff_of_false Bool.false_ne_true ?_
          rintro ⟨hosted', failure, hfails⟩
          obtain rfl := hsame hosted' failure hfails
          rw [hfails.shared] at hshared
          cases hshared
      | true =>
          have hscanned := s.run_of_together turns allowed hlisted hshared
          obtain ⟨hworkers, hseveral⟩ := isShared_iff.mp hshared
          have hnames : selected allowed hosted ≠ [] :=
            List.ne_nil_of_length_pos (Nat.lt_trans Nat.zero_lt_one hseveral)
          rw [hscanned.state, s.aborted_scanTogether turns hnames haborted]
          constructor
          · rintro ⟨failure, hfailed⟩
            refine ⟨hosted, failure, hlisted, hworkers, hseveral, ?_⟩
            rw [hscanned.result, hfailed]
            rfl
          · rintro ⟨hosted', failure, hfails⟩
            exact ⟨failure, hscanned.failed s hfails.failed⟩

/-- The first failure of a run with scans at the same time: that of the scan at a place, which had
    not been aborted.  The records of the run have what this scan said. -/
structure FirstFailure (turns : List Nat) (allowed : List String) (w : World)
    (hosted : List String) (failure : Failure) (now : Pool) (place : Nat) (scanner : Scanner) :
    Prop where
  breaks    : Pool.Breaks s.stop
    (Pool.start s.plan (selected allowed hosted) (s.listing { w with aborted := false }).state)
    (s.pooled turns (selected allowed hosted) (s.listing { w with aborted := false }).state)
    failure now place scanner
  unaborted : now.world.aborted = false
  named     : (selected allowed hosted)[place]? = some scanner.record.name
  recorded  : (s.run turns allowed w).records[place]? = some (scanner.moved s.stop now.world).record
  /-- The scan has failed of itself: its own last answer or its own cursor explains the failure. -/
  explained : Scan.Explained s.plan scanner.record.name
    (scanner.moved s.stop now.world).record.said failure
  /-- If it was told to stop, it was the event that told it. -/
  told      : ⟨.stopping, true⟩ ∈ (scanner.moved s.stop now.world).record.said →
    now.world.signals.isSet s.stop = true

/-- **An abort makes no failure**: a run that fails in scans at the same time ends with the failure
    of one of its scans that had not been aborted. -/
theorem FailsTogether.firstFailure {turns : List Nat} {allowed hosted : List String}
    {failure : Failure} (h : s.FailsTogether turns allowed w hosted failure) :
    ∃ now place scanner, s.FirstFailure turns allowed w hosted failure now place scanner := by
  have hscanned := s.run_of_together turns allowed h.listed h.shared
  have hfailed := hscanned.failed s h.failed
  have hheeds : (Pool.start s.plan (selected allowed hosted)
      (s.listing { w with aborted := false }).state).Heeds s.stop :=
    Pool.heeds_start s.plan _ (s.aborted_listing w)
  cases hfailure : (s.pooled turns (selected allowed hosted)
      (s.listing { w with aborted := false }).state).failure with
  | none => rw [scanTogether_unfailed hfailure] at hfailed; cases hfailed
  | some first =>
      rw [scanTogether_failed hfailure] at hfailed
      cases hfailed
      obtain ⟨now, place, scanner, hbreaks⟩ :=
        Pool.breaks_of_failure rfl (s.leads_pooled turns _ _) _ hfailure
      refine ⟨now, place, scanner, hbreaks, hbreaks.unaborted hheeds, ?_, ?_, ?_,
        hbreaks.isSet_of_told hheeds⟩
      · have hnames := (Pool.names_leads hbreaks.before).trans (Pool.names_start s.plan _ _)
        rw [← hnames]
        exact Pool.getElem?_names hbreaks.there
      · rw [hscanned.records, records_scanTogether, List.getElem?_map, hbreaks.getElem?_last]
        rfl
      · obtain ⟨halt, hended, rfl⟩ := hbreaks.fails
        have hmoved := Pool.explained_leads
          (hbreaks.before.move hbreaks.there hbreaks.going) _ hbreaks.mem
        rw [show (scanner.moved s.stop now.world).talk = _ from hended] at hmoved
        exact hmoved halt rfl

end Sweeper

/-! ## Sessions -/

/-- Whether a step is a run. -/
def Session.Step.isRun : Session.Step → Bool
  | .run _ _ => true
  | _        => false

namespace Sweeper

variable (s : Sweeper) {w : World}

/-- A step is a run that leaves an abort. -/
def Aborts (w : World) (step : Session.Step) : Prop :=
  ∃ allowed turns hosted failure, step = .run allowed turns ∧
    s.FailsTogether turns allowed w hosted failure

/-- The last run among some steps is one that leaves an abort. -/
def LeftAborted (w : World) (past : List Session.Step) : Prop :=
  ∃ earlier step later, past = earlier ++ step :: later ∧ s.Aborts (s.left w earlier) step ∧
    ∀ other ∈ later, other.isRun = false

/-- Steps that are no runs leave the mark as it is. -/
theorem aborted_of_not_isRun (w : World) {step : Session.Step} (hstep : step.isRun = false) :
    (s.after w step).state.aborted = w.aborted := by
  cases step with
  | run allowed turns => cases hstep
  | collection name => exact World.aborted_run _
  | cancel => rfl
  | uncancel => rfl
  | addRows ids => rfl
  | removeRows ids => rfl
  | addPoints name ids =>
      show (Session.Record.ofChange w (w.addPoints name (.ofList ids))).state.aborted = _
      rw [World.addPoints]
      cases (w.collection name).contents.add name (.ofList ids) <;> rfl
  | removePoints name ids =>
      show (Session.Record.ofChange w (w.removePoints name (.ofList ids))).state.aborted = _
      rw [World.removePoints]
      cases (w.collection name).contents.remove name (.ofList ids) <;> rfl

/-- After a step the mark is there if the step has set it, or has found it and is no run. -/
theorem aborted_after (w : World) (step : Session.Step) :
    (s.after w step).state.aborted = true ↔
      s.Aborts w step ∨ step.isRun = false ∧ w.aborted = true := by
  cases hstep : step.isRun with
  | false =>
      rw [s.aborted_of_not_isRun w hstep]
      refine ⟨fun h => Or.inr ⟨rfl, h⟩, ?_⟩
      rintro (⟨allowed, turns, hosted, failure, rfl, -⟩ | ⟨-, h⟩)
      · cases hstep
      · exact h
  | true =>
      cases step with
      | run allowed turns =>
          refine (s.aborted_run turns allowed w).trans ⟨?_, ?_⟩
          · rintro ⟨hosted, failure, hfails⟩
            exact Or.inl ⟨allowed, turns, hosted, failure, rfl, hfails⟩
          · rintro (⟨allowed, turns, hosted, failure, ⟨⟩, hfails⟩ | ⟨hnot, -⟩)
            · exact ⟨hosted, failure, hfails⟩
            · cases hnot
      | _ => cases hstep

/-- What the last run has left is told from the last step in the same way. -/
theorem leftAborted_concat (past : List Session.Step) (step : Session.Step) :
    s.LeftAborted w (past ++ [step]) ↔
      s.Aborts (s.left w past) step ∨ step.isRun = false ∧ s.LeftAborted w past := by
  unfold LeftAborted
  exact since_concat past step

/-- **The mark tells of the last run.** -/
theorem aborted_left (haborted : w.aborted = false) (past : List Session.Step) :
    (s.left w past).aborted = true ↔ s.LeftAborted w past := by
  -- both sides change from step to step in one way, so the steps are taken from the last one
  induction past using List.reverseRecOn with
  | nil =>
      refine iff_of_false ?_ not_since_nil
      rw [left, haborted]
      exact Bool.false_ne_true
  | append_singleton past step ih =>
      rw [left_concat, s.aborted_after, ih, s.leftAborted_concat past step]

end Sweeper

/-! ## Scans of single collections -/

namespace Sweeper

variable (s : Sweeper) {w : World}

/-- A scan that is not told to stop at once asks for its first page. -/
theorem scrolls_of_going (h : w.stopping s.stop = false) (name : String) :
    ∃ reply, ⟨.scroll none s.plan.pageSize, reply⟩ ∈
      Line.answered (s.scanOne name w).transcript := by
  obtain ⟨resume, hvisit⟩ := Scan.visit_asks s.plan name { collection := name } none
  obtain ⟨hall, -⟩ := Scan.scan_of_pages s.plan name (w.collection name).contents.pageBound
    (World.answer s.stop name) w
  obtain ⟨-, hpages⟩ := Scan.pages_of_going s.plan name h
    ((w.collection name).contents.left none) { collection := name } none
  rw [← Contents.pageBound_eq, hvisit] at hpages
  rw [scanOne, ← Dialogue.answered_moments, hall, hpages]
  exact ⟨_, List.mem_cons_of_mem _ List.mem_cons_self⟩

/-- **A scan is cancelled before its first page exactly if it is told to stop there.** -/
theorem cancelled_iff (name : String) (w : World) :
    let made := s.after w (.collection name)
    made.result = .error (.cancelled (.text name)) ∧
        (∀ r ∈ made.records, ∀ cursor limit reply, ⟨.scroll cursor limit, reply⟩ ∉ r.said) ↔
      w.stopping s.stop = true := by
  intro made
  constructor
  · rintro ⟨-, hnone⟩
    cases hstopping : w.stopping s.stop with
    | true => rfl
    | false =>
        obtain ⟨reply, hscroll⟩ := s.scrolls_of_going hstopping name
        exact absurd hscroll (hnone _ List.mem_cons_self _ _ _)
  · intro hstopping
    obtain ⟨⟨reached, hresult⟩, -, hmoments⟩ := s.scanOne_of_stopping hstopping name
    refine ⟨?_, ?_⟩
    · show ((s.scanOne name w).result.mapError Halt.failure).map _ = _
      rw [hresult]
      rfl
    · intro r hr cursor limit reply hscroll
      cases List.mem_singleton.mp hr
      have hsaid : Line.answered (s.scanOne name w).transcript = [⟨.stopping, true⟩] := by
        rw [scanOne, ← Dialogue.answered_moments, hmoments]
        rfl
      rw [ScanRecord.said, hsaid] at hscroll
      cases List.mem_singleton.mp hscroll

/-- **An abort lasts until the next run.**  In any session of a sweeper that begins without an
    abort, a scan of a single collection is cancelled before its first page exactly if the event is
    set or the last run has failed in scans at the same time.  A run leaves an abort exactly if it
    fails like that; the failure it ends with is then that of a scan that had not been aborted; and
    no run depends on the abort that it finds. -/
theorem abort_lasts_until_next_run (haborted : w.aborted = false) (past : List Session.Step) :
    let before := s.left w past
    (∀ name future,
      let made := s.after before (.collection name)
      (s.session w (past ++ .collection name :: future))[past.length]? = some made ∧
      (made.result = .error (.cancelled (.text name)) ∧
          (∀ r ∈ made.records, ∀ cursor limit reply, ⟨.scroll cursor limit, reply⟩ ∉ r.said) ↔
        before.signals.isSet s.stop = true ∨ s.LeftAborted w past)) ∧
    ∀ turns allowed,
      ((s.run turns allowed before).state.aborted = true ↔
        ∃ hosted failure, s.FailsTogether turns allowed before hosted failure) ∧
      (∀ hosted failure, s.FailsTogether turns allowed before hosted failure →
        ∃ now place scanner,
          s.FirstFailure turns allowed before hosted failure now place scanner) ∧
      ∀ aborted, s.run turns allowed { before with aborted } = s.run turns allowed before := by
  intro before
  refine ⟨?_, ?_⟩
  · intro name future made
    refine ⟨s.getElem?_session past future (.collection name) w, ?_⟩
    refine (s.cancelled_iff name before).trans ?_
    rw [World.stopping, Bool.or_eq_true, s.aborted_left haborted past]
  · intro turns allowed
    refine ⟨s.aborted_run turns allowed before, ?_, s.run_of_aborted turns allowed before⟩
    intro hosted failure hfails
    exact hfails.firstFailure s

/-- Two workers, and one of two collections has no answer: the run ends with a first failure, a scan
    of the other collection is then cancelled, and a run of that collection alone leaves no abort. -/
theorem abort_lasts_until_next_run_two :
    let s : Sweeper := { workers := 2 }
    let w : World :=
      { collections := [{ name := "a", contents := .scripted [] },
          { name := "b", contents := .points ∅ }] }
    (∃ hosted failure now place scanner,
      s.FirstFailure [] [] w hosted failure now place scanner) ∧
      (s.after (s.left w [.run []]) (.collection "b")).result =
        .error (.cancelled (.text "b")) ∧
      (s.left w [.run [], .run ["b"]]).aborted = false := by
  intro s w
  obtain ⟨-, hruns⟩ := s.abort_lasts_until_next_run (rfl : w.aborted = false) []
  obtain ⟨hmark, hfirst, -⟩ := hruns [] []
  obtain ⟨hosted, failure, hfails⟩ := hmark.mp (by decide +kernel)
  obtain ⟨hsingle, -⟩ := s.abort_lasts_until_next_run (rfl : w.aborted = false) [.run []]
  obtain ⟨-, hcancelled⟩ := hsingle "b" []
  have hlast : s.LeftAborted w [.run []] :=
    ⟨[], .run [], [], rfl, ⟨[], [], hosted, failure, rfl, hfails⟩, List.forall_mem_nil _⟩
  refine ⟨⟨hosted, failure, hfirst hosted failure hfails⟩, ?_, by decide +kernel⟩
  exact (hcancelled.mpr (Or.inr hlast)).1

end Sweeper

end OrphanSweep
