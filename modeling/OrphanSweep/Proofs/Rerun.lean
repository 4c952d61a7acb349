import OrphanSweep.Proofs.ExactRun
import OrphanSweep.Proofs.Orphans

/-! # Runs that fail and are made again

    A run that fails leaves a prefix of its work: the collections before the one it failed at are
    done, that one is cleared up to the end of a page, and the others have not been touched
    (`broken_scanEach`).  Whatever row of runs has failed, what they have left has lost nothing but
    orphans (`Attempted`), so a run that nothing strikes ends where it would have ended at once. -/

namespace OrphanSweep

/-! ## Where a run stops -/

/-- What scans one after the other have left that failed at a collection: those `done`, the `last`
    one, and the rest. -/
structure Broken (plan : Plan) (w : World) (names : List String) (records : List ScanRecord)
    (after : World) (done : List String) (last : String) (rest : List String) : Prop where
  order      : names = done ++ last :: rest
  /-- The scans of the rest have not begun. -/
  scanned    : records.map ScanRecord.name = done ++ [last]
  reconciled : ∀ name ∈ done, (after.collection name).contents =
    .points ((w.held name).filter (plan.spares w.registry))
  boundary   : ∃ k ≤ plan.pageCount (w.held last), (after.collection last).contents =
    .points ((w.held last).cleared (plan.spares w.registry) (k * plan.pageLength))
  untouched  : ∀ name, name ∉ done → name ≠ last → after.collection name = w.collection name

namespace Sweeper

variable (s : Sweeper) {w : World}

/-- **Scans that fail stop at the end of a page.** -/
theorem broken_scanEach (hsize : 1 ≤ s.plan.pageSize) (hw : w.OfSets) {listed : World}
    (hlisted : ({ w with aborted := false } : World).Relisted False listed)
    {names : List String} (hnodup : names.Nodup) (hhosted : ∀ name ∈ names, name ∈ w.hosted)
    {failure : Failure} (h : (s.scanEach names listed).result = .error failure) :
    ∃ done last rest, Broken s.plan w names (s.scanEach names listed).records
      (s.scanEach names listed).state done last rest := by
  obtain ⟨done, last, rest, tallies, halt, rfl, hdone, hlast, heq⟩ :=
    Sweeper.scanEach_broken names listed h
  have hready : ∀ name ∈ done ++ last :: rest, (setWatch s False w).Ready s.plan name
      ((setWatch s False w).view name [] listed) :=
    fun name hname => s.ready_setWatch hsize hw hlisted (fun h => h.elim) name hname
      (hhosted name hname)
  obtain ⟨hnodupDone, hnodupRest, hdisjoint⟩ := List.nodup_append.mp hnodup
  have hlastNot : last ∉ done := fun hmem => hdisjoint last hmem last List.mem_cons_self rfl
  -- first the scans that went through
  obtain ⟨hwatched, hthrough⟩ := Watch.watched_scanEach done listed
    (s.steady_listed hlisted (fun h => h.elim))
    (fun name hname => hready name (List.mem_append_left _ hname))
    (Watch.pairwise_apart hnodupDone fun _ _ => s.apart_setWatch)
  obtain ⟨-, hcontents⟩ := s.through_exact (hthrough tallies hdone)
  have hrecords := (hthrough tallies hdone).names
  generalize s.scanEach done listed = before at hlast heq hwatched hcontents hrecords
  -- then the one that failed
  have hview : (setWatch s False w).view last [] before.state =
      (setWatch s False w).view last [] listed :=
    hwatched.frame last [] fun name hname => s.apart_setWatch fun heq => hlastNot (heq ▸ hname)
  have hreadyLast := hready last (List.mem_append_right _ List.mem_cons_self)
  rw [← hview] at hreadyLast
  obtain ⟨-, -, hpost, hframe⟩ := hreadyLast.scanOne hwatched.stable
  rw [hlast] at hpost
  have hother : ∀ name, name ≠ last →
      (s.scanOne last before.state).state.collection name = before.state.collection name :=
    fun name hne => hframe name [] (s.apart_setWatch hne)
  rw [heq]
  refine ⟨done, last, rest, rfl, ?_, ?_, hpost.2, ?_⟩
  · rw [List.map_append, hrecords]
    rfl
  · intro name hname
    rw [hother name (fun heq => hlastNot (heq ▸ hname))]
    exact hcontents name hname
  · intro name hname hne
    rw [hother name hne, ← collection_listed hlisted name]
    exact hwatched.frame name [] fun other hmem =>
      s.apart_setWatch fun heq => hname (heq ▸ hmem)

/-- The same for a run: it has failed at the listing, and changed no collection, or at a page. -/
theorem run_broken (hseq : s.workers = 1) (hsize : 1 ≤ s.plan.pageSize) (hw : w.OfSets)
    (turns : List Nat) (allowed : List String) {failure : Failure}
    (h : (s.run turns allowed w).result = .error failure) :
    let made := s.run turns allowed w
    let listed := (s.listing { w with aborted := false }).result
    (∃ refusal, listed = .error refusal) ∧ made.records = [] ∧
        made.state.collections = w.collections ∨
      (∃ hosted, listed = .ok hosted) ∧ ∃ done last rest,
        Broken s.plan w (selected allowed w.hosted) made.records made.state done last rest := by
  intro made listed
  obtain ⟨hrelisted, hok | ⟨-, refusal, herror⟩⟩ :=
    s.listing_spec { w with aborted := false } False (fun h => h.elim)
  · refine Or.inr ⟨⟨_, hok⟩, ?_⟩
    have hscanned := s.run_of_listed turns allowed hok
    rw [scanAll_of_each turns _ (isShared_of_one hseq _)] at hscanned
    have hfailed := hscanned.failed s h
    show ∃ done last rest, Broken s.plan w _ (s.run turns allowed w).records
      (s.run turns allowed w).state done last rest
    rw [hscanned.records, hscanned.state]
    exact s.broken_scanEach hsize hw hrelisted
      (hw.hosted_nodup.sublist (selected_sublist allowed w.hosted)) (fun _ => mem_hosted) hfailed
  · have honly := s.run_of_unlisted turns allowed herror
    refine Or.inl ⟨⟨refusal, herror⟩, honly.records, ?_⟩
    show (s.run turns allowed w).state.collections = w.collections
    rw [honly.state, hrelisted.listed.collections]

end Sweeper

/-! ## What failed runs leave -/

/-- A step that attempts a run, or tells the sweeper to stop or to go on. -/
def Session.Step.isAttempt : Session.Step → Bool
  | .run _ _  => true
  | .cancel   => true
  | .uncancel => true
  | _         => false

/-- A world that attempts have left: what a sweep spares is still there, and nothing has come. -/
structure Attempted (plan : Plan) (w v : World) : Prop where
  registry : v.registry = w.registry
  schedule : v.schedule = w.schedule
  names    : v.collections.map Collection.name = w.collections.map Collection.name
  prunes   : w.Prunes (plan.spares w.registry) v

namespace Attempted

variable {plan : Plan} {w v v' : World}

theorem refl (w : World) : Attempted plan w w := ⟨rfl, rfl, rfl, World.Prunes.refl w⟩

theorem trans (h : Attempted plan w v) (h' : Attempted plan v v') : Attempted plan w v' where
  registry := h'.registry.trans h.registry
  schedule := h'.schedule.trans h.schedule
  names    := h'.names.trans h.names
  prunes   := h.prunes.trans (h.registry ▸ h'.prunes)

/-- Sets stay sets. -/
theorem ofSets (h : Attempted plan w v) (hw : w.OfSets) : v.OfSets where
  names      := h.names ▸ hw.names
  unscripted := by
    intro c hc answers hscript
    have hnames : c.name ∈ w.collections.map Collection.name := by
      rw [← h.names]
      exact List.mem_map_of_mem hc
    -- the collection was a set or was not there before, and pruning makes no script of it
    obtain ⟨before, hbefore, hname⟩ := List.mem_map.mp hnames
    have hprunes := h.prunes c.name
    have hnodup : (v.collections.map Collection.name).Nodup := h.names ▸ hw.names
    have hfind : v.collection c.name = c := Collection.find_of_mem hnodup hc
    have hfind' : w.collection c.name = before := by
      rw [← hname]
      exact Collection.find_of_mem hw.names hbefore
    rw [hfind, hfind', hscript] at hprunes
    cases hcontents : before.contents with
    | scripted before' => exact hw.unscripted before hbefore before' hcontents
    | missing => rw [hcontents] at hprunes; cases hprunes
    | points held => rw [hcontents] at hprunes; cases hprunes

theorem contents {name : String} (h : Attempted plan w v) (hw : w.OfSets)
    (hname : name ∈ w.hosted) :
    ∃ left, (v.collection name).contents = .points left ∧
      left.filter (plan.spares w.registry) = (w.held name).filter (plan.spares w.registry) := by
  have hprunes := h.prunes name
  rw [hw.contents hname] at hprunes
  obtain ⟨left, hleft, hfewer, hkept⟩ := hprunes.of_points
  refine ⟨left, hleft, PointSet.ext_mem fun p => ?_⟩
  rw [PointSet.mem_filter, PointSet.mem_filter]
  constructor
  · rintro ⟨hp, hspare⟩
    exact ⟨hfewer p hp, hspare⟩
  · rintro ⟨hp, hspare⟩
    exact ⟨hkept p hp hspare, hspare⟩

/-- The hosted collections stay. -/
theorem hosted (h : Attempted plan w v) (hw : w.OfSets) : v.hosted = w.hosted := by
  rw [World.hosted_eq (h.ofSets hw).names, World.hosted_eq hw.names, h.names]
  refine List.filter_congr fun name _ => ?_
  have hprunes := h.prunes name
  generalize (w.collection name).contents = before at hprunes
  generalize (v.collection name).contents = after at hprunes
  cases hprunes <;> rfl

end Attempted

namespace Sweeper

variable (s : Sweeper) {w v : World}

/-- One attempt. -/
theorem attempted_after (hsize : 1 ≤ s.plan.pageSize) (hw : w.OfSets) {step : Session.Step}
    (hstep : step.isAttempt = true) : Attempted s.plan w (s.after w step).state := by
  cases step with
  | run allowed turns =>
      have hkept := s.kept_run turns allowed hsize hw
      exact ⟨hkept.registry, hkept.schedule, hkept.names, (s.careful_run turns allowed w).prunes⟩
  | cancel => exact ⟨rfl, rfl, rfl, fun _ => Contents.Prunes.refl _⟩
  | uncancel => exact ⟨rfl, rfl, rfl, fun _ => Contents.Prunes.refl _⟩
  | collection name => cases hstep
  | addPoints name ids => cases hstep
  | removePoints name ids => cases hstep
  | addRows ids => cases hstep
  | removeRows ids => cases hstep

/-- Any number of attempts. -/
theorem attempted_left (hsize : 1 ≤ s.plan.pageSize) (steps : List Session.Step) :
    ∀ w : World, w.OfSets → (∀ step ∈ steps, step.isAttempt = true) →
      Attempted s.plan w (s.left w steps) := by
  induction steps with
  | nil => intro w _ _; exact Attempted.refl w
  | cons step steps ih =>
      intro w hw hsteps
      have hfirst := s.attempted_after hsize hw (hsteps step List.mem_cons_self)
      exact hfirst.trans (ih _ (hfirst.ofSets hw)
        fun other hother => hsteps other (List.mem_cons_of_mem step hother))

/-- A calm run ends where the attempts began, less the orphans. -/
theorem run_attempted (turns : List Nat) (allowed : List String) (hsize : 1 ≤ s.plan.pageSize)
    (hw : w.OfSets) (h : Attempted s.plan w v)
    (hcalm : v.Calm s.stop (selected allowed w.hosted)) :
    ∃ summary, (s.run turns allowed v).result = .ok summary ∧
      ∀ name ∈ selected allowed w.hosted,
        ((s.run turns allowed v).state.collection name).contents =
          .points ((w.held name).filter (s.plan.spares w.registry)) := by
  have hhosted := h.hosted hw
  rw [← hhosted] at hcalm
  obtain ⟨summary, hsummary⟩ := s.run_of_calm turns allowed hsize (h.ofSets hw) hcalm
  obtain ⟨-, hcontents, -, -⟩ := s.run_reconciles turns allowed hsize (h.ofSets hw) hsummary
  refine ⟨summary, hsummary, ?_⟩
  intro name hname
  obtain ⟨left, hleft, hspared⟩ := h.contents hw (mem_hosted hname)
  rw [hcontents name (hhosted ▸ hname), h.registry, World.held, hleft, ← hspared]
  rfl

/-- A world as it is, with nothing that strikes a sweep or tells it to stop. -/
def undisturbed (w : World) : World :=
  { w with schedule := Schedule.calm, signals := w.signals.clear s.stop }

theorem calm_undisturbed (hworks : w.registry.Works) (names : List String) :
    (s.undisturbed w).Calm s.stop names where
  works := hworks
  going := Signals.isSet_clear w.signals s.stop
  lists := fun _ _ => ⟨rfl, rfl⟩
  quiet := fun _ _ =>
    ⟨fun _ _ => ⟨rfl, rfl⟩, fun _ _ => ⟨rfl, rfl⟩, fun _ _ => ⟨rfl, rfl⟩⟩

theorem left_concat (steps : List Session.Step) (step : Session.Step) :
    ∀ w, s.left w (steps ++ [step]) = (s.after (s.left w steps) step).state := by
  induction steps with
  | nil => intro w; rfl
  | cons first steps ih => intro w; exact ih (s.after w first).state

/-- **Failed runs stop at a page and converge.**  A run with one worker that fails has changed
    nothing, if it was the listing that failed, or has stopped at the end of a page of one
    collection with all before it done and all behind it untouched.  After any row of runs, however
    they ended, and with the stop event cleared, a run that nothing strikes returns, and leaves each
    collection that it is for as one undisturbed run would have. -/
theorem failed_runs_converge (hsize : 1 ≤ s.plan.pageSize) (hw : w.OfSets) :
    (∀ turns allowed failure, s.workers = 1 → (s.run turns allowed w).result = .error failure →
      let made := s.run turns allowed w
      let listed := (s.listing { w with aborted := false }).result
      (∃ refusal, listed = .error refusal) ∧ made.records = [] ∧
          made.state.collections = w.collections ∨
        (∃ hosted, listed = .ok hosted) ∧ ∃ done last rest,
          Broken s.plan w (selected allowed w.hosted) made.records made.state done last rest) ∧
    ∀ (steps : List Session.Step) (turns turns' : List Nat) (allowed : List String),
      (∀ step ∈ steps, step.isAttempt = true) → w.registry.Works →
      let v := s.left w (steps ++ [.uncancel])
      let names := selected allowed w.hosted
      (∀ n, v.listings < n → (w.schedule .list none n).Harmless) →
      (∀ name ∈ names, (v.collection name).Quiet w.schedule name) →
      ∃ summary summary',
        (s.run turns allowed v).result = .ok summary ∧
        (s.run turns' allowed (s.undisturbed w)).result = .ok summary' ∧
        ∀ name ∈ names,
          ((s.run turns allowed v).state.collection name).contents =
              .points ((w.held name).filter (s.plan.spares w.registry)) ∧
            ((s.run turns' allowed (s.undisturbed w)).state.collection name).contents =
              .points ((w.held name).filter (s.plan.spares w.registry)) := by
  refine ⟨?_, ?_⟩
  · intro turns allowed failure hseq h
    exact s.run_broken hseq hsize hw turns allowed h
  · intro steps turns turns' allowed hsteps hworks v names hlists hquiet
    have hattempted : Attempted s.plan w v := by
      refine s.attempted_left hsize (steps ++ [.uncancel]) w hw fun step hstep => ?_
      rcases List.mem_append.mp hstep with hmem | hlast
      · exact hsteps step hmem
      · cases List.mem_singleton.mp hlast
        rfl
    have hcalm : v.Calm s.stop names := by
      refine ⟨hattempted.registry ▸ hworks, ?_, ?_, ?_⟩
      · show (s.left w (steps ++ [.uncancel])).signals.isSet s.stop = false
        rw [left_concat]
        exact Signals.isSet_clear _ s.stop
      · rw [hattempted.schedule]
        exact hlists
      · rw [hattempted.schedule]
        exact hquiet
    -- a run at once is the case in which nothing was attempted before
    obtain ⟨summary, hsummary, hcontents⟩ := s.run_attempted turns allowed hsize hw hattempted hcalm
    have honce : (s.undisturbed w).OfSets := ⟨hw.names, hw.unscripted⟩
    obtain ⟨summary', hsummary', hcontents'⟩ := s.run_attempted turns' allowed hsize honce
      (Attempted.refl _) (s.calm_undisturbed hworks names)
    exact ⟨summary, summary', hsummary, hsummary', fun name hname =>
      ⟨hcontents name hname, hcontents' name hname⟩⟩

/-- Two runs over a lossy world fail, each at a delete that was carried out; the third returns. -/
theorem failed_runs_converge_lossy :
    let s : Sweeper := { plan := { pageSize := 1 } }
    let v := s.left lossy ([.run [], .run []] ++ [.uncancel])
    (∃ failure, (s.run [] [] lossy).result = .error failure) ∧
    (∃ done last rest, Broken s.plan lossy (selected [] lossy.hosted)
      (s.run [] [] lossy).records (s.run [] [] lossy).state done last rest) ∧
    ∃ summary, (s.run [] [] v).result = .ok summary ∧
      ((s.run [] [] v).state.collection "b").contents =
        .points ((lossy.held "b").filter (s.plan.spares lossy.registry)) := by
  intro s v
  obtain ⟨hbroken, hconverge⟩ := s.failed_runs_converge (by decide) ofSets_lossy
  have herror : (s.run [] [] lossy).result.toOption.isNone = true := by decide +kernel
  obtain ⟨failure, hfailure⟩ : ∃ failure, (s.run [] [] lossy).result = .error failure := by
    cases h : (s.run [] [] lossy).result with
    | error failure => exact ⟨failure, rfl⟩
    | ok summary => rw [h] at herror; cases herror
  have hlisted : (s.listing { lossy with aborted := false }).result.toOption.isSome = true := by
    decide +kernel
  refine ⟨⟨failure, hfailure⟩, ?_, ?_⟩
  · rcases hbroken [] [] failure rfl hfailure with ⟨⟨refusal, hrefusal⟩, -⟩ | ⟨-, hstop⟩
    · rw [hrefusal] at hlisted
      cases hlisted
    · exact hstop
  · have hworks : lossy.registry.Works := by
      refine ⟨rfl, rfl, rfl, ?_⟩
      decide +kernel
    have hnames : selected [] lossy.hosted = ["a", "b"] := by decide +kernel
    have hdeletions : ∀ name ∈ ["a", "b"], (v.collection name).deletions = 1 := by decide +kernel
    have hquiet : ∀ name ∈ selected [] lossy.hosted,
        (v.collection name).Quiet lossy.schedule name := by
      rw [hnames]
      intro name hname
      refine ⟨fun n _ => ⟨rfl, rfl⟩, fun n _ => ⟨rfl, rfl⟩, ?_⟩
      intro n hn
      rw [hdeletions name hname] at hn
      -- the one delete that is struck has been made
      have hlater : ¬ (CallKind.delete = .delete ∧ n = 1) := by omega
      show Strike.Harmless (if CallKind.delete = .delete ∧ n = 1 then _ else _)
      rw [if_neg hlater]
      exact ⟨rfl, rfl⟩
    obtain ⟨summary, -, hsummary, -, hcontents⟩ := hconverge [.run [], .run []] [] [] []
      (by decide) hworks (fun n _ => ⟨rfl, rfl⟩) hquiet
    exact ⟨summary, hsummary, (hcontents "b" (by rw [hnames]; decide)).1⟩

end Sweeper

end OrphanSweep
