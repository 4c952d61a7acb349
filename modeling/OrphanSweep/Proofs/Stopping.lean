import OrphanSweep.Proofs.FailFast
import OrphanSweep.Proofs.Reports
import OrphanSweep.Proofs.Transcript

/-! # Why a sweep is cancelled

    A scan is told to stop because the stop event is set or because another scan has failed.  The
    first failure of a sweep comes before any scan is aborted, so if it is a cancellation, the event
    was set (`isSet_of_cancelled`).  Where only a signal sets the event, its handler has shown a line,
    and that line stands in the listing or in a scan (`signalled_run`). -/

namespace OrphanSweep

/-! ## Signals leave a line -/

/-- The line that a signal handler shows. -/
def Event.IsSignal (event : Event) : Prop := ∃ signal, event = .print (Signals.signalLine signal)

/-- A scan shows the line of a signal handler. -/
def ScanRecord.Signalled (r : ScanRecord) : Prop :=
  ∃ event, event.IsSignal ∧ .shown event ∈ r.transcript

/-- The line of a signal handler is among the events of a run, before its scans or in one of them. -/
def Swept.Signalled (swept : Swept) : Prop :=
  ∃ event, event.IsSignal ∧ (event ∈ swept.opening ∨ ∃ r ∈ swept.records, event ∈ r.events)

/-- If no nudge sets the event itself, it is set by a signal, whose handler shows a line. -/
theorem Strike.shown_nudgeAll {stop : Nat} {ns : List Nudge}
    (hcancel : ∀ event, .cancel event ∈ ns → event ≠ stop) :
    ∀ {p : Signals}, (nudgeAll p ns).2.isSet stop = true →
      p.isSet stop = true ∨ ∃ event ∈ (nudgeAll p ns).1, event.IsSignal := by
  induction ns with
  | nil => intro p h; exact Or.inl h
  | cons n ns ih =>
      intro p h
      have hrest : ∀ event, .cancel event ∈ ns → event ≠ stop :=
        fun event hmem => hcancel event (List.mem_cons_of_mem _ hmem)
      rcases ih hrest h with hfirst | ⟨event, hevent, hsignal⟩
      · cases n with
        | cancel event =>
            have hother : (event == stop) = false := by
              simpa using hcancel event List.mem_cons_self
            have hset : (p.set event).isSet stop = true := hfirst
            rw [Signals.isSet_set, hother, Bool.false_and, Bool.or_false] at hset
            exact Or.inl hset
        | signal s =>
            cases hhandler : p.handlers.get s with
            | outside =>
                simp only [nudge, Signals.fired, hhandler] at hfirst
                exact Or.inl hfirst
            | stop k =>
                refine Or.inr ⟨_, List.mem_append_left _ ?_, s, rfl⟩
                simp only [nudge, Signals.firedEvents, hhandler]
                exact List.mem_cons_self
      · exact Or.inr ⟨event, List.mem_append_right _ hevent, hsignal⟩

namespace World

/-- No strike sets the event but through a signal. -/
def Uncancelled (stop : Nat) (w : World) : Prop :=
  ∀ kind name n event, .cancel event ∈ (w.schedule kind name n).nudges → event ≠ stop

/-- The event is set. -/
def IsTold (stop : Nat) (w : World) : Prop := w.signals.isSet stop = true

/-- A call that sets the event shows the line of a signal. -/
theorem shows_answer (stop : Nat) (name : String) :
    Dialogue.Shows (World.answer stop name) (Uncancelled stop) (IsTold stop) Event.IsSignal := by
  intro call w h
  have hstrike : ∀ event, .cancel event ∈
      ((w.collection name).strike w.schedule name call).nudges → event ≠ stop := by
    cases call with
    | stopping => exact nofun
    | scroll cursor limit => exact h _ _ _
    | lookup ids => exact h _ _ _
    | delete ids => exact h _ _ _
  constructor
  · rw [Uncancelled, schedule_answer]
    exact h
  · rw [IsTold, signals_answer, log_answer]
    exact Strike.shown_nudgeAll hstrike

/-- So does a listing. -/
theorem shows_hosts (stop : Nat) :
    Dialogue.Shows World.hosts (Uncancelled stop) (IsTold stop) Event.IsSignal :=
  fun _ _ h => ⟨h, Strike.shown_nudgeAll (h _ _ _)⟩

end World

/-! ## An event that comes to be set -/

namespace Pool

variable {stop place : Nat} {pool later : Pool} {scanner : Scanner}

/-- Signals that come while scans take turns leave lines in the scans. -/
theorem signalled_leads (hpool : pool.world.Uncancelled stop) (h : pool.Leads stop later) :
    later.world.Uncancelled stop ∧ (later.world.IsTold stop →
      pool.world.IsTold stop ∨ ∃ scanner ∈ later.scanners, scanner.record.Signalled) := by
  induction h with
  | refl => exact ⟨hpool, Or.inl⟩
  | heed _ ih => exact ih
  | @move now place scanner hnow hplace hgoing ih =>
      obtain ⟨huncancelled, hbefore⟩ := ih
      obtain ⟨hnext, hmade⟩ :=
        (World.shows_answer stop scanner.record.name).step scanner.talk huncancelled
      rw [world_move hplace]
      refine ⟨hnext, fun hset => ?_⟩
      rcases hmade hset with hset | ⟨event, hsignal, hshown⟩
      · refine (hbefore hset).imp_right ?_
        rintro ⟨old, hold, event, hsignal, hshown⟩
        obtain ⟨last, hlast, -, hprefix⟩ := exists_mem_move hplace hold
        exact ⟨last, hlast, event, hsignal, hprefix.subset hshown⟩
      · refine Or.inr ⟨_, List.mem_iff_getElem?.mpr ⟨place, getElem?_move_self hplace⟩, ?_⟩
        exact ⟨event, hsignal, List.mem_append_right _ hshown⟩

end Pool

namespace Sweeper

variable (s : Sweeper) {w : World}

theorem signalled_scanEach (names : List String) :
    ∀ w : World, w.Uncancelled s.stop → (s.scanEach names w).state.IsTold s.stop →
      w.IsTold s.stop ∨ ∃ r ∈ (s.scanEach names w).records, r.Signalled := by
  induction names with
  | nil => intro w _ hset; exact Or.inl hset
  | cons name names ih =>
      intro w hw hset
      obtain ⟨hnext, hfirst⟩ := (World.shows_answer s.stop name).run
        (scan s.plan name (w.collection name).contents.pageBound) hw
      cases hresult : (s.scanOne name w).result with
      | error halt =>
          rw [scanEach_error names hresult] at hset ⊢
          exact (hfirst hset).imp_right fun hshown => ⟨_, List.mem_cons_self, hshown⟩
      | ok tally =>
          rw [scanEach_ok names hresult] at hset ⊢
          rcases ih _ hnext hset with hnow | ⟨r, hr, hsignalled⟩
          · exact (hfirst hnow).imp_right fun hshown => ⟨_, List.mem_cons_self, hshown⟩
          · exact Or.inr ⟨r, List.mem_cons_of_mem _ hr, hsignalled⟩

/-- Scans that come to set the event show a line of it, however they are made. -/
theorem signalled_scanAll (turns : List Nat) (names : List String) (hw : w.Uncancelled s.stop) :
    (s.scanAll turns names w).state.IsTold s.stop →
      w.IsTold s.stop ∨ ∃ r ∈ (s.scanAll turns names w).records, r.Signalled := by
  rw [scanAll]
  split
  · intro hset
    refine ((Pool.signalled_leads hw (s.leads_pooled turns names w)).2 hset).imp_right ?_
    rintro ⟨scanner, hmem, hsignalled⟩
    exact ⟨_, List.mem_map_of_mem hmem, hsignalled⟩
  · exact s.signalled_scanEach names w hw

end Sweeper

/-! ## Scans that are told to stop -/

section Told

variable {stop : Nat} {name : String} {w : World}

/-- Only the sweep aborts its scans. -/
theorem World.aborted_step {α : Type} (talk : Talk α) :
    (talk.step (World.answer stop name) w).state.aborted = w.aborted :=
  Dialogue.step_preserves (fun v : World => v.aborted = w.aborted) talk rfl
    fun call => World.aborted_answer stop name call w

theorem World.aborted_run {α : Type} (talk : Talk α) :
    (talk.run (World.answer stop name) w).state.aborted = w.aborted := by
  have hanswer : ∀ call v, World.aborted v = w.aborted →
      (World.answer stop name call v).state.aborted = w.aborted :=
    fun call v hv => (World.aborted_answer stop name call v).trans hv
  exact Dialogue.run_preserves hanswer talk rfl

/-- A scan is told to stop only if the event is set or the scans are aborted. -/
theorem World.stopping_of_answer {call : Call}
    (h : (⟨call, (World.answer stop name call w).result⟩ : Answered Call Call.Reply) =
      ⟨.stopping, true⟩) : w.stopping stop = true := by
  cases call with
  | stopping => exact eq_of_heq (Sigma.mk.inj h).2
  | scroll cursor limit => cases h
  | lookup ids => cases h
  | delete ids => cases h

theorem World.stopping_of_step {α : Type} {talk : Talk α}
    (h : ⟨.stopping, true⟩ ∈ Line.answered (talk.step (World.answer stop name) w).transcript) :
    w.stopping stop = true := by
  cases talk with
  | ended value => cases h
  | shows event rest => cases h
  | asks call resume =>
      rw [Dialogue.step, Dialogue.answered_heard] at h
      exact stopping_of_answer (List.mem_singleton.mp h).symm

/-- A scan among scans that are not aborted is told to stop only once the event is set. -/
theorem World.isSet_of_told {α : Type} (talk : Talk α) :
    ∀ w : World, w.aborted = false →
      ⟨.stopping, true⟩ ∈ Line.answered (talk.run (World.answer stop name) w).transcript →
      (talk.run (World.answer stop name) w).state.signals.isSet stop = true := by
  induction talk with
  | ended value => intro w _ h; cases h
  | shows event rest ih => intro w haborted h; exact ih w haborted h
  | asks call resume ih =>
      intro w haborted h
      rw [Dialogue.run, Line.answered_append, Dialogue.answered_heard, List.mem_append] at h
      rcases h with hnow | hlater
      · have hstopping := stopping_of_answer (List.mem_singleton.mp hnow).symm
        rw [World.stopping, haborted, Bool.or_false] at hstopping
        exact ((World.onward_answer stop name call w).trans (Lone.onward_run _ _)).isSet _ hstopping
      · exact ih _ _ (by rw [World.aborted_answer, haborted]) hlater

end Told

/-- A scan that ends cancelled was told to stop. -/
theorem Scan.told_of_cancelled {plan : Plan} {name : String} {w : World} {said : Said}
    {halt : Halt} {c : Value} (hw : w.Ordinary) (htold : ∀ a ∈ said, w.Tells a.1 a.2)
    (hpost : Explains (α := Tally) plan name (.error halt) said) (hhalt : halt.failure = .cancelled c) :
    ⟨.stopping, true⟩ ∈ said := by
  rcases failure_of_explained htold (hpost halt rfl) with
    ⟨-, hcancelled⟩ | ⟨hraised, -⟩ | ⟨-, hunwritable⟩
  · exact hcancelled c hhalt
  · obtain ⟨⟨cause, details, hforeign, -⟩, -⟩ := hraised.ordinary hw
    rw [hhalt] at hforeign
    cases hforeign
  · rw [hhalt] at hunwritable
    cases hunwritable

/-! ## The first scan that fails -/

namespace Pool

variable {stop place : Nat} {pool later last : Pool} {scanner : Scanner}

theorem onward_leads (h : pool.Leads stop later) :
    pool.world.signals.Onward later.world.signals := by
  induction h with
  | refl => exact Signals.Onward.refl _
  | move _ hplace _ ih =>
      rw [world_move hplace]
      exact ih.trans (Sweeper.onward_step _ _)
  | heed _ ih => exact ih

/-- A failure that was noted is there after a move. -/
theorem isSome_failure_move (h : pool.scanners[place]? = some scanner)
    (hsome : pool.failure.isSome = true) : (pool.move stop place).failure.isSome = true := by
  cases hnone : (pool.move stop place).failure with
  | some failure => rfl
  | none =>
      rw [failure_of_move h hnone] at hsome
      cases hsome

/-- While no scan has failed, scans are told to stop only if the event is set. -/
structure Heeds (stop : Nat) (pool : Pool) : Prop where
  aborted : pool.world.aborted = true → pool.failure.isSome = true
  told    : ∀ scanner ∈ pool.scanners, ⟨.stopping, true⟩ ∈ scanner.record.said →
    pool.world.signals.isSet stop = true ∨ pool.failure.isSome = true

theorem heeds_start (plan : Plan) (names : List String) {w : World} (haborted : w.aborted = false) :
    (start plan names w).Heeds stop := by
  refine ⟨fun h => ?_, ?_⟩
  · rw [show (start plan names w).world.aborted = false from haborted] at h
    cases h
  · intro scanner hmem htold
    obtain ⟨name, -, rfl⟩ := List.mem_map.mp hmem
    cases htold

/-- What a scan has been told when it has moved, it was told before a failure was noted, or the event
    was set. -/
theorem Heeds.told_move (h : pool.Heeds stop) (hplace : pool.scanners[place]? = some scanner)
    {other : Scanner} (hother : other ∈ (pool.move stop place).scanners)
    (htold : ⟨.stopping, true⟩ ∈ other.record.said) :
    pool.world.signals.isSet stop = true ∨ pool.failure.isSome = true := by
  rcases mem_move hplace hother with rfl | ⟨elsewhere, -, hsame⟩
  · rw [Scanner.said_moved] at htold
    rcases List.mem_append.mp htold with hold | hnow
    · exact h.told scanner (List.mem_iff_getElem?.mpr ⟨place, hplace⟩) hold
    · have hstopping := World.stopping_of_step hnow
      rw [World.stopping, Bool.or_eq_true] at hstopping
      exact hstopping.imp_right h.aborted
  · exact h.told other (List.mem_iff_getElem?.mpr ⟨elsewhere, hsame⟩) htold

theorem Heeds.move (h : pool.Heeds stop) (hplace : pool.scanners[place]? = some scanner) :
    (pool.move stop place).Heeds stop where
  aborted := fun haborted => by
    rw [world_move hplace, Scanner.made, World.aborted_step] at haborted
    exact isSome_failure_move hplace (h.aborted haborted)
  told    := fun other hother htold => by
    rw [world_move hplace]
    exact (h.told_move hplace hother htold).imp
      ((Sweeper.onward_step scanner.talk pool.world).isSet stop) (isSome_failure_move hplace)

theorem Heeds.heed (h : pool.Heeds stop) : pool.heed.Heeds stop where
  aborted := fun haborted => ((Bool.or_eq_true _ _).mp haborted).elim h.aborted id
  told    := h.told

/-- A pool of scans heeds the event, whatever the turns are. -/
theorem Heeds.leads (h : pool.Heeds stop) (hleads : pool.Leads stop later) : later.Heeds stop := by
  induction hleads with
  | refl => exact h
  | move _ hplace _ ih => exact ih.move hplace
  | heed _ ih => exact ih.heed

/-- On the way from one pool to another, a scan is the first that fails. -/
structure Breaks (stop : Nat) (pool last : Pool) (failure : Failure) (now : Pool) (place : Nat)
    (scanner : Scanner) : Prop where
  before   : pool.Leads stop now
  there    : now.scanners[place]? = some scanner
  going    : scanner.talk.isEnded = false
  unfailed : now.failure = none
  fails    : ∃ halt, (scanner.made stop now.world).result = .ended (.error halt) ∧
    halt.failure = failure
  behind   : (now.move stop place).Leads stop last

/-- A pool that comes to have a failure has it from the first scan that fails. -/
theorem breaks_of_failure (hnone : pool.failure = none) (hleads : pool.Leads stop last) :
    ∀ failure, last.failure = some failure →
      ∃ now place scanner, Breaks stop pool last failure now place scanner := by
  induction hleads with
  | refl =>
      intro failure hfailure
      rw [hnone] at hfailure
      cases hfailure
  | @move later place scanner hbefore hplace hgoing ih =>
      intro failure hfailure
      cases hfirst : later.failure with
      | none =>
          -- the move has brought the failure
          rcases failure_move hplace with hsame | ⟨halt, hended, hnoted⟩
          · rw [hsame, hfirst] at hfailure
            cases hfailure
          · rw [hnoted, hfirst, Option.none_or] at hfailure
            exact ⟨later, place, scanner, hbefore, hplace, hgoing, hfirst,
              ⟨halt, hended, Option.some.inj hfailure⟩, Leads.refl⟩
      | some first =>
          have hsame : (later.move stop place).failure = some first := by
            rcases failure_move hplace with hsame | ⟨halt, -, hnoted⟩
            · exact hsame.trans hfirst
            · rw [hnoted, hfirst, Option.some_or]
          obtain ⟨now, turn, breaking, hbreaks⟩ := ih first hfirst
          rw [hsame] at hfailure
          cases hfailure
          exact ⟨now, turn, breaking, { hbreaks with behind := hbreaks.behind.move hplace hgoing }⟩
  | heed _ ih =>
      intro failure hfailure
      obtain ⟨now, turn, breaking, hbreaks⟩ := ih failure hfailure
      exact ⟨now, turn, breaking, { hbreaks with behind := hbreaks.behind.heed }⟩

section Breaks

variable {failure : Failure} {now : Pool} (h : Breaks stop pool last failure now place scanner)
include h

theorem Breaks.mem : scanner.moved stop now.world ∈ (now.move stop place).scanners :=
  List.mem_iff_getElem?.mpr ⟨place, getElem?_move_self h.there⟩

/-- No scan is aborted before the first has failed. -/
theorem Breaks.unaborted (hpool : pool.Heeds stop) : now.world.aborted = false := by
  rw [Bool.eq_false_iff]
  intro haborted
  have hsome := (hpool.leads h.before).aborted haborted
  rw [h.unfailed] at hsome
  cases hsome

/-- So the first scan that fails was told to stop only if the event was set. -/
theorem Breaks.isSet_of_told (hpool : pool.Heeds stop)
    (htold : ⟨.stopping, true⟩ ∈ (scanner.moved stop now.world).record.said) :
    now.world.signals.isSet stop = true := by
  rcases (hpool.leads h.before).told_move h.there h.mem htold with hset | hsome
  · exact hset
  · rw [h.unfailed] at hsome
    cases hsome

end Breaks

end Pool

namespace Sweeper

variable (s : Sweeper) {w : World}

/-- Scans that take turns and end cancelled were told so by the event: the first that failed was told
    before any was aborted. -/
theorem isSet_of_cancelled_together (turns : List Nat) (names : List String) (hw : w.Ordinary)
    (haborted : w.aborted = false) {c : Value}
    (h : (s.pooled turns names w).failure = some (.cancelled c)) :
    (s.scanTogether turns names w).state.IsTold s.stop := by
  have hleads := s.leads_pooled turns names w
  obtain ⟨now, place, scanner, hbreaks⟩ := Pool.breaks_of_failure rfl hleads _ h
  obtain ⟨halt, hended, hcancelled⟩ := hbreaks.fails
  have hmoved : (tellingWatch s False w).Holds names (now.move s.stop place) :=
    Watch.holds_leads s.abortable_tellingWatch (s.pairwise_tellingWatch names)
      (Pool.noted_start s.plan names w)
      (Watch.holds_start ⟨hw, rfl, rfl, False.elim⟩ (s.ready_tellingWatch names w))
      (hbreaks.before.move hbreaks.there hbreaks.going)
  have hpost := hmoved.follows _ hbreaks.mem
  rw [show (scanner.moved s.stop now.world).talk = _ from hended] at hpost
  have htold := Scan.told_of_cancelled hw (fun a ha => (hmoved.inv _ hbreaks.mem a ha).1) hpost
    hcancelled
  have hset := hbreaks.isSet_of_told (Pool.heeds_start s.plan names haborted) htold
  have honward : now.world.signals.Onward (s.pooled turns names w).world.signals :=
    Pool.onward_leads ((Pool.Leads.refl.move hbreaks.there hbreaks.going).trans hbreaks.behind)
  exact honward.isSet _ hset

/-- Scans one after the other are told to stop only once the event is set. -/
theorem isSet_of_told_scanEach (names : List String) :
    ∀ w : World, w.aborted = false → ∀ r ∈ (s.scanEach names w).records,
      ⟨.stopping, true⟩ ∈ r.said → (s.scanEach names w).state.signals.isSet s.stop = true := by
  induction names with
  | nil => intro w _ r hr; cases hr
  | cons name names ih =>
      intro w haborted r hr htold
      have hfirst : ⟨.stopping, true⟩ ∈ Line.answered (s.scanOne name w).transcript →
          (s.scanOne name w).state.signals.isSet s.stop = true :=
        World.isSet_of_told (scan s.plan name (w.collection name).contents.pageBound) w haborted
      cases hresult : (s.scanOne name w).result with
      | error halt =>
          rw [scanEach_error names hresult] at hr ⊢
          cases List.mem_singleton.mp hr
          exact hfirst htold
      | ok tally =>
          rw [scanEach_ok names hresult] at hr ⊢
          rcases List.mem_cons.mp hr with rfl | hrest
          · exact (s.onward_scanEach names _).isSet _ (hfirst htold)
          · exact ih _ (by rw [scanOne, World.aborted_run, haborted]) r hrest htold

/-- **Scans that end cancelled were told so by the event.** -/
theorem isSet_of_cancelled (turns : List Nat) (names : List String) (hw : w.Ordinary)
    (haborted : w.aborted = false) {c : Value}
    (h : (s.scanAll turns names w).result = .error (.cancelled c)) :
    (s.scanAll turns names w).state.IsTold s.stop := by
  obtain ⟨r, hr, ⟨-, htold⟩ | ⟨hraised, -⟩ | ⟨-, hunwritable⟩⟩ := s.failure_scanAll turns names hw h
  · rw [scanAll] at h hr ⊢
    split at h
    · rename_i hshared
      rw [if_pos hshared]
      cases hfailure : (s.pooled turns names w).failure with
      | none => rw [scanTogether_unfailed hfailure] at h; cases h
      | some failure =>
          rw [scanTogether_failed hfailure] at h
          cases h
          exact s.isSet_of_cancelled_together turns names hw haborted hfailure
    · rename_i hone
      rw [if_neg hone] at hr ⊢
      exact s.isSet_of_told_scanEach names w haborted r hr (htold c rfl)
  · obtain ⟨⟨cause, details, hforeign, -⟩, -⟩ := hraised.ordinary hw
    cases hforeign
  · cases hunwritable

/-! ## A whole run -/

/-- A listing in an ordinary world is not cancelled. -/
theorem failure_listing (hw : w.Ordinary) {failure : Failure}
    (h : (s.listing w).result = .error failure) :
    (failure.isOwn = true ∧ ∀ c, failure ≠ .cancelled c) ∨
      Retry.writableRetries < s.plan.maxRetries ∧ failure = Retry.unwritable := by
  obtain ⟨listing, hsaid, -, hends⟩ := s.made_listing w
  rw [h] at hends
  refine (s.failedFor_listing hw hsaid hends).imp_left ?_
  rintro ⟨raised, -, -, rfl⟩
  exact ⟨rfl, nofun⟩

/-- **A run that is cancelled has shown the line of a signal**, if only signals set its event. -/
theorem signalled_run (turns : List Nat) (allowed : List String) (hw : w.Ordinary)
    (huncancelled : w.Uncancelled s.stop) (hunset : w.signals.isSet s.stop = false) {c : Value}
    (h : (s.run turns allowed w).result = .error (.cancelled c)) :
    (s.run turns allowed w).Signalled := by
  let v : World := { w with aborted := false }
  have hordinary : v.Ordinary := ⟨hw.strikes, hw.refused, hw.answers⟩
  have hcalls : v.Uncancelled s.stop := huncancelled
  have hunset' : ¬ v.IsTold s.stop := by
    rw [World.IsTold, hunset]
    exact nofun
  rcases s.failed_run turns allowed h with hlisted | ⟨hosted, hlisted, hscans⟩
  · rcases s.failure_listing hordinary hlisted with ⟨-, hother⟩ | ⟨-, hunwritable⟩
    · exact absurd rfl (hother c)
    · cases hunwritable
  · obtain ⟨hnext, hlisting⟩ := (World.shows_hosts s.stop).run _ hcalls
    obtain ⟨hrelisted, -⟩ := s.listing_spec v False nofun
    have hset := s.isSet_of_cancelled turns _ (hordinary.listed hrelisted.listed)
      hrelisted.listed.aborted hscans
    rcases s.signalled_scanAll turns _ hnext hset with hearly | ⟨r, hr, event, hsignal, hshown⟩
    · -- the signal came while the collections were listed
      obtain ⟨event, hsignal, hshown⟩ := (hlisting hearly).resolve_left hunset'
      refine ⟨event, hsignal, Or.inl ?_⟩
      rw [run, hlisted]
      exact List.mem_append_left _ (Line.mem_events.mpr (Or.inl hshown))
    · have hrecords := (s.run_of_listed turns allowed hlisted).records
      exact ⟨event, hsignal, Or.inr ⟨r, hrecords ▸ hr, Line.mem_events.mpr (Or.inl hshown)⟩⟩

end Sweeper

end OrphanSweep
