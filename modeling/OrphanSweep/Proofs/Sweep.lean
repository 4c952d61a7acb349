import OrphanSweep.Proofs.Retry
import OrphanSweep.Proofs.World
import OrphanSweep.Sweep

/-! # What a sweep does around its scans

    A sweep lists the hosted collections and then scans those it is for.  The listing touches no
    collection, so a sweep is either nothing but a listing that failed, or its scans in a world with
    the collections of the one it began in (`run_cases`). -/

namespace OrphanSweep

/-- A strike that does nothing. -/
structure Strike.Harmless (strike : Strike) : Prop where
  nudges  : strike.nudges = []
  failure : strike.failure = none

/-! ## The listing -/

namespace World

/-- A world that attempts to list have come to; if they were calm, with the signals it had. -/
structure Relisted (calm : Prop) (w v : World) : Prop where
  listed  : w.Listed v
  later   : w.listings ≤ v.listings
  signals : calm → v.signals = w.signals

variable {calm : Prop} {w v : World}

/-- One more attempt. -/
theorem Relisted.hosts (hcalm : calm → ∀ n, w.listings < n → (w.schedule .list none n).Harmless)
    (h : w.Relisted calm v) :
    w.Relisted calm (hosts () v).state ∧
    ((hosts () v).result = .ok w.hosted ∨
      ¬ calm ∧ ∃ failure, (hosts () v).result = .error failure) := by
  have hharmless : calm → (v.schedule .list none (v.listings + 1)).Harmless := by
    intro hc
    rw [h.listed.schedule]
    exact hcalm hc _ (Nat.lt_succ_of_le h.later)
  refine ⟨⟨h.listed.trans (listed_hosts v), Nat.le_succ_of_le h.later, ?_⟩, ?_⟩
  · intro hc
    show (Strike.nudgeAll v.signals (v.schedule .list none (v.listings + 1)).nudges).2 = _
    rw [(hharmless hc).nudges]
    exact h.signals hc
  · cases hfailure : (v.schedule .list none (v.listings + 1)).failure with
    | none =>
        left
        simp only [World.hosts, hfailure, h.listed.hosted]
    | some failure =>
        right
        refine ⟨fun hc => ?_, failure, by simp only [World.hosts, hfailure]⟩
        rw [(hharmless hc).failure] at hfailure
        cases hfailure

end World

namespace Sweeper

variable (s : Sweeper)

/-- A listing changes no collection, and answers with the hosted ones if it answers.  If no strike
    harms it, it does answer, and the signals stay as they are. -/
theorem listing_spec (w : World) (calm : Prop)
    (hcalm : calm → ∀ n, w.listings < n → (w.schedule .list none n).Harmless) :
    w.Relisted calm (s.listing w).state ∧
    ((s.listing w).result = .ok w.hosted ∨
      ¬ calm ∧ ∃ failure, (s.listing w).result = .error failure) := by
  let good : List String → World → Prop := fun hosted v => hosted = w.hosted ∧ w.Relisted calm v
  let bad : World → Prop := fun v => ¬ calm ∧ w.Relisted calm v
  -- an attempt that fails leaves a world that can be listed like the first
  have hattempt : ∀ v, w.Relisted calm v →
      Dialogue.Keeps (fun _ _ => True) (Dialogue.Exactly World.hosts) (Ending good bad)
        (.asks () fun reply => .ended (VectorStore.listed reply)) v := by
    intro v hv
    refine ⟨trivial, ?_⟩
    rintro reply next ⟨rfl, rfl⟩
    obtain ⟨hstate, hok | ⟨hnot, failure, herror⟩⟩ := hv.hosts hcalm
    · rw [hok]
      exact ⟨rfl, hstate⟩
    · rw [herror]
      exact ⟨hnot, hstate⟩
  have hpost : Ending good bad (s.listing w).result (s.listing w).state :=
    Dialogue.Keeps.run_exactly (Retry.keeps_retry (fun _ h => h.2) hattempt
      s.plan.maxRetries ⟨World.Listed.refl w, Nat.le_refl _, fun _ => rfl⟩)
  cases hresult : (s.listing w).result with
  | ok hosted =>
      rw [hresult] at hpost
      obtain ⟨rfl, hrelisted⟩ := hpost
      exact ⟨hrelisted, Or.inl rfl⟩
  | error failure =>
      rw [hresult] at hpost
      exact ⟨hpost.2, Or.inr ⟨hpost.1, failure, rfl⟩⟩

/-! ## One after the other, or at the same time -/

variable {s} {names : List String}

theorem isShared_iff : s.isShared names = true ↔ 1 < s.workers ∧ 1 < names.length := by
  rw [isShared, Bool.and_eq_true, decide_eq_true_iff, decide_eq_true_iff]

/-- One worker makes its scans one after the other. -/
theorem isShared_of_one (h : s.workers = 1) (names : List String) : s.isShared names = false := by
  rw [isShared, h]
  rfl

theorem scanAll_of_shared (turns : List Nat) (w : World) (h : s.isShared names = true) :
    s.scanAll turns names w = s.scanTogether turns names w := by
  rw [scanAll, if_pos h]

theorem scanAll_of_each (turns : List Nat) (w : World) (h : s.isShared names = false) :
    s.scanAll turns names w = s.scanEach names w := by
  rw [scanAll, h]
  rfl

variable (s)

/-! ## A whole run -/

/-- A run that is only a listing that failed. -/
structure OnlyListed (swept : Swept) (listed : World) : Prop where
  result  : ∃ failure, swept.result = .error failure
  records : swept.records = []
  state   : swept.state = listed

/-- A run that has made scans. -/
structure HasScanned (swept : Swept) (scans : Scans) : Prop where
  result  : swept.result = scans.result.map fun tallies => { tallies, dryRun := s.plan.dryRun }
  records : swept.records = scans.records
  state   : swept.state = scans.state

theorem run_of_unlisted (turns : List Nat) (allowed : List String) {w : World} {failure : Failure}
    (h : (s.listing { w with aborted := false }).result = .error failure) :
    OnlyListed (s.run turns allowed w) (s.listing { w with aborted := false }).state := by
  refine ⟨⟨failure, ?_⟩, ?_, ?_⟩ <;> rw [run, h]

theorem run_of_listed (turns : List Nat) (allowed : List String) {w : World} {hosted : List String}
    (h : (s.listing { w with aborted := false }).result = .ok hosted) :
    s.HasScanned (s.run turns allowed w) (s.scanAll turns (selected allowed hosted)
      (s.listing { w with aborted := false }).state) := by
  refine ⟨?_, ?_, ?_⟩ <;> rw [run, h]

/-- A run that has made scans fails as they do. -/
theorem HasScanned.failed {swept : Swept} {scans : Scans} (h : s.HasScanned swept scans)
    {failure : Failure} (hfailed : swept.result = .error failure) :
    scans.result = .error failure := by
  rw [h.result] at hfailed
  cases hscans : scans.result with
  | ok tallies => rw [hscans] at hfailed; cases hfailed
  | error other => rw [hscans] at hfailed; cases hfailed; rfl

/-- A run that has made scans and returns has the tallies of all of them. -/
theorem HasScanned.through {swept : Swept} {scans : Scans} (h : s.HasScanned swept scans)
    {summary : Summary} (hok : swept.result = .ok summary) :
    ∃ tallies, scans.result = .ok tallies ∧
      summary = { tallies, dryRun := s.plan.dryRun } := by
  rw [h.result] at hok
  cases hscans : scans.result with
  | error failure => rw [hscans] at hok; cases hok
  | ok tallies => rw [hscans] at hok; cases hok; exact ⟨tallies, rfl, rfl⟩

/-- A run whose listing fails is that listing. -/
theorem run_eq_of_unlisted (turns : List Nat) (allowed : List String) {w : World}
    {failure : Failure} (h : (s.listing { w with aborted := false }).result = .error failure) :
    s.run turns allowed w =
      { opening :=
          Line.events (fun _ => some .list) (s.listing { w with aborted := false }).transcript
        result  := .error failure
        state   := (s.listing { w with aborted := false }).state } := by
  rw [run, h]

/-- A run that fails has failed in its listing or in its scans. -/
theorem failed_run (turns : List Nat) (allowed : List String) {w : World} {failure : Failure}
    (h : (s.run turns allowed w).result = .error failure) :
    let listed := s.listing { w with aborted := false }
    listed.result = .error failure ∨ ∃ hosted, listed.result = .ok hosted ∧
      (s.scanAll turns (selected allowed hosted) listed.state).result = .error failure := by
  intro listed
  cases hlisted : listed.result with
  | error other =>
      rw [s.run_eq_of_unlisted turns allowed hlisted] at h
      cases h
      exact Or.inl rfl
  | ok hosted =>
      have hscanned := s.run_of_listed turns allowed hlisted
      exact Or.inr ⟨hosted, rfl, hscanned.failed s h⟩

/-- A run whose scans are made one after the other, and its log. -/
theorem run_of_each (turns : List Nat) (allowed : List String) {w : World} {hosted : List String}
    (h : (s.listing { w with aborted := false }).result = .ok hosted)
    (hone : s.isShared (selected allowed hosted) = false) :
    let listed := s.listing { w with aborted := false }
    let scans := s.scanEach (selected allowed hosted) listed.state
    s.HasScanned (s.run turns allowed w) scans ∧
      (s.run turns allowed w).log = Line.events (fun _ => some .list) listed.transcript ++
        s.announcement allowed hosted ++ scans.records.flatMap ScanRecord.events := by
  have hscans := scanAll_of_each turns (s.listing { w with aborted := false }).state hone
  have hscanned := s.run_of_listed turns allowed h
  rw [hscans] at hscanned
  refine ⟨hscanned, ?_⟩
  simp only [run, h, Swept.log, Swept.scanEvents, hone, hscans, Bool.false_eq_true, if_false]

/-- A run whose scans are made at the same time. -/
theorem run_of_together (turns : List Nat) (allowed : List String) {w : World}
    {hosted : List String} (h : (s.listing { w with aborted := false }).result = .ok hosted)
    (hshared : s.isShared (selected allowed hosted) = true) :
    s.HasScanned (s.run turns allowed w) (s.scanTogether turns (selected allowed hosted)
      (s.listing { w with aborted := false }).state) := by
  have hscanned := s.run_of_listed turns allowed h
  rw [scanAll_of_shared turns _ hshared] at hscanned
  exact hscanned

/-- **A run is a listing that failed, or a listing with its scans**, and the listing leaves the
    collections as they are.  If no strike harms the listing, it does not fail. -/
theorem run_cases (turns : List Nat) (allowed : List String) (w : World) (calm : Prop)
    (hcalm : calm → ∀ n, w.listings < n → (w.schedule .list none n).Harmless) :
    ∃ listed, ({ w with aborted := false } : World).Relisted calm listed ∧
      (¬ calm ∧ OnlyListed (s.run turns allowed w) listed ∨
        s.HasScanned (s.run turns allowed w)
          (s.scanAll turns (selected allowed w.hosted) listed)) := by
  obtain ⟨hrelisted, hok | ⟨hnot, failure, herror⟩⟩ :=
    s.listing_spec { w with aborted := false } calm hcalm
  · exact ⟨_, hrelisted, Or.inr (s.run_of_listed turns allowed hok)⟩
  · exact ⟨_, hrelisted, Or.inl ⟨hnot, s.run_of_unlisted turns allowed herror⟩⟩

end Sweeper

end OrphanSweep
