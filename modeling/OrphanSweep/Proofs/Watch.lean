import Mathlib.Data.List.Forall2
import Mathlib.Data.List.Nodup
import OrphanSweep.Proofs.Pool
import OrphanSweep.Proofs.World
import OrphanSweep.Sweep

/-! # Watching the scans of a sweep

    A watch looks at each scan of a sweep through a view of its own: a function of what was said in
    the scan and of the world.  It names what holds of every view, which questions a scan may ask,
    how answers change the view, and what a scan ends with.  If every scan by itself keeps to this,
    and no scan disturbs the view of another (`Apart`), then it holds of whole sweeps: of scans made
    one after the other (`watched_scanEach`) and of scans that take turns, whatever the turns are
    (`watched_scanTogether`). -/

namespace OrphanSweep

/-- What was asked and answered in a scan. -/
abbrev Said := List (Answered Call Call.Reply)

/-- What was asked and answered in the scan of a record. -/
def ScanRecord.said (r : ScanRecord) : Said := Line.answered r.transcript

theorem Scanner.said_moved (stop : Nat) (scanner : Scanner) (w : World) :
    (scanner.moved stop w).record.said =
      scanner.record.said ++ Line.answered (scanner.made stop w).transcript :=
  Line.answered_append _ _

/-- A way to look at the scans of a sweep. -/
structure Watch (stop : Nat) (σ : Type) where
  /-- What the worlds of the sweep have in common. -/
  stable : World → Prop
  /-- What is seen of the scan of a collection. -/
  view   : String → Said → World → σ
  /-- What holds of a scan at any time. -/
  inv    : String → σ → Prop
  /-- The questions that a scan may ask. -/
  may    : String → Call → σ → Prop
  /-- How an answer changes what is seen. -/
  rule   : String → (call : Call) → σ → call.Reply → σ → Prop
  /-- What a scan ends with. -/
  post   : String → Except Halt Tally → σ → Prop
  /-- Every answer keeps to this. -/
  answer : ∀ {name : String} {call : Call} {said : Said} {w : World},
    stable w → inv name (view name said w) → may name call (view name said w) →
    let made := World.answer stop name call w
    let next := view name (said ++ [⟨call, made.result⟩]) made.state
    stable made.state ∧ inv name next ∧ rule name call (view name said w) made.result next

namespace Sweeper

variable {s : Sweeper} {name : String} {w : World}

theorem scanEach_error {halt : Halt} (names : List String)
    (h : (s.scanOne name w).result = .error halt) :
    s.scanEach (name :: names) w =
      ⟨[⟨name, (s.scanOne name w).transcript⟩], .error halt.failure,
        (s.scanOne name w).state⟩ := by
  rw [scanEach, h]

theorem scanEach_ok {tally : Tally} (names : List String)
    (h : (s.scanOne name w).result = .ok tally) :
    s.scanEach (name :: names) w =
      ⟨⟨name, (s.scanOne name w).transcript⟩ ::
          (s.scanEach names (s.scanOne name w).state).records,
        (s.scanEach names (s.scanOne name w).state).result.map (tally :: ·),
        (s.scanEach names (s.scanOne name w).state).state⟩ := by
  rw [scanEach, h]

/-- Scans one after the other that fail have gone through up to the one that failed. -/
theorem scanEach_broken {failure : Failure} (names : List String) :
    ∀ w, (s.scanEach names w).result = .error failure →
      ∃ done last rest tallies halt, names = done ++ last :: rest ∧
        (s.scanEach done w).result = .ok tallies ∧
        (s.scanOne last (s.scanEach done w).state).result = .error halt ∧
        s.scanEach names w =
          ⟨(s.scanEach done w).records ++
              [⟨last, (s.scanOne last (s.scanEach done w).state).transcript⟩],
            .error halt.failure, (s.scanOne last (s.scanEach done w).state).state⟩ := by
  induction names with
  | nil => intro w h; cases h
  | cons name names ih =>
      intro w h
      cases hresult : (s.scanOne name w).result with
      | error halt =>
          exact ⟨[], name, names, [], halt, rfl, rfl, hresult, scanEach_error names hresult⟩
      | ok tally =>
          rw [scanEach_ok names hresult] at h
          cases hothers : (s.scanEach names (s.scanOne name w).state).result with
          | ok others => simp only at h; rw [hothers] at h; cases h
          | error other =>
              simp only at h
              rw [hothers] at h
              cases h
              obtain ⟨done, last, rest, tallies, halt, rfl, hdone, hlast, heq⟩ :=
                ih (s.scanOne name w).state hothers
              have hfirst := scanEach_ok done hresult
              refine ⟨name :: done, last, rest, tally :: tallies, halt, rfl, ?_, ?_, ?_⟩
              · rw [hfirst, hdone]
                rfl
              · rw [hfirst]
                exact hlast
              · rw [scanEach_ok _ hresult, heq, hfirst]
                rfl

/-- What holds of each scan by itself holds of scans one after the other. -/
theorem forall_scanEach {holds : ScanRecord → Prop} (names : List String) :
    ∀ w, (∀ name w, holds ⟨name, (s.scanOne name w).transcript⟩) →
      ∀ r ∈ (s.scanEach names w).records, holds r := by
  induction names with
  | nil => intro w _; exact List.forall_mem_nil _
  | cons name names ih =>
      intro w hone
      cases hresult : (s.scanOne name w).result with
      | error halt =>
          rw [scanEach_error names hresult]
          exact List.forall_mem_singleton.mpr (hone name w)
      | ok tally =>
          rw [scanEach_ok names hresult]
          exact List.forall_mem_cons.mpr ⟨hone name w, ih _ hone⟩

section Together

variable (s) (turns : List Nat) (names : List String) (w : World)

/-- The pool in which scans have taken turns to their ends. -/
def pooled : Pool := (Pool.start s.plan names w).run s.stop s.workers turns

theorem leads_pooled : (Pool.start s.plan names w).Leads s.stop (s.pooled turns names w) :=
  Pool.leads_run _ turns

theorem noted_pooled : (s.pooled turns names w).Noted :=
  Pool.noted_leads (Pool.noted_start s.plan names w) (s.leads_pooled turns names w)

theorem records_scanTogether : (s.scanTogether turns names w).records =
    (s.pooled turns names w).scanners.map Scanner.record := rfl

theorem state_scanTogether :
    (s.scanTogether turns names w).state = (s.pooled turns names w).world := rfl

variable {s turns names w}

theorem scanTogether_failed {failure : Failure}
    (h : (s.pooled turns names w).failure = some failure) :
    (s.scanTogether turns names w).result = .error failure := by
  rw [pooled] at h
  simp only [scanTogether, h]

theorem scanTogether_unfailed (h : (s.pooled turns names w).failure = none) :
    (s.scanTogether turns names w).result =
      .ok (names.filterMap (s.pooled turns names w).tally?) := by
  rw [pooled] at h ⊢
  simp only [scanTogether, h]

/-- Without a failure every scan of the pool has gone through. -/
theorem pooled_unfailed (h : (s.pooled turns names w).failure = none) {scanner : Scanner}
    (hmem : scanner ∈ (s.pooled turns names w).scanners) :
    ∃ tally, scanner.talk = .ended (.ok tally) := by
  obtain ⟨result, htalk⟩ := Dialogue.eq_ended_of_isEnded
    (Pool.ended_run (Pool.start s.plan names w) rfl turns h scanner hmem)
  cases result with
  | ok tally => exact ⟨tally, htalk⟩
  | error halt =>
      have hsome := (s.noted_pooled turns names w).failed halt ⟨scanner, hmem, htalk⟩
      rw [h] at hsome
      cases hsome

end Together

end Sweeper

namespace Watch

variable {stop : Nat} {σ : Type} (watch : Watch stop σ)

/-- What is left of a scan keeps to the watch. -/
def Follows (name : String) (talk : Talk (Except Halt Tally)) (v : σ) : Prop :=
  talk.Keeps (watch.may name) (watch.rule name) (watch.post name) v

/-- The scan of a collection keeps to the watch in every world that shows a given view. -/
def Ready (plan : Plan) (name : String) (v : σ) : Prop :=
  ∀ w, watch.stable w → watch.view name [] w = v → watch.inv name v ∧
    watch.Follows name (scan plan name (w.collection name).contents.pageBound) v

/-- A call for the second collection does not change what is seen of the first. -/
def Apart (seen called : String) : Prop :=
  ∀ call said w, watch.stable w →
    watch.view seen said (World.answer stop called call w).state = watch.view seen said w

variable {watch} in
/-- Where each scan is apart from those of other names, scans of different names are apart. -/
theorem pairwise_apart {names : List String} (hnodup : names.Nodup)
    (h : ∀ seen called, seen ≠ called → watch.Apart seen called) :
    names.Pairwise fun a b => watch.Apart a b ∧ watch.Apart b a :=
  hnodup.imp fun hne => ⟨h _ _ hne, h _ _ hne.symm⟩

/-- Aborting the scans is allowed once one of them has failed, and shows in no view. -/
def Abortable : Prop :=
  ∀ w, watch.stable w → (∃ name halt v, watch.post name (.error halt) v) →
    watch.stable { w with aborted := true } ∧
    ∀ name said, watch.view name said { w with aborted := true } = watch.view name said w

/-! ## One scan -/

section One

variable {watch} {name : String} {w : World}

theorem Follows.step {talk : Talk (Except Halt Tally)} {said : Said}
    (hstable : watch.stable w) (hinv : watch.inv name (watch.view name said w))
    (h : watch.Follows name talk (watch.view name said w)) :
    let made := talk.step (World.answer stop name) w
    let next := watch.view name (said ++ Line.answered made.transcript) made.state
    watch.stable made.state ∧ watch.inv name next ∧ watch.Follows name made.result next := by
  obtain ⟨⟨hstable', hinv'⟩, hfollows⟩ := Dialogue.Keeps.step
    (fun said w => watch.stable w ∧ watch.inv name (watch.view name said w))
    (watch.view name)
    (fun call said w hw hmay => by
      obtain ⟨h1, h2, h3⟩ := watch.answer hw.1 hw.2 hmay
      exact ⟨⟨h1, h2⟩, h3⟩)
    ⟨hstable, hinv⟩ h
  exact ⟨hstable', hinv', hfollows⟩

/-- A move of one scan does not show in the view of a scan apart from it. -/
theorem Apart.step {seen : String} (h : watch.Apart seen name)
    {talk : Talk (Except Halt Tally)} (said : Said) (hstable : watch.stable w) :
    watch.view seen said (talk.step (World.answer stop name) w).state =
      watch.view seen said w := by
  have hanswer : ∀ call, watch.view seen said (World.answer stop name call w).state =
      watch.view seen said w := fun call => h call said w hstable
  exact Dialogue.step_preserves (fun w' => watch.view seen said w' = watch.view seen said w)
    talk rfl hanswer

end One

/-! ## Scans one after the other -/

section Each

variable {s : Sweeper} {watch : Watch s.stop σ}

/-- What holds of the scans of a sweep that was watched. -/
structure Watched (watch : Watch stop σ) (names : List String) (w : World) (scans : Scans) :
    Prop where
  stable : watch.stable scans.state
  /-- The scans that were begun are the first ones, in order. -/
  begun  : scans.records.map ScanRecord.name <+: names
  inv    : ∀ r ∈ scans.records, watch.inv r.name (watch.view r.name r.said scans.state)
  /-- The scans show in no view that is apart from all of them. -/
  frame  : ∀ seen said, (∀ name ∈ names, watch.Apart seen name) →
    watch.view seen said scans.state = watch.view seen said w
  /-- The scans fail only if one of them does. -/
  failed : ∀ failure, scans.result = .error failure →
    ∃ name halt v, watch.post name (.error halt) v

/-- What holds of the scans of a sweep that was watched and went through. -/
structure Through (watch : Watch stop σ) (names : List String) (scans : Scans)
    (tallies : List Tally) : Prop where
  names : scans.records.map ScanRecord.name = names
  post  : List.Forall₂ (fun (r : ScanRecord) tally =>
    watch.post r.name (.ok tally) (watch.view r.name r.said scans.state)) scans.records tallies

/-- What holds of one scan that was watched from its first question to its end. -/
structure Kept (watch : Watch stop σ) (name : String) (w : World)
    (played : Played Call Call.Reply World (Except Halt Tally)) : Prop where
  stable : watch.stable played.state
  inv    : watch.inv name (watch.view name (Line.answered played.transcript) played.state)
  post   : watch.post name played.result
    (watch.view name (Line.answered played.transcript) played.state)
  /-- The scan shows in no view that is apart from it. -/
  frame  : ∀ seen said, watch.Apart seen name →
    watch.view seen said played.state = watch.view seen said w

/-- A scan by itself keeps to the watch. -/
theorem Ready.scanOne {name : String} {w : World}
    (h : watch.Ready s.plan name (watch.view name [] w)) (hstable : watch.stable w) :
    watch.Kept name w (s.scanOne name w) := by
  obtain ⟨hinv, hfollows⟩ := h w hstable rfl
  obtain ⟨⟨hstable', hinv', hframe⟩, hpost⟩ := Dialogue.Keeps.run
    (fun said w' => watch.stable w' ∧ watch.inv name (watch.view name said w') ∧
      ∀ seen said, watch.Apart seen name →
        watch.view seen said w' = watch.view seen said w)
    (watch.view name)
    (fun call said w' hw' hmay => by
      obtain ⟨h1, h2, h3⟩ := watch.answer hw'.1 hw'.2.1 hmay
      refine ⟨⟨h1, h2, ?_⟩, h3⟩
      intro seen said' happart
      exact (happart call said' w' hw'.1).trans (hw'.2.2 seen said' happart))
    ⟨hstable, hinv, fun _ _ _ => rfl⟩ hfollows
  exact ⟨hstable', hinv', hpost, hframe⟩

section Cons

variable {name : String} {names : List String} {w : World}

/-- A scan that fails is the last one. -/
theorem Kept.watched_of_error (h : watch.Kept name w (s.scanOne name w)) {halt : Halt}
    (hresult : (s.scanOne name w).result = .error halt) :
    watch.Watched (name :: names) w (s.scanEach (name :: names) w) := by
  have hpost := h.post
  rw [hresult] at hpost
  rw [Sweeper.scanEach_error names hresult]
  refine ⟨h.stable, ?_, ?_, ?_, fun _ _ => ⟨name, halt, _, hpost⟩⟩
  · exact List.prefix_append [name] names
  · intro r hr
    cases List.mem_singleton.mp hr
    exact h.inv
  · intro seen said happart
    exact h.frame seen said (happart name List.mem_cons_self)

/-- The scans that follow do not show in the view of one that is apart from them. -/
theorem Watched.view_first {base : World} {scans : Scans} (h : watch.Watched names base scans)
    (happart : ∀ other ∈ names, watch.Apart name other)
    (transcript : List (Line Call Call.Reply)) :
    watch.view name (ScanRecord.said ⟨name, transcript⟩) scans.state =
      watch.view name (Line.answered transcript) base :=
  h.frame name _ happart

theorem Kept.watched_of_ok (h : watch.Kept name w (s.scanOne name w)) {tally : Tally}
    (hresult : (s.scanOne name w).result = .ok tally)
    (happart : ∀ other ∈ names, watch.Apart name other)
    (hrest : watch.Watched names (s.scanOne name w).state
      (s.scanEach names (s.scanOne name w).state)) :
    watch.Watched (name :: names) w (s.scanEach (name :: names) w) := by
  rw [Sweeper.scanEach_ok names hresult]
  refine ⟨hrest.stable, ?_, ?_, ?_, ?_⟩
  · exact List.cons_prefix_cons.mpr ⟨rfl, hrest.begun⟩
  · intro r hr
    rcases List.mem_cons.mp hr with rfl | hmem
    · show watch.inv name (watch.view name _ _)
      rw [hrest.view_first happart]
      exact h.inv
    · exact hrest.inv r hmem
  · intro seen said hseen
    rw [hrest.frame seen said (fun other hother => hseen other (List.mem_cons_of_mem name hother))]
    exact h.frame seen said (hseen name List.mem_cons_self)
  · intro failure hfailure
    simp only at hfailure
    cases hothers : (s.scanEach names (s.scanOne name w).state).result with
    | error other => exact hrest.failed other hothers
    | ok others => rw [hothers] at hfailure; cases hfailure

theorem Kept.through_of_ok (h : watch.Kept name w (s.scanOne name w)) {tally : Tally}
    (hresult : (s.scanOne name w).result = .ok tally)
    (happart : ∀ other ∈ names, watch.Apart name other)
    (hrest : watch.Watched names (s.scanOne name w).state
      (s.scanEach names (s.scanOne name w).state))
    (hthrough : ∀ tallies, (s.scanEach names (s.scanOne name w).state).result = .ok tallies →
      watch.Through names (s.scanEach names (s.scanOne name w).state) tallies)
    {tallies : List Tally} (htallies : (s.scanEach (name :: names) w).result = .ok tallies) :
    watch.Through (name :: names) (s.scanEach (name :: names) w) tallies := by
  have hpost := h.post
  rw [hresult] at hpost
  rw [Sweeper.scanEach_ok names hresult] at htallies ⊢
  simp only at htallies
  cases hothers : (s.scanEach names (s.scanOne name w).state).result with
  | error failure => rw [hothers] at htallies; cases htallies
  | ok others =>
      rw [hothers] at htallies
      cases htallies
      obtain ⟨hnames, hposts⟩ := hthrough others hothers
      refine ⟨congrArg (name :: ·) hnames, List.Forall₂.cons ?_ hposts⟩
      show watch.post name (.ok tally) (watch.view name _ _)
      rw [hrest.view_first happart]
      exact hpost

end Cons

/-- **Scans one after the other keep to the watch.** -/
theorem watched_scanEach (names : List String) :
    ∀ w, watch.stable w → (∀ name ∈ names, watch.Ready s.plan name (watch.view name [] w)) →
      names.Pairwise (fun a b => watch.Apart a b ∧ watch.Apart b a) →
      watch.Watched names w (s.scanEach names w) ∧
      ∀ tallies, (s.scanEach names w).result = .ok tallies →
        watch.Through names (s.scanEach names w) tallies := by
  induction names with
  | nil =>
      intro w hstable _ _
      refine ⟨⟨hstable, List.prefix_rfl, fun r hr => (nomatch hr), fun _ _ _ => rfl,
        fun _ hfailure => (nomatch hfailure)⟩, ?_⟩
      intro tallies htallies
      cases htallies
      exact ⟨rfl, List.Forall₂.nil⟩
  | cons name names ih =>
      intro w hstable hready hpairs
      obtain ⟨hfirst, hrest⟩ := List.pairwise_cons.mp hpairs
      have hkept : watch.Kept name w (s.scanOne name w) :=
        (hready name List.mem_cons_self).scanOne hstable
      cases hresult : (s.scanOne name w).result with
      | error halt =>
          refine ⟨hkept.watched_of_error hresult, ?_⟩
          intro tallies htallies
          rw [Sweeper.scanEach_error names hresult] at htallies
          cases htallies
      | ok tally =>
          -- the first scan does not show in the views of the others, so they are ready as before
          have hreadyRest : ∀ other ∈ names, watch.Ready s.plan other
              (watch.view other [] (s.scanOne name w).state) := by
            intro other hother
            rw [hkept.frame other [] (hfirst other hother).2]
            exact hready other (List.mem_cons_of_mem name hother)
          obtain ⟨hwatched, hthrough⟩ := ih (s.scanOne name w).state hkept.stable hreadyRest hrest
          have happart : ∀ other ∈ names, watch.Apart name other :=
            fun other hother => (hfirst other hother).1
          exact ⟨hkept.watched_of_ok hresult happart hwatched, fun tallies htallies =>
            hkept.through_of_ok hresult happart hwatched hthrough htallies⟩

end Each

/-! ## Scans that take turns -/

section Together

variable {watch}

/-- Every scan of a pool keeps to the watch from where it is. -/
structure Holds (watch : Watch stop σ) (names : List String) (pool : Pool) : Prop where
  names   : pool.names = names
  stable  : watch.stable pool.world
  inv     : ∀ scanner ∈ pool.scanners, watch.inv scanner.record.name
    (watch.view scanner.record.name scanner.record.said pool.world)
  follows : ∀ scanner ∈ pool.scanners, watch.Follows scanner.record.name scanner.talk
    (watch.view scanner.record.name scanner.record.said pool.world)

/-- Different places of a list have collections apart from each other. -/
theorem apart_of_ne {names : List String}
    (hpairs : names.Pairwise (fun a b => watch.Apart a b ∧ watch.Apart b a))
    {i j : Nat} {a b : String} (hi : names[i]? = some a) (hj : names[j]? = some b)
    (hne : i ≠ j) : watch.Apart a b := by
  obtain ⟨hi', rfl⟩ := List.getElem?_eq_some_iff.mp hi
  obtain ⟨hj', rfl⟩ := List.getElem?_eq_some_iff.mp hj
  have hpairs' := List.pairwise_iff_getElem.mp hpairs
  rcases Nat.lt_or_gt_of_ne hne with hlt | hgt
  · exact (hpairs' i j hi' hj' hlt).1
  · exact (hpairs' j i hj' hi' hgt).2

/-- A move of one scan leaves all of them with what they keep to. -/
theorem holds_move {names : List String} {pool : Pool} {place : Nat} {scanner : Scanner}
    (hpairs : names.Pairwise (fun a b => watch.Apart a b ∧ watch.Apart b a))
    (h : watch.Holds names pool) (hplace : pool.scanners[place]? = some scanner) :
    watch.Holds names (pool.move stop place) := by
  have hmem : scanner ∈ pool.scanners := List.mem_iff_getElem?.mpr ⟨place, hplace⟩
  obtain ⟨hstable, hinv, hfollows⟩ :=
    (h.follows scanner hmem).step h.stable (h.inv scanner hmem)
  have hworld : (pool.move stop place).world = (scanner.made stop pool.world).state :=
    Pool.world_move hplace
  -- a scan after the move is the one that moved, or one that was apart from it
  have hcases : ∀ last ∈ (pool.move stop place).scanners,
      last = scanner.moved stop pool.world ∨
      last ∈ pool.scanners ∧ watch.Apart last.record.name scanner.record.name := by
    intro last hlast
    rcases Pool.mem_move hplace hlast with hmoved | ⟨other, hne, hother⟩
    · exact Or.inl hmoved
    · refine Or.inr ⟨List.mem_iff_getElem?.mpr ⟨other, hother⟩, ?_⟩
      exact apart_of_ne hpairs (h.names ▸ Pool.getElem?_names hother)
        (h.names ▸ Pool.getElem?_names hplace) hne
  refine ⟨?_, ?_, ?_, ?_⟩
  · rw [Pool.names_move hplace, h.names]
  · rw [hworld]
    exact hstable
  · intro last hlast
    rw [hworld]
    rcases hcases last hlast with rfl | ⟨hold, happart⟩
    · rw [Scanner.said_moved]
      exact hinv
    · rw [Scanner.made, happart.step _ h.stable]
      exact h.inv last hold
  · intro last hlast
    rw [hworld]
    rcases hcases last hlast with rfl | ⟨hold, happart⟩
    · rw [Scanner.said_moved]
      exact hfollows
    · rw [Scanner.made, happart.step _ h.stable]
      exact h.follows last hold

/-- A failure that was noted is the end of a scan. -/
theorem Holds.failed {names : List String} {pool : Pool} (h : watch.Holds names pool)
    (hnoted : pool.Noted) {failure : Failure} (hfailure : pool.failure = some failure) :
    ∃ name halt v, watch.post name (.error halt) v := by
  obtain ⟨halt, ⟨scanner, hmem, htalk⟩, -⟩ := hnoted.failure failure hfailure
  have hend := h.follows scanner hmem
  rw [htalk] at hend
  exact ⟨_, halt, _, hend⟩

/-- So does a turn of the sweep, which can only abort scans one of which has failed. -/
theorem holds_heed {names : List String} {pool : Pool} (habort : watch.Abortable)
    (hnoted : pool.Noted) (h : watch.Holds names pool) : watch.Holds names pool.heed := by
  cases hfailure : pool.failure with
  | none =>
      rw [Pool.heed_of_none hfailure]
      exact h
  | some failure =>
      obtain ⟨hstable, hview⟩ := habort pool.world h.stable (h.failed hnoted hfailure)
      rw [Pool.heed_of_some hfailure]
      refine ⟨h.names, hstable, ?_, ?_⟩
      · intro last hlast
        rw [hview]
        exact h.inv last hlast
      · intro last hlast
        rw [hview]
        exact h.follows last hlast

theorem holds_leads {names : List String} {pool later : Pool} (habort : watch.Abortable)
    (hpairs : names.Pairwise (fun a b => watch.Apart a b ∧ watch.Apart b a))
    (hnoted : pool.Noted) (h : watch.Holds names pool) (hleads : pool.Leads stop later) :
    watch.Holds names later := by
  induction hleads with
  | refl => exact h
  | move _ hplace _ ih => exact holds_move hpairs ih hplace
  | heed hearlier ih => exact holds_heed habort (Pool.noted_leads hnoted hearlier) ih

theorem holds_start {plan : Plan} {names : List String} {w : World} (hstable : watch.stable w)
    (hready : ∀ name ∈ names, watch.Ready plan name (watch.view name [] w)) :
    watch.Holds names (Pool.start plan names w) := by
  have hstart : ∀ scanner ∈ (Pool.start plan names w).scanners, ∃ name ∈ names,
      scanner = ⟨{ name }, scan plan name (w.collection name).contents.pageBound⟩ := by
    intro scanner hmem
    obtain ⟨name, hname, rfl⟩ := List.mem_map.mp hmem
    exact ⟨name, hname, rfl⟩
  refine ⟨?_, hstable, ?_, ?_⟩
  · rw [Pool.names, Pool.start, List.map_map]
    exact List.map_id names
  · intro scanner hmem
    obtain ⟨name, hname, rfl⟩ := hstart scanner hmem
    exact (hready name hname w hstable rfl).1
  · intro scanner hmem
    obtain ⟨name, hname, rfl⟩ := hstart scanner hmem
    exact (hready name hname w hstable rfl).2

/-- Scans that take turns show in no view that is apart from all of them. -/
theorem frame_leads {names : List String} {pool later : Pool} (habort : watch.Abortable)
    (hpairs : names.Pairwise (fun a b => watch.Apart a b ∧ watch.Apart b a))
    (hnoted : pool.Noted) (h : watch.Holds names pool) (hleads : pool.Leads stop later)
    {seen : String} (happart : ∀ name ∈ names, watch.Apart seen name) (said : Said) :
    watch.view seen said later.world = watch.view seen said pool.world := by
  induction hleads with
  | refl => rfl
  | @move now place scanner hearlier hplace hgoing ih =>
      have hnow := holds_leads habort hpairs hnoted h hearlier
      -- the scan that moves is one of those that the view is apart from
      have hname : scanner.record.name ∈ names := by
        rw [← hnow.names]
        exact List.mem_map_of_mem (List.mem_iff_getElem?.mpr ⟨place, hplace⟩)
      rw [Pool.world_move hplace, Scanner.made, (happart _ hname).step said hnow.stable, ih]
  | @heed now hearlier ih =>
      have hnow := holds_leads habort hpairs hnoted h hearlier
      have hnotedNow := Pool.noted_leads hnoted hearlier
      cases hfailure : now.failure with
      | none => rw [Pool.heed_of_none hfailure, ih]
      | some failure =>
          rw [Pool.heed_of_some hfailure,
            (habort now.world hnow.stable (hnow.failed hnotedNow hfailure)).2, ih]

/-- What scans end with that have all gone through, in the order of their collections. -/
theorem forall₂_filterMap (find : String → Option Tally) (ends : ScanRecord → Tally → Prop)
    {scanners : List Scanner} (h : ∀ scanner ∈ scanners,
      ∃ tally, find scanner.record.name = some tally ∧ ends scanner.record tally) :
    List.Forall₂ ends (scanners.map Scanner.record)
      ((scanners.map fun scanner => scanner.record.name).filterMap find) := by
  induction scanners with
  | nil => exact List.Forall₂.nil
  | cons scanner scanners ih =>
      obtain ⟨tally, hfind, hends⟩ := h scanner List.mem_cons_self
      rw [List.map_cons, List.map_cons, List.filterMap_cons_some hfind]
      exact List.Forall₂.cons hends (ih fun other hother => h other (List.mem_cons_of_mem _ hother))

/-- A pool whose scans have all gone through finds the tally of each of them. -/
theorem tally?_of_ended {names : List String} {pool : Pool} (hnodup : names.Nodup)
    (hname : ∀ name tally v, watch.post name (.ok tally) v → tally.collection = name)
    (hnoted : pool.Noted) (h : watch.Holds names pool) {scanner : Scanner} {tally : Tally}
    (hmem : scanner ∈ pool.scanners) (htalk : scanner.talk = .ended (.ok tally)) :
    pool.tally? scanner.record.name = some tally := by
  have hpost : ∀ other ∈ pool.scanners, ∀ t, other.talk = .ended (.ok t) →
      t.collection = other.record.name := by
    intro other hother t ht
    have hend := h.follows other hother
    rw [ht] at hend
    exact hname _ _ _ hend
  have hfound : (pool.tally? scanner.record.name).isSome = true := by
    rw [Pool.tally?, List.find?_isSome]
    refine ⟨tally, List.mem_reverse.mpr ((hnoted.tallies tally).mpr ⟨scanner, hmem, htalk⟩), ?_⟩
    exact decide_eq_true (hpost scanner hmem tally htalk)
  obtain ⟨found, hfind⟩ := Option.isSome_iff_exists.mp hfound
  -- what was found is the tally of a scan of the same name, so of this one
  have hcollection : found.collection = scanner.record.name := by
    rw [Pool.tally?] at hfind
    simpa using List.find?_some hfind
  obtain ⟨other, hother, hothertalk⟩ :=
    (hnoted.tallies found).mp (List.mem_reverse.mp (List.mem_of_find?_eq_some hfind))
  have hsame : other = scanner := by
    have hnames : (pool.scanners.map fun scanner => scanner.record.name).Nodup := by
      rw [← Pool.names, h.names]
      exact hnodup
    exact List.inj_on_of_nodup_map hnames hother hmem
      ((hpost other hother found hothertalk).symm.trans hcollection)
  rw [hsame, htalk] at hothertalk
  cases hothertalk
  exact hfind

/-- **Scans that take turns keep to the watch**, whatever the turns are. -/
theorem watched_scanTogether {s : Sweeper} {watch : Watch s.stop σ} (turns : List Nat)
    {names : List String} {w : World} (habort : watch.Abortable) (hstable : watch.stable w)
    (hready : ∀ name ∈ names, watch.Ready s.plan name (watch.view name [] w))
    (hpairs : names.Pairwise (fun a b => watch.Apart a b ∧ watch.Apart b a)) :
    watch.Watched names w (s.scanTogether turns names w) ∧
    (names.Nodup →
      (∀ name tally v, watch.post name (.ok tally) v → tally.collection = name) →
      ∀ tallies, (s.scanTogether turns names w).result = .ok tallies →
        watch.Through names (s.scanTogether turns names w) tallies) := by
  have hnoted := Pool.noted_start s.plan names w
  have hstart : watch.Holds names (Pool.start s.plan names w) := holds_start hstable hready
  have hleads := s.leads_pooled turns names w
  have hdone := holds_leads habort hpairs hnoted hstart hleads
  have hnotedDone := s.noted_pooled turns names w
  have hnames : (s.scanTogether turns names w).records.map ScanRecord.name = names := by
    rw [Sweeper.records_scanTogether, List.map_map]
    exact hdone.names
  refine ⟨⟨hdone.stable, ⟨[], (List.append_nil _).trans hnames⟩, ?_, ?_, ?_⟩, ?_⟩
  · intro r hr
    obtain ⟨scanner, hmem, rfl⟩ := List.mem_map.mp hr
    exact hdone.inv scanner hmem
  · intro seen said happart
    exact frame_leads habort hpairs hnoted hstart hleads happart said
  · intro failure hresult
    cases hfailure : (s.pooled turns names w).failure with
    | none => rw [Sweeper.scanTogether_unfailed hfailure] at hresult; cases hresult
    | some first => exact hdone.failed hnotedDone hfailure
  · intro hnodup hname tallies htallies
    cases hfailure : (s.pooled turns names w).failure with
    | some failure => rw [Sweeper.scanTogether_failed hfailure] at htallies; cases htallies
    | none =>
        rw [Sweeper.scanTogether_unfailed hfailure] at htallies
        cases htallies
        refine ⟨hnames, ?_⟩
        rw [Sweeper.records_scanTogether, Sweeper.state_scanTogether]
        have hends := forall₂_filterMap (s.pooled turns names w).tally?
          (fun r tally => watch.post r.name (.ok tally)
            (watch.view r.name r.said (s.pooled turns names w).world))
          fun scanner hmem => by
            obtain ⟨tally, htalk⟩ := Sweeper.pooled_unfailed hfailure hmem
            have hpost := hdone.follows scanner hmem
            rw [htalk] at hpost
            exact ⟨tally, tally?_of_ended hnodup hname hnotedDone hdone hmem htalk, hpost⟩
        rw [← Pool.names, hdone.names] at hends
        exact hends

end Together

/-! ## Scans either way -/

/-- **The scans of a sweep keep to the watch**, however they are made. -/
theorem watched_scanAll {s : Sweeper} {watch : Watch s.stop σ} (turns : List Nat)
    {names : List String} {w : World} (habort : watch.Abortable) (hstable : watch.stable w)
    (hready : ∀ name ∈ names, watch.Ready s.plan name (watch.view name [] w))
    (hpairs : names.Pairwise (fun a b => watch.Apart a b ∧ watch.Apart b a)) :
    watch.Watched names w (s.scanAll turns names w) ∧
    (names.Nodup →
      (∀ name tally v, watch.post name (.ok tally) v → tally.collection = name) →
      ∀ tallies, (s.scanAll turns names w).result = .ok tallies →
        watch.Through names (s.scanAll turns names w) tallies) := by
  rw [Sweeper.scanAll]
  split
  · exact watched_scanTogether turns habort hstable hready hpairs
  · obtain ⟨hwatched, hthrough⟩ := watched_scanEach names w hstable hready hpairs
    exact ⟨hwatched, fun _ _ => hthrough⟩

/-! ## The scan that fails -/

/-- Scans one after the other fail as the last of them does. -/
theorem failed_scanEach {s : Sweeper} {watch : Watch s.stop σ} {names : List String} {w : World}
    (hstable : watch.stable w)
    (hready : ∀ name ∈ names, watch.Ready s.plan name (watch.view name [] w))
    (hpairs : names.Pairwise (fun a b => watch.Apart a b ∧ watch.Apart b a)) {failure : Failure}
    (h : (s.scanEach names w).result = .error failure) :
    ∃ r ∈ (s.scanEach names w).records, ∃ halt : Halt, halt.failure = failure ∧
      watch.post r.name (.error halt) (watch.view r.name r.said (s.scanEach names w).state) := by
  obtain ⟨done, last, rest, tallies, halt, rfl, -, hlast, heq⟩ := Sweeper.scanEach_broken names w h
  obtain ⟨hdone, -, happart⟩ := List.pairwise_append.mp hpairs
  obtain ⟨hwatched, -⟩ := watched_scanEach done w hstable
    (fun name hname => hready name (List.mem_append_left _ hname)) hdone
  have hview : watch.view last [] (s.scanEach done w).state = watch.view last [] w :=
    hwatched.frame last [] fun name hname => (happart name hname last List.mem_cons_self).2
  have hkept := Ready.scanOne
    (hview ▸ hready last (List.mem_append_right _ List.mem_cons_self)) hwatched.stable
  have hpost := hkept.post
  rw [hlast] at hpost
  rw [heq] at h ⊢
  exact ⟨_, List.mem_append_right _ List.mem_cons_self, halt, Except.error.inj h, hpost⟩

/-- Scans that take turns fail as one of them does. -/
theorem failed_scanTogether {s : Sweeper} {watch : Watch s.stop σ} (turns : List Nat)
    {names : List String} {w : World} (habort : watch.Abortable) (hstable : watch.stable w)
    (hready : ∀ name ∈ names, watch.Ready s.plan name (watch.view name [] w))
    (hpairs : names.Pairwise (fun a b => watch.Apart a b ∧ watch.Apart b a)) {failure : Failure}
    (h : (s.scanTogether turns names w).result = .error failure) :
    ∃ r ∈ (s.scanTogether turns names w).records, ∃ halt : Halt, halt.failure = failure ∧
      watch.post r.name (.error halt)
        (watch.view r.name r.said (s.scanTogether turns names w).state) := by
  have hdone := holds_leads habort hpairs (Pool.noted_start s.plan names w)
    (holds_start hstable hready) (s.leads_pooled turns names w)
  cases hfailure : (s.pooled turns names w).failure with
  | none => rw [Sweeper.scanTogether_unfailed hfailure] at h; cases h
  | some first =>
      rw [Sweeper.scanTogether_failed hfailure] at h
      cases h
      obtain ⟨halt, ⟨scanner, hmem, htalk⟩, hhalt⟩ :=
        (s.noted_pooled turns names w).failure _ hfailure
      have hpost := hdone.follows scanner hmem
      rw [htalk] at hpost
      exact ⟨scanner.record, List.mem_map_of_mem hmem, halt, hhalt, hpost⟩

/-- **A sweep fails as one of its scans does.** -/
theorem failed_scanAll {s : Sweeper} {watch : Watch s.stop σ} (turns : List Nat)
    {names : List String} {w : World} (habort : watch.Abortable) (hstable : watch.stable w)
    (hready : ∀ name ∈ names, watch.Ready s.plan name (watch.view name [] w))
    (hpairs : names.Pairwise (fun a b => watch.Apart a b ∧ watch.Apart b a)) {failure : Failure} :
    (s.scanAll turns names w).result = .error failure →
      ∃ r ∈ (s.scanAll turns names w).records, ∃ halt : Halt, halt.failure = failure ∧
        watch.post r.name (.error halt)
          (watch.view r.name r.said (s.scanAll turns names w).state) := by
  rw [Sweeper.scanAll]
  split
  · exact failed_scanTogether turns habort hstable hready hpairs
  · exact failed_scanEach hstable hready hpairs

end Watch

end OrphanSweep
