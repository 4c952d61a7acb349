import OrphanSweep.Proofs.Abreast

/-! # Retries are transparent

    Where each call gets through within its retries, a run comes to what the same run comes to
    without faults.  The listings are compared, and then the scans, each by itself
    (`lone_transparent`); the log of a run is put together from theirs, so the log with the failed
    attempts dropped is the log of the run without faults (`retries_transparent`). -/

namespace OrphanSweep

/-- The same world without faults. -/
def World.faultless (w : World) : World := { w with schedule := Schedule.calm }

/-- Each call that leads from a world to another for some collections, and the listing before them,
    gets through with at most `bound` failed attempts. -/
structure World.Bears (bound : Nat) (names : List String) (w after : World) : Prop where
  lists : Bearable .list bound (w.schedule .list none) 1 w.listings
  calls : ∀ name ∈ names, ∀ kind, Bearable kind bound (w.schedule kind (some name))
    ((after.collection name).made kind - (w.collection name).made kind)
    ((w.collection name).made kind)

namespace World

variable {w v : World}

/-- An attempt to list that nudges nothing leaves the signals alone. -/
theorem Relisted.hosts_unnudged (hw : w.Unnudged) (h : w.Relisted True v) :
    w.Relisted True (World.hosts () v).state where
  listed  := h.listed.trans (listed_hosts v)
  later   := Nat.le_succ_of_le h.later
  signals := fun _ => by
    show (Strike.nudgeAll v.signals (v.schedule .list none (v.listings + 1)).nudges).2 = _
    rw [h.listed.schedule, hw]
    exact h.signals trivial

theorem log_hosts (hw : w.Unnudged) (h : w.Relisted True v) : (hosts () v).log = [] := by
  show (Strike.nudgeAll v.signals (v.schedule .list none (v.listings + 1)).nudges).1 = []
  rw [h.listed.schedule, hw]
  rfl

theorem hosts_of_none (h : w.Relisted True v)
    (hstrike : (w.schedule .list none (v.listings + 1)).failure = none) :
    (hosts () v).result = .ok w.hosted := by
  simp only [hosts, h.listed.schedule, hstrike, h.listed.hosted]

theorem hosts_of_some (h : w.Relisted True v) {failure : Failure}
    (hstrike : (w.schedule .list none (v.listings + 1)).failure = some failure) :
    (hosts () v).result = .error failure := by
  simp only [hosts, h.listed.schedule, hstrike]

theorem unnudged_faultless (w : World) : w.faultless.Unnudged := fun _ _ _ => rfl

end World

namespace Sweeper

variable (s : Sweeper) {w : World}

/-- The listing gets through as it does without faults. -/
theorem listing_transparent (hfew : s.plan.maxRetries ≤ Retry.writableRetries) (hw : w.Unnudged)
    (hlists : Bearable .list s.plan.maxRetries (w.schedule .list none) 1 w.listings) :
    Event.settle (Line.events (fun _ => some .list) (s.listing w).transcript) =
        (false, Line.events (fun _ => some .list) (s.listing w.faultless).transcript) ∧
      Both (fun hosted v v' => hosted = w.hosted ∧ w.Relisted True v ∧ w.faultless.Relisted True v')
        (s.listing w).result (s.listing w.faultless).result (s.listing w).state
        (s.listing w.faultless).state := by
  obtain ⟨vain, hvain, hthrough, -⟩ := hlists
  let fits : Nat → World → Prop := fun vain v => w.Relisted True v ∧
    GetsThrough .list (w.schedule .list none) vain v.listings
  have hstart : ∀ v : World, v.Relisted True v :=
    fun v => ⟨World.Listed.refl v, Nat.le_refl _, fun _ => rfl⟩
  have hpairs : (settling (fun _ : Unit => some Event.list) World.hosts World.hosts
      (fun _ => True) (fun _ _ h => h)).Pairs
      (Both fun hosted v v' => hosted = w.hosted ∧ w.Relisted True v ∧ w.faultless.Relisted True v')
      (retry s.plan.maxRetries "list collections"
        (.asks () fun reply => .ended (VectorStore.listed reply)))
      (retry s.plan.maxRetries "list collections"
        (.asks () fun reply => .ended (VectorStore.listed reply))) w w.faultless := by
    refine Retry.pairs_retry fits _ hfew ?_ ?_ hvain ⟨hstart w, hthrough⟩
    · rintro vain v ⟨hv, ⟨failure, hfailure, hpass⟩, hlater⟩
      have hrun : (Dialogue.asks () fun reply =>
            .ended (VectorStore.listed reply)).run World.hosts v =
          ⟨[.asked () (.error failure)],
            .error (VectorStore.refusal "list collections" .null failure),
            (World.hosts () v).state⟩ := by
        simp only [Dialogue.run, Dialogue.heard, World.log_hosts hw hv,
          World.hosts_of_some hv hfailure]
        rfl
      refine ⟨⟨_, by rw [hrun], Scan.transient_refusal _ _ hpass⟩, ?_, ?_⟩
      · rw [hrun]
        exact ⟨_, [], rfl, rfl, List.forall_mem_nil _⟩
      · rw [hrun]
        exact ⟨hv.hosts_unnudged hw, hlater⟩
    · rintro v ⟨hv, hthrough⟩
      rw [pairs_settling]
      intro _
      simp only [Dialogue.run, Dialogue.heard, World.log_hosts hw hv,
        World.hosts_of_none hv hthrough, World.log_hosts w.unnudged_faultless (hstart w.faultless),
        World.hosts_of_none (hstart w.faultless) rfl]
      exact ⟨rfl, w.hosted, rfl, rfl, rfl, hv.hosts_unnudged hw,
        (hstart w.faultless).hosts_unnudged w.unnudged_faultless⟩
  exact pairs_settling.mp hpairs trivial

/-! ## Scans by themselves -/

/-- The scan of a collection by itself, under the faults of a world. -/
def lone (w : World) (name : String) : Played Call Call.Reply Collection (Except Halt Tally) :=
  (scan s.plan name (w.collection name).contents.pageBound).run
    (Collection.alone w.registry w.schedule name) (w.collection name)

/-- The events of that scan. -/
def loneLog (w : World) (name : String) : List Event :=
  Line.events (Call.request name) (s.lone w name).transcript

/-- After a listing a scan is what it is by itself. -/
theorem scanOne_lone {listed : World} (hw : w.Unnudged) (hgoing : w.stopping s.stop = false)
    (hlisted : w.Relisted True listed) (name : String) :
    (s.scanOne name listed).transcript = (s.lone w name).transcript ∧
      (s.scanOne name listed).result = (s.lone w name).result ∧
      (s.scanOne name listed).state.collection name = (s.lone w name).state := by
  have hlistedUnnudged : listed.Unnudged := by
    intro kind other n
    rw [hlisted.listed.schedule]
    exact hw kind other n
  have hstill : listed.stopping s.stop = false := by
    rw [World.stopping, hlisted.signals trivial, hlisted.listed.aborted]
    exact hgoing
  obtain ⟨htranscript, hresult, hstate⟩ := World.run_alone
    (scan s.plan name (listed.collection name).contents.pageBound) listed hlistedUnnudged hstill
  rw [hlisted.listed.registry, hlisted.listed.schedule, hlisted.listed.collection]
    at htranscript hresult hstate
  rw [scanOne, hlisted.listed.collection]
  exact ⟨htranscript, hresult, hstate⟩

/-- Without faults the scan of a set by itself goes through. -/
theorem lone_faultless (hsize : 1 ≤ s.plan.pageSize) (hworks : w.registry.Works) {name : String}
    {held : PointSet} (hheld : (w.collection name).contents = .points held) :
    ∃ tally, (s.lone w.faultless name).result = .ok tally := by
  have hlength : 0 < s.plan.pageLength := by
    rw [Plan.pageLength]
    omega
  have hmeets := Scan.meets_scan s.plan w.registry name True held hlength (fun _ => hworks) hheld
  have hanswer : ∀ call c, Collection.Answers True w.registry name call c
      (Collection.alone w.registry Schedule.calm name call c).result
      (Collection.alone w.registry Schedule.calm name call c).state := by
    intro call c
    refine ⟨false, c.strike Schedule.calm name call, fun _ => ⟨rfl, ?_⟩, rfl⟩
    cases call <;> rfl
  have hpost := hmeets.run_follows hanswer
  cases hresult : (s.lone w.faultless name).result with
  | ok tally => exact ⟨tally, rfl⟩
  | error halt =>
      have hend : Scan.Reconciled s.plan w.registry name True held
          (s.lone w.faultless name).result (s.lone w.faultless name).state := hpost
      rw [hresult] at hend
      exact absurd trivial hend.1

/-- **The scan of a set comes to what it comes to without faults**, if each of its calls gets
    through. -/
theorem lone_transparent (hfew : s.plan.maxRetries ≤ Retry.writableRetries)
    (hworks : w.registry.Works) {name : String} {held : PointSet}
    (hheld : (w.collection name).contents = .points held)
    (hbears : ∀ kind, Bearable kind s.plan.maxRetries (w.schedule kind (some name))
      ((s.lone w.faultless name).state.made kind - (w.collection name).made kind)
      ((w.collection name).made kind)) :
    Event.settle (s.loneLog w name) = (false, s.loneLog w.faultless name) ∧
      (s.lone w name).result = (s.lone w.faultless name).result := by
  have habreast : Scan.Abreast s.plan w.schedule name (s.lone w.faultless name).state
      (w.collection name) (w.collection name) := ⟨⟨held, hheld, hheld⟩, hbears⟩
  obtain ⟨hsettled, hresult, -⟩ := pairs_settling.mp (Scan.pairs_scan hworks hfew
    (w.collection name).contents.pageBound habreast) fun kind => Nat.le_refl _
  exact ⟨hsettled, hresult⟩

/-! ## Runs -/

theorem unwaited_announcement (allowed hosted : List String) :
    ∀ event ∈ s.announcement allowed hosted, event.isWait = false := by
  intro event hevent
  rcases List.mem_append.mp hevent with hmissing | hopening
  · obtain ⟨name, -, rfl⟩ := List.mem_map.mp hmissing
    rfl
  · rw [List.mem_singleton.mp hopening]
    rfl

/-- **A run comes to what its listing and its scans come to by themselves**, if these go
    through. -/
theorem run_of_lone (turns : List Nat) (allowed : List String) (hw : w.OfSets)
    (hunnudged : w.Unnudged) (hgoing : w.signals.isSet s.stop = false)
    (hlisted : ({ w with aborted := false } : World).Relisted True
      (s.listing { w with aborted := false }).state)
    (hresult : (s.listing { w with aborted := false }).result = .ok w.hosted)
    (hok : ∀ name ∈ selected allowed w.hosted, ∃ tally, (s.lone w name).result = .ok tally) :
    (∃ summary, (s.run turns allowed w).result = .ok summary) ∧
      (s.run turns allowed w).log =
        Line.events (fun _ => some .list) (s.listing { w with aborted := false }).transcript ++
          s.announcement allowed w.hosted ++
          (selected allowed w.hosted).flatMap (s.loneLog w) ∧
      ∀ name ∈ selected allowed w.hosted,
        (s.run turns allowed w).state.collection name = (s.lone w name).state := by
  have hscanned := s.run_of_listed turns allowed hresult
  have hnodup : (selected allowed w.hosted).Nodup :=
    hw.hosted_nodup.sublist (selected_sublist allowed w.hosted)
  have hstill : ({ w with aborted := false } : World).stopping s.stop = false := by
    rw [World.stopping]
    show (w.signals.isSet s.stop || false) = false
    rw [hgoing]
    rfl
  have hone := fun name => s.scanOne_lone (w := { w with aborted := false }) hunnudged hstill
    hlisted name
  have hlog := s.log_of_lone turns allowed hresult hnodup
  generalize (s.listing { w with aborted := false }).state = listed at *
  have hbase : World.Going s.stop listed listed := by
    refine ⟨rfl, rfl, Collection.Replaced.refl _ _, Signals.Onward.refl _, ?_,
      hlisted.listed.aborted⟩
    rw [hlisted.signals trivial]
    exact hgoing
  have hlistedUnnudged : listed.Unnudged := by
    intro kind other n
    rw [hlisted.listed.schedule]
    exact hunnudged kind other n
  have hnames : ∀ name ∈ selected allowed w.hosted,
      name ∈ listed.collections.map Collection.name := by
    intro name hname
    rw [hlisted.listed.collections]
    exact World.OfSets.mem_names (mem_hosted hname)
  have hlonely := s.scanAll_of_lone turns hbase hlistedUnnudged hnodup hnames fun name hname => by
    obtain ⟨tally, htally⟩ := hok name hname
    exact ⟨tally, (hone name).2.1.trans htally⟩
  refine ⟨?_, ?_, ?_⟩
  · obtain ⟨tallies, htallies⟩ := hlonely.result
    rw [hscanned.result, htallies]
    exact ⟨_, rfl⟩
  · rw [hlog hlonely]
    refine congrArg (_ ++ ·) (List.flatMap_congr fun name _ => ?_)
    rw [ScanRecord.events, loneRecord, (hone name).1]
    rfl
  · intro name hname
    rw [hscanned.state, hlonely.collections name hname, (hone name).2.2]
    rfl

/-- **Retries are transparent.**  If every call that a run makes without faults gets through within
    its retries, with no more of them than can be written, and nothing cancels the run, then it
    returns what it returns without faults, leaves the same points, and its log without the failed
    attempts is the log of the run without faults.  The scans of both may take any turns. -/
theorem retries_transparent (turns turns' : List Nat) (allowed : List String)
    (hsize : 1 ≤ s.plan.pageSize) (hretries : s.plan.maxRetries ≤ 14285) (hw : w.OfSets)
    (hworks : w.registry.Works) (hgoing : w.signals.isSet s.stop = false)
    (hunnudged : w.Unnudged)
    (hbears : w.Bears s.plan.maxRetries (selected allowed w.hosted)
      (s.run turns' allowed w.faultless).state) :
    let faulty := s.run turns allowed w
    let faultless := s.run turns' allowed w.faultless
    (∃ summary, faulty.result = .ok summary ∧ faultless.result = .ok summary) ∧
      faulty.state.points = faultless.state.points ∧
      Event.settled faulty.log = faultless.log := by
  intro faulty faultless
  have hwithout : w.faultless.OfSets := ⟨hw.names, hw.unscripted⟩
  obtain ⟨hopening, hosted, hresult, hresult', rfl, hlisted, hlisted'⟩ :=
    s.listing_transparent (w := { w with aborted := false }) hretries hunnudged hbears.lists
  -- without faults the scans go through, and say how many calls there are
  have hheld : ∀ name ∈ selected allowed w.hosted,
      (w.collection name).contents = .points (w.held name) :=
    fun name hname => hw.contents (mem_hosted hname)
  have hok' : ∀ name ∈ selected allowed w.hosted,
      ∃ tally, (s.lone w.faultless name).result = .ok tally :=
    fun name hname => s.lone_faultless hsize hworks (hheld name hname)
  obtain ⟨⟨summary', hsummary'⟩, hlog', hstate'⟩ := s.run_of_lone turns' allowed hwithout
    w.unnudged_faultless hgoing hlisted' hresult' hok'
  have hlone : ∀ name ∈ selected allowed w.hosted,
      Event.settle (s.loneLog w name) = (false, s.loneLog w.faultless name) ∧
        (s.lone w name).result = (s.lone w.faultless name).result := by
    intro name hname
    refine s.lone_transparent hretries hworks (hheld name hname) ?_
    have hcalls := hbears.calls name hname
    rw [hstate' name hname] at hcalls
    exact hcalls
  -- so the scans go through with faults too, and come to the same
  obtain ⟨⟨summary, hsummary⟩, hlog, -⟩ := s.run_of_lone turns allowed hw hunnudged hgoing hlisted
    hresult fun name hname => by
      obtain ⟨tally, htally⟩ := hok' name hname
      exact ⟨tally, (hlone name hname).2.trans htally⟩
  obtain ⟨rfl, hcontents, hothers, hnames⟩ := s.run_reconciles turns allowed hsize hw hsummary
  obtain ⟨rfl, hcontents', hothers', hnames'⟩ :=
    s.run_reconciles turns' allowed hsize hwithout hsummary'
  refine ⟨⟨_, hsummary, hsummary'⟩, ?_, ?_⟩
  · rw [World.points_eq (hnames ▸ hw.names), World.points_eq (hnames' ▸ hw.names), hnames, hnames']
    refine List.filterMap_congr fun name _ => ?_
    by_cases hname : name ∈ selected allowed w.hosted
    · rw [hcontents name hname, hcontents' name hname]
      rfl
    · rw [hothers name hname, hothers' name hname]
      rfl
  · show (Event.settle faulty.log).2 = _
    have hscans := Event.settle_flatMap fun name hname => (hlone name hname).1
    have hlines := Event.settle_of_unwaited (s.unwaited_announcement allowed w.hosted)
    rw [hlog, hlog', Event.settle_append (by rw [hscans]), Event.settle_append (by rw [hlines]),
      hscans, hlines, hopening]
    rfl

/-- Two workers over a lossy world, each delete being made twice. -/
theorem retries_transparent_lossy :
    let s : Sweeper := { plan := { pageSize := 1, maxRetries := 1 }, workers := 2 }
    let faulty := s.run [1, 0, 1] [] lossy
    let faultless := s.run [] [] lossy.faultless
    (∃ summary, faulty.result = .ok summary ∧ faultless.result = .ok summary) ∧
      faulty.state.points = faultless.state.points ∧ Event.settled faulty.log = faultless.log ∧
      faulty.log.length = faultless.log.length + 8 := by
  intro s faulty faultless
  have hworks : lossy.registry.Works := ⟨rfl, rfl, by decide +kernel, by decide +kernel⟩
  have hunnudged : lossy.Unnudged := by
    intro kind name n
    simp only [lossy]
    split <;> rfl
  -- only the first delete of a collection is struck
  have hlater : ∀ kind name n, kind ≠ .delete ∨ 1 < n →
      (lossy.schedule kind name n).failure = none := by
    intro kind name n h
    have hnot : ¬ (kind = .delete ∧ n = 1) := by
      rintro ⟨rfl, rfl⟩
      rcases h with hkind | hn
      · exact hkind rfl
      · exact Nat.lt_irrefl 1 hn
    simp only [lossy, if_neg hnot]
  have hbears : lossy.Bears 1 (selected [] lossy.hosted) faultless.state := by
    refine ⟨⟨0, by decide, rfl, trivial⟩, fun name hname kind => ?_⟩
    have hnone : (lossy.collection name).made kind = 0 := by
      have hnames : ∀ name ∈ selected [] lossy.hosted, ∀ kind ∈ [CallKind.list, .scroll, .lookup,
          .delete], (lossy.collection name).made kind = 0 := by decide +kernel
      exact hnames name hname kind (by cases kind <;> decide)
    rw [hnone]
    by_cases hkind : kind = .delete
    · subst hkind
      cases (faultless.state.collection name).made .delete - 0 with
      | zero => trivial
      | succ calls =>
          exact ⟨1, Nat.le_refl 1, ⟨⟨_, rfl, rfl⟩, rfl⟩,
            bearable_of_none .delete 1 calls 2 fun n hn => hlater _ _ n (Or.inr (by omega))⟩
    · exact bearable_of_none kind 1 _ 0 fun n _ => hlater _ _ n (Or.inl hkind)
  obtain ⟨hresult, hpoints, hlog⟩ := s.retries_transparent [1, 0, 1] [] [] (by decide) (by decide)
    ofSets_lossy hworks rfl hunnudged hbears
  exact ⟨hresult, hpoints, hlog, by decide +kernel⟩

end Sweeper

end OrphanSweep
