import OrphanSweep.Proofs.SetScan
import OrphanSweep.Proofs.Sweep
import OrphanSweep.Proofs.Watch

/-! # Sweeps over sets of points

    The collections of a sweep that hold points are looked at as they are in the world.  The watch
    for them (`setWatch`) knows what each held at the start, and says that each scan reconciles its
    collection or stops at the end of a page.  If all is calm there is nothing left for a scan to
    fail of, so a run that nothing strikes returns (`run_of_calm`). -/

namespace OrphanSweep

/-! ## Quiet collections -/

/-- No strike harms the calls to come for a collection. -/
structure Collection.Quiet (schedule : Schedule) (name : String) (c : Collection) : Prop where
  scrolls   : ∀ n, c.scrolls < n → (schedule .scroll name n).Harmless
  lookups   : ∀ n, c.lookups < n → (schedule .lookup name n).Harmless
  deletions : ∀ n, c.deletions < n → (schedule .delete name n).Harmless

namespace Collection

variable {schedule : Schedule} {name : String} {c : Collection}

theorem Quiet.strike (h : c.Quiet schedule name) (call : Call) :
    (c.strike schedule name call).Harmless := by
  cases call with
  | stopping => exact ⟨rfl, rfl⟩
  | scroll cursor limit => exact h.scrolls _ (Nat.lt_succ_self _)
  | lookup ids => exact h.lookups _ (Nat.lt_succ_self _)
  | delete ids => exact h.deletions _ (Nat.lt_succ_self _)

theorem Quiet.answer (h : c.Quiet schedule name) (registry : Registry) (stop : Bool)
    (strike : Strike) (call : Call) :
    (c.answer registry name stop strike call).2.Quiet schedule name := by
  cases call with
  | stopping => exact h
  | scroll cursor limit =>
      exact ⟨fun n hn => h.scrolls n (Nat.lt_of_succ_lt hn), h.lookups, h.deletions⟩
  | lookup ids =>
      exact ⟨h.scrolls, fun n hn => h.lookups n (Nat.lt_of_succ_lt hn), h.deletions⟩
  | delete ids =>
      exact ⟨h.scrolls, h.lookups, fun n hn => h.deletions n (Nat.lt_of_succ_lt hn)⟩

end Collection

/-! ## The watch -/

/-- What the worlds of a sweep have in common with the one it began in; if all is calm, none of them
    tells the scans to stop. -/
structure World.Steady (stop : Nat) (calm : Prop) (before w : World) : Prop where
  registry : w.registry = before.registry
  schedule : w.schedule = before.schedule
  names    : w.collections.map Collection.name = before.collections.map Collection.name
  going    : calm → w.stopping stop = false

/-- A call keeps a world steady that is for a collection that is there, and quiet if all is calm. -/
theorem World.Steady.answer {stop : Nat} {calm : Prop} {before w : World} {name : String}
    (h : World.Steady stop calm before w)
    (hname : name ∈ before.collections.map Collection.name)
    (hquiet : calm → (w.collection name).Quiet before.schedule name) (call : Call) :
    World.Steady stop calm before (World.answer stop name call w).state := by
  refine ⟨?_, ?_, ?_, ?_⟩
  · rw [World.registry_answer, h.registry]
  · rw [World.schedule_answer, h.schedule]
  · rw [World.names_answer _ _ _ _ (h.names ▸ hname), h.names]
  · intro hc
    rw [World.stopping, World.signals_answer, World.aborted_answer, h.schedule,
      ((hquiet hc).strike call).nudges]
    exact h.going hc

/-- Watches the collections of a sweep that held points in the world it began in. -/
def setWatch (s : Sweeper) (calm : Prop) (before : World) : Watch s.stop Collection where
  stable := World.Steady s.stop calm before
  view name _ w := w.collection name
  inv name c := name ∈ before.collections.map Collection.name ∧
    (calm → c.Quiet before.schedule name)
  may _ _ _ := True
  rule name := Collection.Answers calm before.registry name
  post name := Scan.Reconciled s.plan before.registry name calm (before.held name)
  answer := by
    rintro name call said w hsteady ⟨hname, hquiet⟩ -
    refine ⟨hsteady.answer hname hquiet call, ⟨hname, ?_⟩, ?_⟩
    · intro hc
      rw [World.collection_answer]
      exact (hquiet hc).answer _ _ _ _
    · refine ⟨w.stopping s.stop, (w.collection name).strike w.schedule name call, ?_, ?_⟩
      · intro hc
        rw [hsteady.schedule]
        exact ⟨hsteady.going hc, ((hquiet hc).strike call).failure⟩
      · rw [World.collection_answer, World.result_answer, hsteady.registry]

/-! ## Worlds of sets -/

/-- Each collection of the world holds points or is not there, and no name comes twice. -/
structure World.OfSets (w : World) : Prop where
  names      : (w.collections.map Collection.name).Nodup
  unscripted : ∀ c ∈ w.collections, ∀ answers, c.contents ≠ .scripted answers

namespace World.OfSets

variable {w : World} {name : String}

/-- Hosted collections are those that hold points. -/
theorem contents (h : w.OfSets) (hname : name ∈ w.hosted) :
    (w.collection name).contents = .points (w.held name) := by
  obtain ⟨c, hc, rfl⟩ := List.mem_map.mp hname
  obtain ⟨hmem, hhosted⟩ := List.mem_filter.mp hc
  have hfind : w.collection c.name = c := Collection.find_of_mem h.names hmem
  rw [World.held, hfind]
  cases hcontents : c.contents with
  | missing => rw [hcontents] at hhosted; cases hhosted
  | points held => rfl
  | scripted answers => exact absurd hcontents (h.unscripted c hmem answers)

theorem mem_names (hname : name ∈ w.hosted) : name ∈ w.collections.map Collection.name :=
  w.hosted_sublist.subset hname

theorem hosted_nodup (h : w.OfSets) : w.hosted.Nodup := h.names.sublist w.hosted_sublist

end World.OfSets

/-- Nothing is left to strike a sweep of some collections, and nothing tells it to stop. -/
structure World.Calm (stop : Nat) (names : List String) (w : World) : Prop where
  works : w.registry.Works
  going : w.signals.isSet stop = false
  lists : ∀ n, w.listings < n → (w.schedule .list none n).Harmless
  quiet : ∀ name ∈ names, (w.collection name).Quiet w.schedule name

namespace Sweeper

theorem selected_sublist (allowed hosted : List String) :
    (selected allowed hosted).Sublist hosted := by
  rw [selected]
  split
  · exact List.Sublist.refl hosted
  · exact List.filter_sublist

theorem mem_hosted {allowed : List String} {w : World} {name : String}
    (h : name ∈ selected allowed w.hosted) : name ∈ w.hosted :=
  (selected_sublist allowed w.hosted).subset h

variable (s : Sweeper) {calm : Prop} {w listed : World} {names : List String}

/-- The scan of a collection shows in no other. -/
theorem apart_setWatch {seen called : String} (h : seen ≠ called) :
    (setWatch s calm w).Apart seen called :=
  fun call _ w' _ => World.collection_answer_of_ne s.stop called call w' h

/-- Scans are aborted only after one of them has failed. -/
theorem abortable_setWatch : (setWatch s calm w).Abortable := by
  rintro w' hsteady ⟨name, halt, c, hnot, -⟩
  refine ⟨⟨hsteady.registry, hsteady.schedule, hsteady.names, ?_⟩, fun _ _ => rfl⟩
  intro hc
  exact absurd hc hnot

theorem collection_listed (hlisted : ({ w with aborted := false } : World).Relisted calm listed)
    (name : String) : listed.collection name = w.collection name :=
  World.Listed.collection hlisted.listed name

/-- After the listing the world is as steady as it was. -/
theorem steady_listed (hlisted : ({ w with aborted := false } : World).Relisted calm listed)
    (hgoing : calm → w.signals.isSet s.stop = false) : World.Steady s.stop calm w listed where
  registry := hlisted.listed.registry
  schedule := hlisted.listed.schedule
  names    := congrArg (List.map Collection.name) hlisted.listed.collections
  going    := by
    intro hc
    rw [World.stopping, hlisted.signals hc, hlisted.listed.aborted]
    show (w.signals.isSet s.stop || false) = false
    rw [hgoing hc]
    rfl

/-- The collections of a world of sets are ready to be scanned. -/
theorem ready_setWatch (hsize : 1 ≤ s.plan.pageSize) (hw : w.OfSets)
    (hlisted : ({ w with aborted := false } : World).Relisted calm listed)
    (hcalm : calm → w.Calm s.stop names) :
    ∀ name ∈ names, name ∈ w.hosted →
      (setWatch s calm w).Ready s.plan name ((setWatch s calm w).view name [] listed) := by
  intro name hname hhosted
  have hsame : listed.collection name = w.collection name := collection_listed hlisted name
  rintro w' - hview
  have hview' : w'.collection name = w.collection name := hview.trans hsame
  refine ⟨⟨World.OfSets.mem_names hhosted, ?_⟩, ?_⟩
  · intro hc
    show (listed.collection name).Quiet w.schedule name
    rw [hsame]
    exact (hcalm hc).quiet name hname
  · rw [← hview]
    refine Scan.meets_scan s.plan w.registry name calm (w.held name) ?_
      (fun hc => (hcalm hc).works) ?_
    · rw [Plan.pageLength]
      omega
    · rw [hview']
      exact hw.contents hhosted

/-- The scans of a run over a world of sets keep to the watch. -/
theorem watched_sets (turns : List Nat) (hsize : 1 ≤ s.plan.pageSize) (hw : w.OfSets)
    (hlisted : ({ w with aborted := false } : World).Relisted calm listed)
    (hnodup : names.Nodup) (hhosted : ∀ name ∈ names, name ∈ w.hosted)
    (hcalm : calm → w.Calm s.stop names) :
    (setWatch s calm w).Watched names listed (s.scanAll turns names listed) ∧
    ∀ tallies, (s.scanAll turns names listed).result = .ok tallies →
      (setWatch s calm w).Through names (s.scanAll turns names listed) tallies := by
  obtain ⟨hwatched, hthrough⟩ := Watch.watched_scanAll turns s.abortable_setWatch
    (s.steady_listed hlisted (fun hc => (hcalm hc).going))
    (fun name hname => s.ready_setWatch hsize hw hlisted hcalm name hname (hhosted name hname))
    (Watch.pairwise_apart hnodup fun _ _ => s.apart_setWatch)
  exact ⟨hwatched, hthrough hnodup fun _ _ _ hpost => by rw [hpost.1]; rfl⟩

/-! ## Runs -/

/-- What a run over a world of sets leaves has the names and the registry of what it found. -/
theorem kept_run (turns : List Nat) (allowed : List String) (hsize : 1 ≤ s.plan.pageSize)
    (hw : w.OfSets) :
    World.Steady s.stop False w (s.run turns allowed w).state := by
  obtain ⟨listed, hlisted, ⟨-, honly⟩ | hscanned⟩ :=
    s.run_cases turns allowed w False (fun h => h.elim)
  · rw [honly.state]
    exact s.steady_listed hlisted (fun h => h.elim)
  · rw [hscanned.state]
    exact (s.watched_sets turns hsize hw hlisted
      (hw.hosted_nodup.sublist (selected_sublist allowed w.hosted))
      (fun _ => mem_hosted) (fun h => h.elim)).1.stable

/-- **A run that nothing strikes returns.** -/
theorem run_of_calm (turns : List Nat) (allowed : List String) (hsize : 1 ≤ s.plan.pageSize)
    (hw : w.OfSets) (hcalm : w.Calm s.stop (selected allowed w.hosted)) :
    ∃ summary, (s.run turns allowed w).result = .ok summary := by
  obtain ⟨listed, hlisted, ⟨hnot, -⟩ | hscanned⟩ :=
    s.run_cases turns allowed w True (fun _ => hcalm.lists)
  · exact absurd trivial hnot
  · have hwatched := (s.watched_sets turns hsize hw hlisted
      (hw.hosted_nodup.sublist (selected_sublist allowed w.hosted))
      (fun _ => mem_hosted) (fun _ => hcalm)).1
    rw [hscanned.result]
    cases hresult : (s.scanAll turns (selected allowed w.hosted) listed).result with
    | ok tallies => exact ⟨_, rfl⟩
    | error failure =>
        obtain ⟨name, halt, c, hnot, -⟩ := hwatched.failed failure hresult
        exact absurd trivial hnot

end Sweeper

end OrphanSweep
