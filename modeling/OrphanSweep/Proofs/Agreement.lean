import OrphanSweep.Proofs.ExactRun
import OrphanSweep.Proofs.Lone

/-! # Any number of workers comes to the same

    A sweep in which no scan fails and nothing tells the scans to stop tells what each scan comes to
    by itself (`told_scanEach`, `told_scanTogether`).  What was told holds for every other way to
    make the same scans, one after the other or taking turns (`scanAll_of_told`).  So runs that
    differ only in their workers and their turns agree (`runs_agree`). -/

namespace OrphanSweep

/-! ## What scans come to -/

/-- What the scan of a collection comes to. -/
structure Told where
  name       : String
  tally      : Tally
  said       : Said
  collection : Collection

/-- The scan of the collection comes to this in every world that goes on. -/
structure Told.Foretells (plan : Plan) (stop : Nat) (base : World) (e : Told) : Prop where
  counts : e.tally.collection = e.name
  keeps  : Dialogue.Keeps (Lone.May stop base e.name) (Lone.Rule base e.name)
    (Lone.Ends (.ok e.tally) (e.said, e.collection))
    (scan plan e.name (base.collection e.name).contents.pageBound) ([], base.collection e.name)

/-- What the scans of some collections come to, in order. -/
structure Forecast (plan : Plan) (stop : Nat) (base : World) (names : List String)
    (told : List Told) : Prop where
  names     : told.map Told.name = names
  foretells : ∀ e ∈ told, e.Foretells plan stop base

theorem Forecast.nil {plan : Plan} {stop : Nat} {base : World} : Forecast plan stop base [] [] :=
  ⟨rfl, fun _ he => nomatch he⟩

theorem Forecast.cons {plan : Plan} {stop : Nat} {base : World} {names : List String}
    {told : List Told} {e : Told} (he : e.Foretells plan stop base)
    (h : Forecast plan stop base names told) :
    Forecast plan stop base (e.name :: names) (e :: told) where
  names     := by rw [List.map_cons, h.names]
  foretells := fun other hother => by
    rcases List.mem_cons.mp hother with rfl | hmem
    · exact he
    · exact h.foretells other hmem

/-- Scans that have come to what was told. -/
structure Fulfilled (stop : Nat) (base : World) (told : List Told) (scans : Scans) : Prop where
  result      : scans.result = .ok (told.map Told.tally)
  records     : scans.records.map (fun r => (r.name, r.said)) =
    told.map fun e => (e.name, e.said)
  collections : ∀ e ∈ told, scans.state.collection e.name = e.collection
  others      : ∀ name, name ∉ told.map Told.name →
    scans.state.collection name = base.collection name
  going       : World.Going stop base scans.state

/-- **Scans that have come to the same have left the same.** -/
theorem Fulfilled.collections_eq {stop : Nat} {base : World} {told : List Told}
    {scans scans' : Scans} (h : Fulfilled stop base told scans)
    (h' : Fulfilled stop base told scans') :
    scans.state.collections = scans'.state.collections := by
  refine h.going.places.ext h'.going.places fun name _ => ?_
  show scans.state.collection name = scans'.state.collection name
  by_cases hname : name ∈ told.map Told.name
  · obtain ⟨e, he, rfl⟩ := List.mem_map.mp hname
    rw [h.collections e he, h'.collections e he]
  · rw [h.others name hname, h'.others name hname]

/-! ## Watching the scans come to it -/

/-- Whatever is on the right of a pairing is paired with something on the left. -/
theorem exists_of_forall₂ {α β : Type} {pairs : α → β → Prop} {l : List α} {m : List β}
    (h : List.Forall₂ pairs l m) {b : β} (hb : b ∈ m) : ∃ a ∈ l, pairs a b := by
  induction h with
  | nil => cases hb
  | cons hpair _ ih =>
      rcases List.mem_cons.mp hb with rfl | hmem
      · exact ⟨_, List.mem_cons_self, hpair⟩
      · obtain ⟨a, ha, hpair'⟩ := ih hmem
        exact ⟨a, List.mem_cons_of_mem _ ha, hpair'⟩

namespace Sweeper

variable (s : Sweeper) {base : World} {names : List String} {told : List Told}

/-- Watches each scan come to what was told of it. -/
def toldWatch (base : World) (told : List Told) : Watch s.stop Sight where
  stable := World.Going s.stop base
  view name said w := Lone.sight name said w
  inv name _ := name ∈ base.collections.map Collection.name
  may := Lone.May s.stop base
  rule := Lone.Rule base
  post name result v := ∃ e ∈ told, e.name = name ∧ Lone.Ends (.ok e.tally)
    (e.said, e.collection) result v
  answer := by
    rintro name call said w hgoing hname hmay
    have hunset : (World.answer s.stop name call w).state.signals.isSet s.stop = false :=
      (hgoing.isSet_answer call).trans hmay
    exact ⟨hgoing.answer hname call hunset, hname, Lone.rule_answer hgoing call⟩

/-- Scans whose ends are among those told, in their order, have come to what was told. -/
theorem told_of_forall₂ {view : ScanRecord → Sight} :
    ∀ {rest : List Told} {records : List ScanRecord} {tallies : List Tally},
      (told.map Told.name).Nodup → (∀ e ∈ rest, e ∈ told) →
      records.map ScanRecord.name = rest.map Told.name →
      List.Forall₂ (fun (r : ScanRecord) tally => ∃ e ∈ told, e.name = r.name ∧
        Lone.Ends (.ok e.tally) (e.said, e.collection) (.ok tally : Except Halt Tally) (view r))
        records tallies →
      tallies = rest.map Told.tally ∧
      List.Forall₂ (fun r e => r.name = e.name ∧ view r = (e.said, e.collection)) records rest := by
  intro rest
  induction rest with
  | nil =>
      intro records tallies hnodup hrest hnames hends
      cases records with
      | cons r records => cases hnames
      | nil => cases hends; exact ⟨rfl, .nil⟩
  | cons e rest ih =>
      intro records tallies hnodup hrest hnames hends
      cases hends with
      | nil => cases hnames
      | @cons r tally records tallies hfirst hothers =>
          obtain ⟨hname, hnames'⟩ := List.cons.inj hnames
          obtain ⟨e', he', hname', htally, hview⟩ := hfirst
          -- no name was told twice, so this scan came to what was told of it
          have hsame : e' = e := List.inj_on_of_nodup_map hnodup he'
            (hrest e List.mem_cons_self) (hname'.trans hname)
          subst hsame
          obtain ⟨htallies, hrecords⟩ := ih hnodup
            (fun other hother => hrest other (List.mem_cons_of_mem _ hother)) hnames' hothers
          refine ⟨?_, .cons ⟨hname, hview⟩ hrecords⟩
          rw [List.map_cons, ← htallies, Except.ok.inj htally]

theorem apart_toldWatch {seen called : String} (h : seen ≠ called) :
    (s.toldWatch base told).Apart seen called :=
  fun call _ w _ => Prod.ext rfl (World.collection_answer_of_ne s.stop called call w h)

/-- No scan fails, so none is aborted. -/
theorem abortable_toldWatch : (s.toldWatch base told).Abortable := by
  rintro w hgoing ⟨name, halt, v, e, he, hname, hend, -⟩
  cases hend

theorem ready_toldWatch (hnames : ∀ name ∈ names, name ∈ base.collections.map Collection.name)
    (h : Forecast s.plan s.stop base names told) :
    ∀ name ∈ names, (s.toldWatch base told).Ready s.plan name
      ((s.toldWatch base told).view name [] base) := by
  intro name hname w hgoing hview
  obtain ⟨e, he, rfl⟩ := List.mem_map.mp (h.names ▸ hname)
  have hcollection : w.collection e.name = base.collection e.name := congrArg Prod.snd hview
  refine ⟨hnames _ hname, ?_⟩
  rw [hcollection]
  exact (h.foretells e he).keeps.mono fun result last hend => ⟨e, he, rfl, hend⟩

/-- **What was told holds for every way to make the scans.** -/
theorem scanAll_of_told (turns : List Nat) (hbase : World.Going s.stop base base)
    (hnodup : names.Nodup) (hnames : ∀ name ∈ names, name ∈ base.collections.map Collection.name)
    (h : Forecast s.plan s.stop base names told) :
    Fulfilled s.stop base told (s.scanAll turns names base) := by
  obtain ⟨hwatched, hthrough⟩ := Watch.watched_scanAll turns s.abortable_toldWatch hbase
    (s.ready_toldWatch hnames h) (Watch.pairwise_apart hnodup fun _ _ => s.apart_toldWatch)
  cases hresult : (s.scanAll turns names base).result with
  | error failure =>
      obtain ⟨name, halt, v, e, he, hname, hend, -⟩ := hwatched.failed failure hresult
      cases hend
  | ok tallies =>
      have hcounts : ∀ name tally v, (s.toldWatch base told).post name (.ok tally) v →
          tally.collection = name := by
        rintro name tally v ⟨e, he, rfl, hend, -⟩
        rw [Except.ok.inj hend]
        exact (h.foretells e he).counts
      obtain ⟨hbegun, hends⟩ := hthrough hnodup hcounts tallies hresult
      have hnodupTold : (told.map Told.name).Nodup := h.names ▸ hnodup
      obtain ⟨htallies, hrecords⟩ := told_of_forall₂ hnodupTold (fun _ he => he)
        (hbegun.trans h.names.symm) hends
      refine ⟨by rw [hresult, htallies], ?_, ?_, ?_, hwatched.stable⟩
      · rw [← List.forall₂_eq_eq_eq, List.forall₂_map_left_iff, List.forall₂_map_right_iff]
        exact hrecords.imp fun _ _ hpair =>
          Prod.ext hpair.1 (congrArg Prod.fst hpair.2)
      · intro e he
        obtain ⟨r, -, hname, hview⟩ := exists_of_forall₂ hrecords he
        rw [← hname]
        exact congrArg Prod.snd hview
      · intro name hname
        rw [h.names] at hname
        exact congrArg Prod.snd (hwatched.frame name [] fun other hother =>
          s.apart_toldWatch fun heq => hname (heq ▸ hother))

/-! ## Telling it from a sweep that went through -/

theorem onward_scanEach (names : List String) :
    ∀ w : World, w.signals.Onward (s.scanEach names w).state.signals := by
  induction names with
  | nil => intro w; exact Signals.Onward.refl _
  | cons name names ih =>
      intro w
      have hfirst : w.signals.Onward (s.scanOne name w).state.signals := Lone.onward_run _ w
      cases hresult : (s.scanOne name w).result with
      | error halt => rw [scanEach_error names hresult]; exact hfirst
      | ok tally => rw [scanEach_ok names hresult]; exact hfirst.trans (ih _)

/-- A scan leaves every other collection alone. -/
theorem collection_scanOne_of_ne {name other : String} (h : other ≠ name) (w : World) :
    (s.scanOne name w).state.collection other = w.collection other := by
  have hanswer : ∀ call v, v.collection other = w.collection other →
      (World.answer s.stop name call v).state.collection other = w.collection other :=
    fun call v hv => (World.collection_answer_of_ne s.stop name call v h).trans hv
  exact Dialogue.run_preserves hanswer _ rfl

/-- A scan that has gone through tells what it comes to. -/
theorem foretells_scanOne {name : String} {w : World} {tally : Tally}
    (hgoing : World.Going s.stop base w) (hsame : w.collection name = base.collection name)
    (hname : name ∈ base.collections.map Collection.name)
    (hresult : (s.scanOne name w).result = .ok tally)
    (hunset : (s.scanOne name w).state.signals.isSet s.stop = false) :
    Told.Foretells s.plan s.stop base ⟨name, tally, Line.answered (s.scanOne name w).transcript,
      (s.scanOne name w).state.collection name⟩ ∧
    World.Going s.stop base (s.scanOne name w).state := by
  obtain ⟨hkeeps, hgoing'⟩ := Lone.lone_of_run hname
    (scan s.plan name (w.collection name).contents.pageBound) [] w hgoing hunset
  refine ⟨⟨Scan.collection_of_run s.plan name _ _ w hresult, ?_⟩, hgoing'⟩
  show Dialogue.Keeps _ _ (Lone.Ends (.ok tally) _)
    (scan s.plan name (base.collection name).contents.pageBound) ([], base.collection name)
  rw [← hsame, ← hresult]
  exact hkeeps

/-- Scans one after the other that have gone through tell what each of them comes to. -/
theorem told_scanEach (names : List String) :
    ∀ (w : World) (tallies : List Tally), World.Going s.stop base w →
      (∀ name ∈ names, w.collection name = base.collection name) → names.Nodup →
      (∀ name ∈ names, name ∈ base.collections.map Collection.name) →
      (s.scanEach names w).result = .ok tallies →
      (s.scanEach names w).state.signals.isSet s.stop = false →
      ∃ told, Forecast s.plan s.stop base names told := by
  induction names with
  | nil =>
      intro w tallies _ _ _ _ _ _
      exact ⟨[], .nil⟩
  | cons name names ih =>
      intro w tallies hgoing hsame hnodup hnames htallies hunset
      obtain ⟨hfirst, hrest⟩ := List.nodup_cons.mp hnodup
      cases hresult : (s.scanOne name w).result with
      | error halt => rw [scanEach_error names hresult] at htallies; cases htallies
      | ok tally =>
          rw [scanEach_ok names hresult] at htallies hunset
          cases hothers : (s.scanEach names (s.scanOne name w).state).result with
          | error failure => simp only at htallies; rw [hothers] at htallies; cases htallies
          | ok others =>
              have hfirstUnset : (s.scanOne name w).state.signals.isSet s.stop = false :=
                (s.onward_scanEach names _).unset hunset
              obtain ⟨hforetells, hgoing'⟩ := s.foretells_scanOne hgoing
                (hsame name List.mem_cons_self) (hnames name List.mem_cons_self) hresult hfirstUnset
              -- the others find their collections as this scan found them
              have hsame' : ∀ other ∈ names,
                  (s.scanOne name w).state.collection other = base.collection other := by
                intro other hother
                have hne : other ≠ name := fun heq => hfirst (heq ▸ hother)
                rw [s.collection_scanOne_of_ne hne]
                exact hsame other (List.mem_cons_of_mem name hother)
              obtain ⟨told, htold⟩ := ih (s.scanOne name w).state others hgoing' hsame' hrest
                (fun other hother => hnames other (List.mem_cons_of_mem name hother)) hothers hunset
              exact ⟨_, htold.cons hforetells⟩

/-! ## Telling it from a pool -/

/-- Every scan of a pool has come from its start to where it is as a lone scan does: what it keeps
    to from here on, it has kept to from the start. -/
structure Traced (plan : Plan) (stop : Nat) (base : World) (names : List String) (pool : Pool) :
    Prop where
  names   : pool.names = names
  going   : World.Going stop base pool.world
  tallies : ∀ scanner ∈ pool.scanners, Scan.Tallies scanner.record.name scanner.talk
  keeps   : ∀ scanner ∈ pool.scanners, ∀ post,
    scanner.talk.Keeps (Lone.May stop base scanner.record.name)
      (Lone.Rule base scanner.record.name) post
      (Lone.sight scanner.record.name scanner.record.said pool.world) →
    Dialogue.Keeps (Lone.May stop base scanner.record.name) (Lone.Rule base scanner.record.name)
      post (scan plan scanner.record.name (base.collection scanner.record.name).contents.pageBound)
      ([], base.collection scanner.record.name)

theorem onward_step {stop : Nat} {name : String} {α : Type} (talk : Talk α) (w : World) :
    w.signals.Onward (talk.step (World.answer stop name) w).state.signals :=
  Dialogue.step_preserves (fun v : World => w.signals.Onward v.signals) talk (Signals.Onward.refl _)
    fun call => World.onward_answer stop name call w

theorem collection_step_of_ne {stop : Nat} {name other : String} (h : other ≠ name) {α : Type}
    (talk : Talk α) (w : World) :
    (talk.step (World.answer stop name) w).state.collection other = w.collection other :=
  Dialogue.step_preserves (fun v : World => v.collection other = w.collection other) talk rfl
    fun call => World.collection_answer_of_ne stop name call w h

theorem tallies_step {stop : Nat} {name : String} {talk : Talk (Except Halt Tally)} {w : World}
    (h : Scan.Tallies name talk) :
    Scan.Tallies name (talk.step (World.answer stop name) w).result := by
  cases talk with
  | ended value => exact h
  | shows event rest => exact h
  | asks call resume => exact h.2 _ () trivial

/-- A move that does not set the stop event leaves every scan traced. -/
theorem traced_move {plan : Plan} {stop place : Nat} {pool : Pool} {scanner : Scanner}
    (hnodup : names.Nodup) (hnames : ∀ name ∈ names, name ∈ base.collections.map Collection.name)
    (h : Traced plan stop base names pool) (hplace : pool.scanners[place]? = some scanner)
    (hunset : (pool.move stop place).world.signals.isSet stop = false) :
    Traced plan stop base names (pool.move stop place) := by
  have hmem : scanner ∈ pool.scanners := List.mem_iff_getElem?.mpr ⟨place, hplace⟩
  have hname : scanner.record.name ∈ names := by
    rw [← h.names]
    exact List.mem_map_of_mem hmem
  have hworld : (pool.move stop place).world = (scanner.made stop pool.world).state :=
    Pool.world_move hplace
  rw [hworld] at hunset
  have hnodupPool : pool.names.Nodup := h.names ▸ hnodup
  refine ⟨?_, ?_, ?_, ?_⟩
  · rw [Pool.names_move hplace, h.names]
  · rw [hworld]
    exact Lone.going_step h.going (hnames _ hname) hunset
  · intro last hlast
    rcases Pool.mem_move_of_nodup hnodupPool hplace hlast with rfl | ⟨hold, -⟩
    · exact tallies_step (h.tallies scanner hmem)
    · exact h.tallies last hold
  · intro last hlast post hpost
    rw [hworld] at hpost
    rcases Pool.mem_move_of_nodup hnodupPool hplace hlast with rfl | ⟨hold, hne⟩
    · -- the node that was made is put back before the rest
      refine h.keeps scanner hmem post (Lone.lone_of_step h.going hunset ?_)
      rw [Scanner.said_moved] at hpost
      exact hpost
    · refine h.keeps last hold post ?_
      have hsame : Lone.sight last.record.name last.record.said
            (scanner.made stop pool.world).state =
          Lone.sight last.record.name last.record.said pool.world :=
        Prod.ext rfl (collection_step_of_ne hne scanner.talk pool.world)
      rw [← hsame]
      exact hpost

/-- **Every schedule leaves the scans traced** that ends without a failure and with the stop event
    unset: looking back, there has been none, and it has not been set. -/
theorem traced_leads {plan : Plan} {stop : Nat} {pool later : Pool} (hnodup : names.Nodup)
    (hnames : ∀ name ∈ names, name ∈ base.collections.map Collection.name)
    (h : Traced plan stop base names pool) (hleads : pool.Leads stop later) :
    later.failure = none → later.world.signals.isSet stop = false →
      Traced plan stop base names later := by
  induction hleads with
  | refl => intro _ _; exact h
  | @move now place scanner hearlier hplace hgoing ih =>
      intro hnone hunset
      have hworld : (now.move stop place).world = (scanner.made stop now.world).state :=
        Pool.world_move hplace
      have hbefore : now.world.signals.isSet stop = false := by
        rw [hworld] at hunset
        exact (onward_step scanner.talk now.world).unset hunset
      exact traced_move hnodup hnames (ih (Pool.failure_of_move hplace hnone) hbefore) hplace hunset
  | @heed now hearlier ih =>
      intro hnone hunset
      have hnone' : now.failure = none := hnone
      rw [Pool.heed_of_none hnone'] at hunset ⊢
      exact ih hnone' hunset

theorem traced_start (plan : Plan) {stop : Nat} (hbase : World.Going stop base base)
    (names : List String) :
    Traced plan stop base names (Pool.start plan names base) := by
  refine ⟨?_, hbase, ?_, ?_⟩
  · rw [Pool.names, Pool.start, List.map_map]
    exact List.map_id names
  · intro scanner hmem
    obtain ⟨name, -, rfl⟩ := List.mem_map.mp hmem
    exact Scan.tallies_scan plan name _
  · intro scanner hmem post hpost
    obtain ⟨name, -, rfl⟩ := List.mem_map.mp hmem
    exact hpost

/-- Ended scans that are traced tell what they come to. -/
theorem forecast_of_traced {plan : Plan} {stop : Nat} {pool : Pool}
    (h : Traced plan stop base names pool)
    (hended : ∀ scanner ∈ pool.scanners, ∃ tally, scanner.talk = .ended (.ok tally)) :
    ∃ told, Forecast plan stop base names told := by
  have hall : ∀ scanners : List Scanner, (∀ scanner ∈ scanners, scanner ∈ pool.scanners) →
      ∃ told, Forecast plan stop base (scanners.map fun scanner => scanner.record.name) told := by
    intro scanners
    induction scanners with
    | nil => intro _; exact ⟨[], .nil⟩
    | cons scanner scanners ih =>
        intro hmem
        obtain ⟨told, htold⟩ := ih fun other hother => hmem other (List.mem_cons_of_mem _ hother)
        have hscanner := hmem scanner List.mem_cons_self
        obtain ⟨tally, htalk⟩ := hended scanner hscanner
        have hcounts := h.tallies scanner hscanner
        have hkeeps := h.keeps scanner hscanner (Lone.Ends (.ok tally)
          (Lone.sight scanner.record.name scanner.record.said pool.world))
        rw [htalk] at hcounts hkeeps
        have hforetells : Told.Foretells plan stop base
            ⟨scanner.record.name, tally, scanner.record.said,
              pool.world.collection scanner.record.name⟩ := ⟨hcounts, hkeeps ⟨rfl, rfl⟩⟩
        exact ⟨_, htold.cons hforetells⟩
  obtain ⟨told, htold⟩ := hall pool.scanners fun _ h => h
  exact ⟨told, h.names ▸ htold⟩

/-- Scans that have taken turns and gone through tell what each of them comes to. -/
theorem told_scanTogether (turns : List Nat) (hbase : World.Going s.stop base base)
    (hnodup : names.Nodup) (hnames : ∀ name ∈ names, name ∈ base.collections.map Collection.name)
    {tallies : List Tally} (hresult : (s.scanTogether turns names base).result = .ok tallies)
    (hunset : (s.scanTogether turns names base).state.signals.isSet s.stop = false) :
    ∃ told, Forecast s.plan s.stop base names told := by
  cases hfailure : (s.pooled turns names base).failure with
  | some failure => rw [scanTogether_failed hfailure] at hresult; cases hresult
  | none =>
      exact forecast_of_traced (traced_leads hnodup hnames (traced_start s.plan hbase names)
        (s.leads_pooled turns names base) hfailure hunset) fun _ => pooled_unfailed hfailure

/-! ## Runs -/

/-- Scans that have gone through, either way, tell what each of them comes to. -/
theorem told_scanAll (turns : List Nat) (hbase : World.Going s.stop base base)
    (hnodup : names.Nodup) (hnames : ∀ name ∈ names, name ∈ base.collections.map Collection.name)
    {tallies : List Tally} (hresult : (s.scanAll turns names base).result = .ok tallies)
    (hunset : (s.scanAll turns names base).state.signals.isSet s.stop = false) :
    ∃ told, Forecast s.plan s.stop base names told := by
  rw [scanAll] at hresult hunset
  split at hresult
  · rename_i hshared
    rw [if_pos hshared] at hunset
    exact s.told_scanTogether turns hbase hnodup hnames hresult hunset
  · rename_i hshared
    rw [if_neg hshared] at hunset
    exact s.told_scanEach names base tallies hbase (fun _ _ => rfl) hnodup hnames hresult hunset

theorem onward_scanAll (turns : List Nat) (names : List String) (w : World) :
    w.signals.Onward (s.scanAll turns names w).state.signals := by
  have htogether : ∀ {pool later : Pool}, pool.Leads s.stop later →
      pool.world.signals.Onward later.world.signals := by
    intro pool later hleads
    induction hleads with
    | refl => exact Signals.Onward.refl _
    | heed _ ih => exact ih
    | @move now place scanner _ hplace _ ih =>
        rw [Pool.world_move hplace]
        exact ih.trans (onward_step scanner.talk now.world)
  rw [scanAll]
  split
  · exact htogether (Pool.leads_run (Pool.start s.plan names w) turns)
  · exact s.onward_scanEach names w

/-- The same sweeper with another number of workers. -/
def withWorkers (n : Nat) (hn : 0 < n) : Sweeper := { s with workers := n, workers_pos := hn }

/-- Scans that have gone through come to the same with any other number of workers. -/
theorem scans_agree (n : Nat) (hn : 0 < n) (turns turns' : List Nat)
    (hbase : World.Going s.stop base base) (hnodup : names.Nodup)
    (hnames : ∀ name ∈ names, name ∈ base.collections.map Collection.name) {tallies : List Tally}
    (hresult : (s.scanAll turns names base).result = .ok tallies)
    (hunset : (s.scanAll turns names base).state.signals.isSet s.stop = false) :
    let here := s.scanAll turns names base
    let there := (s.withWorkers n hn).scanAll turns' names base
    there.result = .ok tallies ∧ tallies.map Tally.collection = names ∧
      there.records.map (fun r => (r.name, r.said)) =
        here.records.map (fun r => (r.name, r.said)) ∧
      there.state.collections = here.state.collections := by
  intro here there
  obtain ⟨told, htold⟩ := s.told_scanAll turns hbase hnodup hnames hresult hunset
  have hhere : Fulfilled s.stop base told here := s.scanAll_of_told turns hbase hnodup hnames htold
  have hthere : Fulfilled s.stop base told there :=
    (s.withWorkers n hn).scanAll_of_told turns' hbase hnodup hnames htold
  obtain rfl : told.map Told.tally = tallies := Except.ok.inj (hhere.result.symm.trans hresult)
  refine ⟨hthere.result, ?_, ?_, ?_⟩
  · rw [← htold.names, List.map_map]
    exact List.map_congr_left fun e he => (htold.foretells e he).counts
  · rw [hthere.records, hhere.records]
  · exact hthere.collections_eq hhere

/-- **Any number of workers comes to the same.**  If a run returns and nothing has told it to stop,
    a run over the same world with any other number of workers, whose scans take any other turns,
    returns the same summary, with its tallies in the order of the hosted collections; in each
    collection the same was asked and answered; and the collections are left the same. -/
theorem runs_agree (n : Nat) (hn : 0 < n) (turns turns' : List Nat) (allowed : List String)
    {w : World} (hnames : w.hosted.Nodup) {summary : Summary}
    (hok : (s.run turns allowed w).result = .ok summary)
    (hunset : (s.run turns allowed w).state.signals.isSet s.stop = false) :
    let made := s.run turns allowed w
    let other := (s.withWorkers n hn).run turns' allowed w
    other.result = .ok summary ∧
    summary.tallies.map Tally.collection = selected allowed w.hosted ∧
    other.records.map (fun r => (r.name, r.said)) = made.records.map (fun r => (r.name, r.said)) ∧
    other.state.collections = made.state.collections ∧
    other.state.points = made.state.points := by
  intro made other
  obtain ⟨hlisted, hlistedOk | ⟨-, refusal, herror⟩⟩ :=
    s.listing_spec { w with aborted := false } False (fun h => h.elim)
  · have hmade : s.HasScanned made (s.scanAll turns (selected allowed w.hosted)
        (s.listing { w with aborted := false }).state) := s.run_of_listed turns allowed hlistedOk
    have hother : (s.withWorkers n hn).HasScanned other
        ((s.withWorkers n hn).scanAll turns' (selected allowed w.hosted)
          (s.listing { w with aborted := false }).state) :=
      (s.withWorkers n hn).run_of_listed turns' allowed hlistedOk
    have hnodup : (selected allowed w.hosted).Nodup :=
      hnames.sublist (selected_sublist allowed w.hosted)
    -- both runs scan from the world that the listing has left
    generalize (s.listing { w with aborted := false }).state = base at hlisted hmade hother
    have hthere : ∀ name ∈ selected allowed w.hosted,
        name ∈ base.collections.map Collection.name := by
      intro name hname
      rw [hlisted.listed.collections]
      exact w.hosted_sublist.subset (mem_hosted hname)
    change made.result = _ at hok
    change made.state.signals.isSet s.stop = false at hunset
    rw [hmade.result] at hok
    rw [hmade.state] at hunset
    have hgoing : World.Going s.stop base base :=
      ⟨rfl, rfl, Collection.Replaced.refl _ _, Signals.Onward.refl _,
        (s.onward_scanAll turns _ base).unset hunset, hlisted.listed.aborted⟩
    cases hresult : (s.scanAll turns (selected allowed w.hosted) base).result with
    | error failure => rw [hresult] at hok; cases hok
    | ok tallies =>
        obtain ⟨hsame, hcounts, hrecords, hcollections⟩ :=
          s.scans_agree n hn turns turns' hgoing hnodup hthere hresult hunset
        rw [hresult] at hok
        cases hok
        rw [← hother.records, ← hmade.records] at hrecords
        rw [← hother.state, ← hmade.state] at hcollections
        refine ⟨?_, hcounts, hrecords, hcollections, ?_⟩
        · rw [hother.result, hsame]
          rfl
        · rw [World.points, World.points, hcollections]
  · obtain ⟨failure, hfailure⟩ := (s.run_of_unlisted turns allowed herror).result
    rw [hfailure] at hok
    cases hok

/-- Two workers over a lossy world, the second collection being the first to move. -/
theorem runs_agree_lossy :
    let s : Sweeper := { plan := { pageSize := 1, maxRetries := 1 } }
    ∃ summary, (s.run [] [] lossy).result = .ok summary ∧
      ((s.withWorkers 2 (by decide)).run [1, 1, 0, 1, 0] [] lossy).result = .ok summary ∧
      ((s.withWorkers 2 (by decide)).run [1, 1, 0, 1, 0] [] lossy).state.points =
        (s.run [] [] lossy).state.points := by
  intro s
  have hsome : (s.run [] [] lossy).result.toOption.isSome = true := by decide +kernel
  obtain ⟨summary, hok⟩ : ∃ summary, (s.run [] [] lossy).result = .ok summary := by
    cases h : (s.run [] [] lossy).result with
    | error failure => rw [h] at hsome; cases hsome
    | ok summary => exact ⟨summary, rfl⟩
  obtain ⟨hresult, -, -, -, hpoints⟩ := s.runs_agree 2 (by decide) [] [1, 1, 0, 1, 0] []
    (by decide) hok (by decide +kernel)
  exact ⟨summary, hok, hresult, hpoints⟩

end Sweeper

end OrphanSweep
