import OrphanSweep.Proofs.Agreement

/-! # A sweep shows what each of its scans shows by itself

    Where no strike nudges anything, answers show nothing, so a transcript holds what its dialogue
    shows and nothing else: it is determined by what was answered (`Speaks.unique`).  A scan that
    goes through is answered the same in every sweep as by itself, and so it shows the same
    (`scanAll_of_lone`).  The log of such a run is therefore put together from the logs of single
    scans, whatever the turns were (`log_of_lone`). -/

namespace OrphanSweep

/-! ## What a dialogue shows -/

namespace Dialogue

variable {Ask : Type} {Reply : Ask → Type} {σ α : Type}

/-- A dialogue comes to what is left of it by some lines, if the answers show nothing. -/
inductive Speaks :
    Dialogue Ask Reply α → List (Line Ask Reply) → Dialogue Ask Reply α → Prop
  | here {d : Dialogue Ask Reply α} : Speaks d [] d
  | shows {event : Event} {rest later : Dialogue Ask Reply α} {lines : List (Line Ask Reply)} :
      Speaks rest lines later → Speaks (.shows event rest) (.shown event :: lines) later
  | asks {ask : Ask} {reply : Reply ask} {resume : Reply ask → Dialogue Ask Reply α}
      {later : Dialogue Ask Reply α} {lines : List (Line Ask Reply)} :
      Speaks (resume reply) lines later →
        Speaks (.asks ask resume) (.asked ask reply :: lines) later

theorem Speaks.trans {d mid last : Dialogue Ask Reply α} {first second : List (Line Ask Reply)}
    (h : d.Speaks first mid) (h' : mid.Speaks second last) : d.Speaks (first ++ second) last := by
  induction h with
  | here => exact h'
  | shows _ ih => exact .shows (ih h')
  | asks _ ih => exact .asks (ih h')

theorem speaks_step {answer : Answering Ask Reply σ} (d : Dialogue Ask Reply α) {s : σ}
    (hsilent : ∀ ask, (answer ask s).log = []) :
    d.Speaks (d.step answer s).transcript (d.step answer s).result := by
  cases d with
  | ended value => exact .here
  | shows event rest => exact .shows .here
  | asks ask resume =>
      rw [step, heard, hsilent ask]
      exact .asks .here

theorem speaks_run {answer : Answering Ask Reply σ} {holds : σ → Prop}
    (hsilent : ∀ ask s, holds s → (answer ask s).log = [] ∧ holds (answer ask s).state)
    (d : Dialogue Ask Reply α) :
    ∀ s, holds s → d.Speaks (d.run answer s).transcript (.ended (d.run answer s).result) := by
  induction d with
  | ended value => intro s _; exact .here
  | shows event rest ih => intro s hs; exact .shows (ih s hs)
  | asks ask resume ih =>
      intro s hs
      obtain ⟨hlog, hnext⟩ := hsilent ask s hs
      rw [run, heard, hlog]
      exact .asks (ih _ _ hnext)

/-- **What was answered determines what was shown**, and the end. -/
theorem Speaks.unique {d : Dialogue Ask Reply α} {value value' : α}
    {lines lines' : List (Line Ask Reply)} (h : d.Speaks lines (.ended value))
    (h' : d.Speaks lines' (.ended value')) (hsame : Line.answered lines = Line.answered lines') :
    lines = lines' ∧ value = value' := by
  generalize hlast : (ended value : Dialogue Ask Reply α) = last at h
  induction h generalizing lines' with
  | here =>
      subst hlast
      cases h'
      exact ⟨rfl, rfl⟩
  | shows _ ih =>
      cases h' with
      | shows h' =>
          obtain ⟨rfl, hvalue⟩ := ih h' hsame hlast
          exact ⟨rfl, hvalue⟩
  | asks _ ih =>
      cases h' with
      | asks h' =>
          rw [Line.answered_asked, Line.answered_asked] at hsame
          obtain ⟨hfirst, hrest⟩ := List.cons.inj hsame
          cases hfirst
          obtain ⟨rfl, hvalue⟩ := ih h' hrest hlast
          exact ⟨rfl, hvalue⟩

end Dialogue

/-! ## Worlds without nudges -/

/-- No strike nudges the program. -/
def World.Unnudged (w : World) : Prop := ∀ kind name n, (w.schedule kind name n).nudges = []

namespace World

variable {w : World}

theorem log_answer (stop : Nat) (name : String) (call : Call) (w : World) :
    (answer stop name call w).log =
      (Strike.nudgeAll w.signals ((w.collection name).strike w.schedule name call).nudges).1 := by
  cases call <;> rfl

theorem Unnudged.strike (h : w.Unnudged) (name : String) (c : Collection) (call : Call) :
    (c.strike w.schedule name call).nudges = [] := by
  cases call with
  | stopping => rfl
  | scroll cursor limit => exact h _ _ _
  | lookup ids => exact h _ _ _
  | delete ids => exact h _ _ _

/-- An answer shows nothing and leaves the signals alone. -/
theorem Unnudged.answer (h : w.Unnudged) (stop : Nat) (name : String) (call : Call) :
    (World.answer stop name call w).log = [] ∧
      (World.answer stop name call w).state.signals = w.signals ∧
      (World.answer stop name call w).state.Unnudged := by
  refine ⟨?_, ?_, ?_⟩
  · rw [log_answer, h.strike]
    rfl
  · rw [signals_answer, h.strike]
    rfl
  · intro kind other n
    rw [schedule_answer]
    exact h kind other n

end World

namespace Sweeper

variable (s : Sweeper) {base w : World} {names : List String}

theorem speaks_scanOne (name : String) (h : w.Unnudged) :
    (scan s.plan name (w.collection name).contents.pageBound).Speaks
      (s.scanOne name w).transcript (.ended (s.scanOne name w).result) := by
  have hsilent : ∀ call v, World.Unnudged v → (World.answer s.stop name call v).log = [] ∧
      (World.answer s.stop name call v).state.Unnudged :=
    fun call v hv => ⟨(hv.answer s.stop name call).1, (hv.answer s.stop name call).2.2⟩
  exact Dialogue.speaks_run hsilent _ w h

/-- A scan leaves a world without nudges as it found it, as far as signals go. -/
theorem unnudged_scanOne (name : String) (h : w.Unnudged) :
    (s.scanOne name w).state.signals = w.signals ∧ (s.scanOne name w).state.Unnudged := by
  let still : World → Prop := fun v => v.signals = w.signals ∧ v.Unnudged
  have hanswer : ∀ call v, still v → still (World.answer s.stop name call v).state := by
    intro call v hv
    obtain ⟨-, hsignals, hnext⟩ := hv.2.answer s.stop name call
    exact ⟨hsignals.trans hv.1, hnext⟩
  exact Dialogue.run_preserves hanswer _ (show still w from ⟨rfl, h⟩)

/-! ## The records of a sweep -/

/-- The scan of a record shows what it says, and has gone through. -/
def Shows (base : World) (r : ScanRecord) : Prop :=
  ∃ tally, (scan s.plan r.name (base.collection r.name).contents.pageBound).Speaks r.transcript
    (.ended (.ok tally))

theorem shows_scanEach (names : List String) :
    ∀ (w : World), w.Unnudged → (∀ name ∈ names, w.collection name = base.collection name) →
      names.Nodup → ∀ tallies, (s.scanEach names w).result = .ok tallies →
      ∀ r ∈ (s.scanEach names w).records, s.Shows base r := by
  induction names with
  | nil => intro w _ _ _ _ _ r hr; cases hr
  | cons name names ih =>
      intro w hw hsame hnodup tallies htallies r hr
      obtain ⟨hfirst, hrest⟩ := List.nodup_cons.mp hnodup
      cases hresult : (s.scanOne name w).result with
      | error halt => rw [scanEach_error names hresult] at htallies; cases htallies
      | ok tally =>
          rw [scanEach_ok names hresult] at htallies hr
          cases hothers : (s.scanEach names (s.scanOne name w).state).result with
          | error failure => simp only at htallies; rw [hothers] at htallies; cases htallies
          | ok others =>
              rcases List.mem_cons.mp hr with rfl | hmem
              · refine ⟨tally, ?_⟩
                rw [← hsame name List.mem_cons_self, ← hresult]
                exact s.speaks_scanOne name hw
              · -- the others find their collections as they were
                refine ih _ (s.unnudged_scanOne name hw).2 ?_ hrest others hothers r hmem
                intro other hother
                have hne : other ≠ name := fun heq => hfirst (heq ▸ hother)
                rw [s.collection_scanOne_of_ne hne]
                exact hsame other (List.mem_cons_of_mem name hother)

/-- Every scan of a pool has come to where it is by what it has shown. -/
structure Spoken (plan : Plan) (base : World) (pool : Pool) : Prop where
  unnudged : pool.world.Unnudged
  speaks   : ∀ scanner ∈ pool.scanners,
    (scan plan scanner.record.name (base.collection scanner.record.name).contents.pageBound).Speaks
      scanner.record.transcript scanner.talk

theorem spoken_leads {plan : Plan} {stop : Nat} {pool later : Pool} (h : Spoken plan base pool)
    (hleads : pool.Leads stop later) : Spoken plan base later := by
  induction hleads with
  | refl => exact h
  | @move now place scanner _ hplace _ ih =>
      have hmem : scanner ∈ now.scanners := List.mem_iff_getElem?.mpr ⟨place, hplace⟩
      refine ⟨?_, ?_⟩
      · rw [Pool.world_move hplace]
        exact Dialogue.step_preserves World.Unnudged scanner.talk ih.unnudged fun call =>
          (ih.unnudged.answer stop scanner.record.name call).2.2
      · intro last hlast
        rw [Pool.scanners_move hplace] at hlast
        rcases List.mem_or_eq_of_mem_set hlast with hold | rfl
        · exact ih.speaks last hold
        · exact (ih.speaks scanner hmem).trans (Dialogue.speaks_step scanner.talk fun call =>
            (ih.unnudged.answer stop scanner.record.name call).1)
  | heed _ ih => exact ⟨ih.unnudged, ih.speaks⟩

theorem shows_scanTogether (turns : List Nat) (hbase : base.Unnudged) {tallies : List Tally}
    (hresult : (s.scanTogether turns names base).result = .ok tallies) :
    ∀ r ∈ (s.scanTogether turns names base).records, s.Shows base r := by
  intro r hr
  have hstart : Spoken s.plan base (Pool.start s.plan names base) := by
    refine ⟨hbase, ?_⟩
    intro scanner hmem
    obtain ⟨name, -, rfl⟩ := List.mem_map.mp hmem
    exact .here
  have hspoken := spoken_leads hstart (s.leads_pooled turns names base)
  rw [records_scanTogether] at hr
  obtain ⟨scanner, hmem, rfl⟩ := List.mem_map.mp hr
  cases hfailure : (s.pooled turns names base).failure with
  | some failure => rw [scanTogether_failed hfailure] at hresult; cases hresult
  | none =>
      obtain ⟨tally, htalk⟩ := pooled_unfailed hfailure hmem
      exact ⟨tally, htalk ▸ hspoken.speaks scanner hmem⟩

theorem shows_scanAll (turns : List Nat) (hbase : base.Unnudged) (hnodup : names.Nodup)
    {tallies : List Tally} (hresult : (s.scanAll turns names base).result = .ok tallies) :
    ∀ r ∈ (s.scanAll turns names base).records, s.Shows base r := by
  rw [scanAll] at hresult ⊢
  split at hresult
  · rename_i hshared
    rw [if_pos hshared]
    exact s.shows_scanTogether turns hbase hresult
  · rename_i hshared
    rw [if_neg hshared]
    exact s.shows_scanEach names base hbase (fun _ _ => rfl) hnodup tallies hresult

/-! ## Scans that come to what they come to by themselves -/

/-- The record of the scan of a collection by itself. -/
def loneRecord (base : World) (name : String) : ScanRecord :=
  ⟨name, (s.scanOne name base).transcript⟩

/-- What was told of a collection is what its scan by itself comes to. -/
structure IsLone (base : World) (e : Told) : Prop where
  result     : (s.scanOne e.name base).result = .ok e.tally
  said       : (s.loneRecord base e.name).said = e.said
  collection : (s.scanOne e.name base).state.collection e.name = e.collection

/-- Scans that go through by themselves tell what they come to in a sweep. -/
theorem forecast_of_lone (hgoing : World.Going s.stop base base) (hbase : base.Unnudged)
    (hnames : ∀ name ∈ names, name ∈ base.collections.map Collection.name)
    (hok : ∀ name ∈ names, ∃ tally, (s.scanOne name base).result = .ok tally) :
    ∃ told, Forecast s.plan s.stop base names told ∧ ∀ e ∈ told, s.IsLone base e := by
  induction names with
  | nil => exact ⟨[], .nil, fun e he => nomatch he⟩
  | cons name names ih =>
      obtain ⟨told, htold, hlone⟩ := ih (fun other h => hnames other (List.mem_cons_of_mem _ h))
        (fun other h => hok other (List.mem_cons_of_mem _ h))
      obtain ⟨tally, hresult⟩ := hok name List.mem_cons_self
      have hunset : (s.scanOne name base).state.signals.isSet s.stop = false := by
        rw [(s.unnudged_scanOne name hbase).1]
        exact hgoing.unset
      obtain ⟨hforetells, -⟩ := s.foretells_scanOne hgoing rfl (hnames name List.mem_cons_self)
        hresult hunset
      refine ⟨_, htold.cons hforetells, ?_⟩
      intro e he
      rcases List.mem_cons.mp he with rfl | hmem
      · exact ⟨hresult, rfl, rfl⟩
      · exact hlone e hmem

/-- Records that show what was told of scans by themselves are the records of those scans. -/
theorem records_of_lone {told : List Told} {records : List ScanRecord} (hbase : base.Unnudged)
    (hlone : ∀ e ∈ told, s.IsLone base e) (hshows : ∀ r ∈ records, s.Shows base r)
    (hrecords : records.map (fun r => (r.name, r.said)) = told.map fun e => (e.name, e.said)) :
    records = told.map fun e => s.loneRecord base e.name := by
  induction told generalizing records with
  | nil => exact List.map_eq_nil_iff.mp hrecords
  | cons e told ih =>
      cases records with
      | nil => cases hrecords
      | cons r records =>
          obtain ⟨hfirst, hrest⟩ := List.cons.inj hrecords
          obtain ⟨hname, hsaid⟩ := Prod.mk.inj hfirst
          have he := hlone e List.mem_cons_self
          obtain ⟨tally, hspeaks⟩ := hshows r List.mem_cons_self
          rw [hname] at hspeaks
          -- both transcripts are those of one dialogue with the same answers
          have hsame : r.transcript = (s.scanOne e.name base).transcript :=
            (hspeaks.unique (he.result ▸ s.speaks_scanOne e.name hbase)
              (hsaid.trans he.said.symm)).1
          have hothers := ih (fun other h => hlone other (List.mem_cons_of_mem _ h))
            (fun other h => hshows other (List.mem_cons_of_mem _ h)) hrest
          rw [List.map_cons, ← hothers, loneRecord, ← hsame, ← hname]

/-- What scans have come to that go through by themselves. -/
structure Lonely (base : World) (names : List String) (scans : Scans) : Prop where
  result      : ∃ tallies, scans.result = .ok tallies
  records     : scans.records = names.map (s.loneRecord base)
  collections : ∀ name ∈ names,
    scans.state.collection name = (s.scanOne name base).state.collection name

/-- **Scans come to what each of them comes to by itself**, however they are made. -/
theorem scanAll_of_lone (turns : List Nat) (hgoing : World.Going s.stop base base)
    (hbase : base.Unnudged) (hnodup : names.Nodup)
    (hnames : ∀ name ∈ names, name ∈ base.collections.map Collection.name)
    (hok : ∀ name ∈ names, ∃ tally, (s.scanOne name base).result = .ok tally) :
    s.Lonely base names (s.scanAll turns names base) := by
  obtain ⟨told, htold, hlone⟩ := s.forecast_of_lone hgoing hbase hnames hok
  have hdone : Fulfilled s.stop base told (s.scanAll turns names base) :=
    s.scanAll_of_told turns hgoing hnodup hnames htold
  refine ⟨⟨_, hdone.result⟩, ?_, ?_⟩
  · rw [s.records_of_lone hbase hlone (s.shows_scanAll turns hbase hnodup hdone.result)
      hdone.records, ← htold.names, List.map_map]
    rfl
  · intro name hname
    rw [← htold.names] at hname
    obtain ⟨e, he, rfl⟩ := List.mem_map.mp hname
    rw [hdone.collections e he, (hlone e he).collection]

/-! ## The log of a run -/

theorem eraseDups_of_nodup {names : List String} (h : names.Nodup) : names.eraseDups = names := by
  induction names with
  | nil => rfl
  | cons name names ih =>
      obtain ⟨hfirst, hrest⟩ := List.nodup_cons.mp h
      rw [List.eraseDups_cons]
      have hothers : names.filter (fun other => !other == name) = names := by
        refine List.filter_eq_self.mpr fun other hother => ?_
        have hne : other ≠ name := fun heq => hfirst (heq ▸ hother)
        simpa using hne
      rw [hothers, ih hrest]

/-- The records of one collection, where no collection has two. -/
theorem filter_records {names : List String} (make : String → ScanRecord)
    (hmake : ∀ name, (make name).name = name) (hnodup : names.Nodup) {name : String}
    (hname : name ∈ names) :
    (names.map make).filter (fun r => r.name = name) = [make name] := by
  induction names with
  | nil => cases hname
  | cons first names ih =>
      obtain ⟨hfirst, hrest⟩ := List.nodup_cons.mp hnodup
      rw [List.map_cons, List.filter_cons]
      rcases List.mem_cons.mp hname with rfl | hmem
      · have hnone : (names.map make).filter (fun r => r.name = name) = [] := by
          rw [List.filter_eq_nil_iff]
          intro r hr
          obtain ⟨other, hother, rfl⟩ := List.mem_map.mp hr
          rw [hmake, decide_eq_true_eq]
          rintro rfl
          exact hfirst hother
        rw [hnone, hmake, if_pos (by simp)]
      · have hne : first ≠ name := by
          rintro rfl
          exact hfirst hmem
        rw [hmake, if_neg (by simpa using hne), ih hrest hmem]

/-- Where no collection has two records, they stand together anyway. -/
theorem grouped_of_nodup {names : List String} (make : String → ScanRecord)
    (hmake : ∀ name, (make name).name = name) (hnodup : names.Nodup) :
    ScanRecord.grouped (names.map make) = (names.map make).flatMap ScanRecord.events := by
  have hnames : (names.map make).map ScanRecord.name = names := by
    rw [List.map_map]
    exact (List.map_congr_left fun name _ => hmake name).trans (List.map_id names)
  rw [ScanRecord.grouped, hnames, eraseDups_of_nodup hnodup, List.flatMap_map]
  refine List.flatMap_congr fun name hname => ?_
  rw [filter_records make hmake hnodup hname, List.flatMap_singleton]

/-- **The log of a run is put together from the logs of its scans by themselves**, in the order of
    the collections, if each of these goes through. -/
theorem log_of_lone (turns : List Nat) (allowed : List String) {w : World} {hosted : List String}
    (hlisted : (s.listing { w with aborted := false }).result = .ok hosted)
    (hnodup : (selected allowed hosted).Nodup)
    (hlonely : s.Lonely (s.listing { w with aborted := false }).state (selected allowed hosted)
      (s.scanAll turns (selected allowed hosted) (s.listing { w with aborted := false }).state)) :
    (s.run turns allowed w).log =
      Line.events (fun _ => some .list) (s.listing { w with aborted := false }).transcript ++
        s.announcement allowed hosted ++
        (selected allowed hosted).flatMap fun name =>
          (s.loneRecord (s.listing { w with aborted := false }).state name).events := by
  obtain ⟨-, hrecords, -⟩ := hlonely
  rw [run, hlisted]
  simp only [Swept.log, Swept.scanEvents, hrecords]
  cases s.isShared (selected allowed hosted) with
  | false => simp [List.flatMap_map]
  | true =>
      simp [grouped_of_nodup (s.loneRecord (s.listing { w with aborted := false }).state)
        (fun _ => rfl) hnodup, List.flatMap_map]

end Sweeper

end OrphanSweep
