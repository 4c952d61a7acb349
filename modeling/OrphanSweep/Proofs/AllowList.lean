import OrphanSweep.Proofs.ExactRun
import OrphanSweep.Proofs.Reports

/-! # Allow-lists

    An allow-list fences a run in.  Whatever strikes, and however the run ends, it scans no
    collection that is not both hosted and named, its requests are those of its scans, and every
    other collection is as it was (`Fenced`).  A run is told about its allow-list in two ways only:
    by the collections that it is for, and by the warnings that it shows (`run_of_selected`).  So
    lists with the same names differ in their warnings alone, and a list with every hosted name
    differs in them from no list at all (`run_fenced`). -/

namespace OrphanSweep

/-! ## What is outside -/

/-- To store a collection leaves those of other names as they are. -/
theorem Collection.filter_store {names : List String} {c : Collection} (h : c.name ∈ names)
    (cs : List Collection) :
    (c.store cs).filter (fun d => d.name ∉ names) = cs.filter fun d => d.name ∉ names := by
  induction cs with
  | nil => simp [store, h]
  | cons d cs ih =>
      rw [store]
      split
      · rename_i hd
        simp [h, hd]
      · rw [List.filter_cons, List.filter_cons, ih]

/-- The collections of other names. -/
def World.outside (w : World) (names : List String) : List Collection :=
  w.collections.filter fun c => c.name ∉ names

/-- A call for one of some collections leaves those outside as they are. -/
theorem World.outside_answer (stop : Nat) {names : List String} {name : String}
    (h : name ∈ names) (call : Call) (w : World) :
    (answer stop name call w).state.outside names = w.outside names := by
  rw [outside, outside]
  cases collections_answer stop name call w with
  | inl hsame => rw [hsame]
  | inr hstore =>
      rw [hstore]
      refine Collection.filter_store ?_ w.collections
      rw [Collection.name_answer, name_collection]
      exact h

/-- Watches what is outside the collections of some names, and whose tallies there are. -/
def fenceWatch (stop : Nat) (names : List String) (before : World) : Watch stop Unit where
  stable w := w.outside names = before.outside names
  view _ _ _ := ()
  inv name _ := name ∈ names
  may _ _ _ := True
  rule _ _ _ _ _ := True
  post name := Ending (fun t _ => t.collection = name) fun _ => True
  answer := fun hstable hname _ =>
    ⟨(World.outside_answer stop hname _ _).trans hstable, hname, trivial⟩

/-- What is shown first comes first in the log. -/
theorem Swept.log_opening (swept : Swept) (first : List Event) :
    ({ swept with opening := first ++ swept.opening } : Swept).log = first ++ swept.log := by
  exact List.append_assoc first swept.opening swept.scanEvents

theorem map_collection_of_forall₂ {records : List ScanRecord} {tallies : List Tally}
    (h : List.Forall₂ (fun (r : ScanRecord) t => t.collection = r.name) records tallies) :
    tallies.map Tally.collection = records.map ScanRecord.name := by
  induction h with
  | nil => rfl
  | cons hfirst _ ih => rw [List.map_cons, List.map_cons, hfirst, ih]

namespace Sweeper

variable (s : Sweeper)

/-- Scans change only the collections that they are for; where all go through there is one tally
    of each. -/
theorem fenced_scanAll (turns : List Nat) (names : List String) (w : World) :
    let scans := s.scanAll turns names w
    (∀ r ∈ scans.records, r.name ∈ names) ∧ scans.state.outside names = w.outside names ∧
      (names.Nodup → ∀ tallies, scans.result = .ok tallies →
        tallies.map Tally.collection = names) := by
  have habort : (fenceWatch s.stop names w).Abortable :=
    fun v hstable _ => ⟨hstable, fun _ _ => rfl⟩
  have hready : ∀ name ∈ names, (fenceWatch s.stop names w).Ready s.plan name () :=
    fun name hname v _ _ => ⟨hname, Scan.tallies_scan s.plan name _⟩
  obtain ⟨hwatched, hthrough⟩ := Watch.watched_scanAll turns habort rfl hready
    (List.pairwise_of_forall fun _ _ => ⟨fun _ _ _ _ => rfl, fun _ _ _ _ => rfl⟩)
  refine ⟨hwatched.inv, hwatched.stable, fun hnodup tallies hok => ?_⟩
  obtain ⟨hnames, hposts⟩ := hthrough hnodup (fun _ _ _ hpost => hpost) tallies hok
  rw [← hnames]
  exact map_collection_of_forall₂ hposts

/-! ## What a run is told about its allow-list -/

/-- The lines for the names that are not hosted; a listing that fails comes to none. -/
def warnings (allowed : List String) (w : World) : List Event :=
  match (s.listing { w with aborted := false }).result with
  | .error _ => []
  | .ok _    => (allowed.filter fun name => name ∉ w.hosted).map fun name =>
      .print (missingLine name)

/-- **The collections that a run is for settle what it does**; beside them its allow-list shows in
    the warnings only. -/
theorem run_of_selected (turns : List Nat) {allowed other : List String} {w : World}
    (h : selected other w.hosted = selected allowed w.hosted) :
    let first := s.run turns allowed w
    let second := s.run turns other w
    second.result = first.result ∧ second.records = first.records ∧ second.state = first.state ∧
      ∃ before after, first.log = before ++ s.warnings allowed w ++ after ∧
        second.log = before ++ s.warnings other w ++ after := by
  intro first second
  let v : World := { w with aborted := false }
  let listing := Line.events (fun _ => some .list) (s.listing v).transcript
  obtain ⟨-, hok | ⟨-, failure, herror⟩⟩ := s.listing_spec v False nofun
  · -- what comes behind the warnings is the same in both
    let names := selected allowed w.hosted
    let scans := s.scanAll turns names (s.listing v).state
    let behind : Swept :=
      { opening := [.print (s.openingLine names)]
        shared  := s.isShared names
        records := scans.records
        result  := scans.result.map fun tallies => { tallies, dryRun := s.plan.dryRun }
        state   := scans.state }
    have hrun : ∀ l, selected l w.hosted = names → s.run turns l w =
        { behind with opening := listing ++ s.warnings l w ++ behind.opening } := by
      intro l hl
      have hmissing : s.announcement l w.hosted = s.warnings l w ++ behind.opening := by
        simp only [announcement, warnings, v, hok, hl]
        simp [behind]
      have hhosted : v.hosted = w.hosted := rfl
      rw [run, hok, hhosted]
      simp only [hl, hmissing, List.append_assoc]
      rfl
    have hfirst : first = _ := hrun allowed rfl
    have hsecond : second = _ := hrun other h
    refine ⟨by rw [hfirst, hsecond], by rw [hfirst, hsecond], by rw [hfirst, hsecond],
      listing, behind.log, ?_, ?_⟩
    · rw [hfirst, behind.log_opening]
    · rw [hsecond, behind.log_opening]
  · have hsame : second = first :=
      (s.run_eq_of_unlisted turns other herror).trans (s.run_eq_of_unlisted turns allowed herror).symm
    have hnone : ∀ l, s.warnings l w = [] := fun l => by simp only [warnings, v, herror]
    rw [hsame, hnone, hnone]
    exact ⟨rfl, rfl, rfl, [], first.log, rfl, rfl⟩

theorem selected_of_ne_nil {allowed : List String} (h : allowed ≠ []) (hosted : List String) :
    selected allowed hosted = hosted.filter allowed.contains := by
  rw [selected, if_neg]
  rwa [List.isEmpty_iff]

/-- Lists with the same names select the same collections, and so do no list and a list with every
    hosted name. -/
theorem selected_congr {allowed other hosted : List String} (hallowed : allowed ≠ [])
    (h : (other ≠ [] ∧ ∀ name, name ∈ other ↔ name ∈ allowed) ∨
      (other = [] ∧ ∀ name ∈ hosted, name ∈ allowed)) :
    selected other hosted = selected allowed hosted := by
  rw [selected_of_ne_nil hallowed]
  rcases h with ⟨hother, hsame⟩ | ⟨rfl, hall⟩
  · rw [selected_of_ne_nil hother]
    refine List.filter_congr fun name _ => ?_
    rw [Bool.eq_iff_iff, List.contains_iff_mem, List.contains_iff_mem]
    exact hsame name
  · refine (List.filter_eq_self.mpr fun name hname => ?_).symm
    rw [List.contains_iff_mem]
    exact hall name hname

/-! ## The fence -/

/-- A run that has kept to the collections of some names: it scanned no other, asked nothing for
    any other, and left every other as it was, down to the numbers of its calls. -/
structure Fenced (names : List String) (w : World) (swept : Swept) : Prop where
  scans   : ∀ r ∈ swept.records, r.name ∈ names
  scrolls : ∀ request, .scroll request ∈ swept.log → request.collection ∈ names
  deletes : ∀ request, .delete request ∈ swept.log → request.collection ∈ names
  lookups : ∀ ids, .lookup ids ∈ swept.log →
    ∃ r ∈ swept.records, ∃ reply, .asked (.lookup ids) reply ∈ r.transcript
  outside : swept.state.outside names = w.outside names

/-- What a run asks for is asked in one of its scans. -/
theorem fenced_of_scans (turns : List Nat) (allowed : List String) {names : List String} {w : World}
    (hscans : ∀ r ∈ (s.run turns allowed w).records, r.name ∈ names)
    (houtside : (s.run turns allowed w).state.outside names = w.outside names) :
    Fenced names w (s.run turns allowed w) where
  scans   := hscans
  scrolls := by
    intro request hmem
    rcases s.mem_log turns allowed w hmem with h | h | ⟨r, hr, call, reply, -, hrequest⟩
    · cases h
    · cases h
    · cases call <;> cases hrequest
      exact hscans r hr
  deletes := by
    intro request hmem
    rcases s.mem_log turns allowed w hmem with h | h | ⟨r, hr, call, reply, -, hrequest⟩
    · cases h
    · cases h
    · cases call <;> cases hrequest
      exact hscans r hr
  lookups := by
    intro ids hmem
    rcases s.mem_log turns allowed w hmem with h | h | ⟨r, hr, call, reply, hasked, hrequest⟩
    · cases h
    · cases h
    · cases call <;> cases hrequest
      exact ⟨r, hr, reply, hasked⟩
  outside := houtside

/-- **An allow-list is a fence, and only its set of names matters.**  However a run ends, it keeps to
    the collections that are both hosted and named; one that returns has a tally of each of them, in
    the order of the hosted ones.  A run with another list of the same names, or without a list
    where every hosted name is in this one, does the same, and its log differs in the warnings
    only. -/
theorem run_fenced (turns : List Nat) {allowed : List String} {w : World} (hallowed : allowed ≠ [])
    (hnodup : w.hosted.Nodup) :
    let names := w.hosted.filter allowed.contains
    let swept := s.run turns allowed w
    Fenced names w swept ∧
      (∀ summary, swept.result = .ok summary →
        summary.tallies.map Tally.collection = names ∧ names.Nodup) ∧
      ∀ other, (other ≠ [] ∧ ∀ name, name ∈ other ↔ name ∈ allowed) ∨
          (other = [] ∧ ∀ name ∈ w.hosted, name ∈ allowed) →
        let again := s.run turns other w
        again.result = swept.result ∧ again.records = swept.records ∧ again.state = swept.state ∧
          ∃ before after, swept.log = before ++ s.warnings allowed w ++ after ∧
            again.log = before ++ s.warnings other w ++ after := by
  intro names swept
  have hselected : selected allowed w.hosted = names := selected_of_ne_nil hallowed w.hosted
  have hnames : names.Nodup := hnodup.filter _
  obtain ⟨listed, hlisted, honly⟩ := s.run_cases turns allowed w False nofun
  have hbefore : listed.outside names = w.outside names :=
    congrArg (List.filter _) hlisted.listed.collections
  refine ⟨?_, ?_, ?_⟩
  · rcases honly with ⟨-, hfailed⟩ | hscanned
    · refine s.fenced_of_scans turns allowed ?_ ?_
      · rw [hfailed.records]
        exact List.forall_mem_nil _
      · rw [hfailed.state]
        exact hbefore
    · rw [hselected] at hscanned
      obtain ⟨hscans, houtside, -⟩ := s.fenced_scanAll turns names listed
      refine s.fenced_of_scans turns allowed ?_ ?_
      · rw [hscanned.records]
        exact hscans
      · rw [hscanned.state]
        exact houtside.trans hbefore
  · intro summary hok
    refine ⟨?_, hnames⟩
    rcases honly with ⟨-, hfailed⟩ | hscanned
    · obtain ⟨failure, herror⟩ := hfailed.result
      cases hok.symm.trans herror
    · rw [hselected] at hscanned
      obtain ⟨-, -, htallies⟩ := s.fenced_scanAll turns names listed
      obtain ⟨tallies, hresult, rfl⟩ := hscanned.through s hok
      exact htallies hnames tallies hresult
  · intro other hother
    exact s.run_of_selected turns (selected_congr hallowed hother)

/-- A run for one of two collections, which fails; a name that is not hosted comes once in its list
    and twice in another one. -/
theorem run_fenced_lossy :
    let s : Sweeper := { plan := { pageSize := 1 } }
    let swept := s.run [] ["b", "x"] lossy
    let again := s.run [] ["x", "b", "x"] lossy
    (∃ failure, swept.result = .error failure) ∧ Fenced ["b"] lossy swept ∧
      again.state = swept.state ∧
      ∃ before after, swept.log = before ++ [.print (missingLine "x")] ++ after ∧
        again.log = before ++ [.print (missingLine "x"), .print (missingLine "x")] ++ after := by
  intro s swept again
  have hnames : lossy.hosted.filter ["b", "x"].contains = ["b"] := by decide +kernel
  have hfails : swept.result.toOption.isNone = true := by decide +kernel
  have hgiven : ["b", "x"] ≠ [] := nofun
  have hnodup : lossy.hosted.Nodup := by decide +kernel
  obtain ⟨hfenced, -, hsame⟩ := s.run_fenced [] hgiven hnodup
  rw [hnames] at hfenced
  obtain ⟨-, -, hstate, before, after, hlog, hagain⟩ := hsame ["x", "b", "x"]
    (Or.inl ⟨nofun, by simp [or_comm]⟩)
  have hwarned : s.warnings ["b", "x"] lossy = [.print (missingLine "x")] := by decide +kernel
  have hwarnedTwice : s.warnings ["x", "b", "x"] lossy =
      [.print (missingLine "x"), .print (missingLine "x")] := by decide +kernel
  refine ⟨?_, hfenced, hstate, before, after, hwarned ▸ hlog, hwarnedTwice ▸ hagain⟩
  cases hresult : swept.result with
  | error failure => exact ⟨failure, rfl⟩
  | ok summary => rw [hresult] at hfails; cases hfails

end Sweeper

end OrphanSweep
