import Mathlib
import OrphanSweep.Proofs.Deletion
import OrphanSweep.Proofs.Moments
import OrphanSweep.Proofs.Orphans
import OrphanSweep.Proofs.SetScan

/-! # What a scan counts

    The tally of a scan is a function of what was said in it: of the pages that were delivered, the
    lookups that were answered and the deletes that went through (`Ledger`).  This holds at the end
    and at every failure, whatever the pages are.  The orphans of a page are a set, so an id that is
    repeated on the page counts once as an orphan and each time as a point; between the pages all
    orphans so far are found, and deleted unless the run is dry (`Stands`). -/

namespace OrphanSweep

/-! ## The orphans of a page -/

/-- The orphans of some ids, as a scan computes them, are those of the distinct ones. -/
theorem Registry.size_orphans_dedup (registry : Registry) (ids : List PointId) :
    (PointSet.ofList ids \ (PointSet.ofList ids).filter registry.hasRow).size =
      registry.orphans ids.dedup := by
  have hnodup : (PointSet.ofList ids).toList.Nodup :=
    (PointSet.ofList ids).ascending.imp ne_of_irrefl
  have hperm : (PointSet.ofList ids).toList.Perm ids.dedup := by
    refine (List.perm_ext_iff_of_nodup hnodup ids.nodup_dedup).mpr fun p => ?_
    rw [PointSet.mem_toList, PointSet.mem_ofList, List.mem_dedup]
  rw [PointSet.diff_filter, PointSet.size, PointSet.toList_filter, Registry.orphans]
  exact (hperm.filter _).length_eq

/-- There are no more orphans than ids. -/
theorem Registry.orphans_dedup_le (registry : Registry) (ids : List PointId) :
    registry.orphans ids.dedup ≤ ids.length :=
  (List.length_filter_le _ _).trans ids.dedup_sublist.length_le

/-- How many orphans some pages have, each page by itself. -/
def Registry.orphansOn (registry : Registry) (pages : List (Page PointId)) : Nat :=
  (pages.map fun page => registry.orphans page.ids.dedup).sum

/-! ## Ledgers -/

/-- What has been delivered, found and deleted in a scan. -/
structure Ledger where
  pages   : List (Page PointId) := []
  found   : Nat := 0
  deleted : Nat := 0

namespace Said

/-- The pages that were delivered, in order. -/
def pages (name : String) (said : Said) : List (Page PointId) := said.filterMap (page? name)

/-- The orphans that the answer to a lookup tells. -/
def orphans? : Answered Call Call.Reply → Option PointSet
  | ⟨.lookup ids, .ok known⟩ => some (ids \ known)
  | _                        => none

/-- What was deleted by a delete that went through. -/
def deletion? : Answered Call Call.Reply → Option PointSet
  | ⟨.delete ids, .ok _⟩ => some ids
  | _                    => none

/-- The ledger of what was said. -/
def ledger (name : String) (said : Said) : Ledger where
  pages   := pages name said
  found   := ((said.filterMap orphans?).map PointSet.size).sum
  deleted := ((said.filterMap deletion?).map PointSet.size).sum

end Said

namespace Ledger

/-- How many ids were delivered, with repetitions. -/
def points (l : Ledger) : Nat := (l.pages.map fun page => page.ids.length).sum

/-- The ledger as a tally. -/
def tally (l : Ledger) (name : String) (phase : Phase) : Tally where
  collection := name
  pages      := l.pages.length
  points     := l.points
  found      := l.found
  deleted    := l.deleted
  phase      := phase

section Tally

variable (l : Ledger) (name : String) (phase : Phase)

theorem tally_page (page : Page PointId) :
    Scan.counted (l.tally name phase) page =
      ({ l with pages := l.pages ++ [page] } : Ledger).tally name .scanning := by
  simp [Scan.counted, tally, points]

theorem tally_find (n : Nat) :
    { l.tally name phase with found := (l.tally name phase).found + n } =
      ({ l with found := l.found + n } : Ledger).tally name phase := by
  simp [tally, points]

theorem tally_delete (n : Nat) :
    { l.tally name phase with deleted := (l.tally name phase).deleted + n } =
      ({ l with deleted := l.deleted + n } : Ledger).tally name phase := by
  simp [tally, points]

end Tally

/-- No more is deleted than found, and no more found than scanned. -/
structure Bounded (l : Ledger) : Prop where
  deleted_le : l.deleted ≤ l.found
  found_le   : l.found ≤ l.points

/-- The ledger after one more answer. -/
def after (name : String) (l : Ledger) : Answered Call Call.Reply → Ledger
  | ⟨.scroll _ _, .ok raw⟩ =>
      { l with pages := l.pages ++ (Page.ofRaw name raw).toOption.toList }
  | ⟨.lookup ids, .ok known⟩ => { l with found := l.found + (ids \ known).size }
  | ⟨.delete ids, .ok _⟩     => { l with deleted := l.deleted + ids.size }
  | _                        => l

end Ledger

/-- Every answer is entered. -/
theorem Said.ledger_concat (name : String) (said : Said) (a : Answered Call Call.Reply) :
    ledger name (said ++ [a]) = (ledger name said).after name a := by
  have hpages : pages name (said ++ [a]) = pages name said ++ (page? name a).toList := by
    rw [pages, List.filterMap_append]
    cases h : page? name a <;> simp [pages, h]
  have hfound : ((said ++ [a]).filterMap orphans?).map PointSet.size =
      (said.filterMap orphans?).map PointSet.size ++ ((orphans? a).map PointSet.size).toList := by
    rw [List.filterMap_append, List.map_append]
    cases h : orphans? a <;> simp [h]
  have hdeleted : ((said ++ [a]).filterMap deletion?).map PointSet.size =
      (said.filterMap deletion?).map PointSet.size ++ ((deletion? a).map PointSet.size).toList := by
    rw [List.filterMap_append, List.map_append]
    cases h : deletion? a <;> simp [h]
  rw [ledger, hpages, hfound, hdeleted]
  rcases a with ⟨call, reply⟩
  cases call with
  | stopping => simp [page?, orphans?, deletion?, Ledger.after, ledger]
  | scroll cursor limit =>
      cases reply <;> simp [page?, orphans?, deletion?, Ledger.after, ledger]
  | lookup ids => cases reply <;> simp [page?, orphans?, deletion?, Ledger.after, ledger]
  | delete ids => cases reply <;> simp [page?, orphans?, deletion?, Ledger.after, ledger]

/-! ## Where a scan stands -/

/-- All orphans of the pages so far are found but `left` of them, and all that are found are deleted
    but `due` of them; none is in a dry run. -/
structure Ledger.Stands (plan : Plan) (registry : Registry) (left due : Nat) (l : Ledger) :
    Prop where
  found   : l.found + left = registry.orphansOn l.pages
  deleted : l.deleted + due = if plan.dryRun then 0 else l.found

/-- Behind every page there is another one. -/
def Ledger.Open (l : Ledger) : Prop := ∀ page ∈ l.pages, page.next ≠ none

/-- Only behind the last page there is none. -/
def Ledger.Complete (l : Ledger) : Prop :=
  ∃ earlier last, l.pages = earlier ++ [last] ∧ last.next = none ∧
    ∀ page ∈ earlier, page.next ≠ none

/-- An answer is entered into the ledger; one to a lookup tells the truth. -/
def Enters (registry : Registry) (name : String) (call : Call) (l : Ledger) (reply : call.Reply)
    (next : Ledger) : Prop :=
  next = l.after name ⟨call, reply⟩ ∧ Truthful registry call reply

section Stands

variable {plan : Plan} {registry : Registry} {left due : Nat} {l : Ledger}

theorem Registry.orphansOn_concat (pages : List (Page PointId)) (page : Page PointId) :
    registry.orphansOn (pages ++ [page]) =
      registry.orphansOn pages + registry.orphans page.ids.dedup := by
  simp [orphansOn]

theorem Registry.orphansOn_le (pages : List (Page PointId)) :
    registry.orphansOn pages ≤ (pages.map fun page => page.ids.length).sum :=
  List.sum_le_sum fun page _ => registry.orphans_dedup_le page.ids

/-- Stands are bounded, for no page has more orphans than ids. -/
theorem Ledger.Stands.bounded (h : l.Stands plan registry left due) : l.Bounded := by
  have hpages : registry.orphansOn l.pages ≤ l.points := Registry.orphansOn_le l.pages
  have hfound := h.found
  have hdeleted := h.deleted
  constructor
  · split at hdeleted <;> omega
  · omega

/-- A page that was delivered has its orphans left to be found. -/
theorem Ledger.Stands.page (h : l.Stands plan registry 0 0) (page : Page PointId) :
    ({ l with pages := l.pages ++ [page] } : Ledger).Stands plan registry
      (registry.orphans page.ids.dedup) 0 where
  found   := by rw [Registry.orphansOn_concat, ← h.found, Nat.add_zero]
  deleted := h.deleted

/-- Orphans that were found are due, unless the run is dry. -/
theorem Ledger.Stands.find (h : l.Stands plan registry left 0) :
    ({ l with found := l.found + left } : Ledger).Stands plan registry 0
      (if plan.dryRun then 0 else left) where
  found   := h.found
  deleted := by
    have hdeleted := h.deleted
    split at hdeleted <;> simp_all

/-- Those that were deleted are no longer due. -/
theorem Ledger.Stands.delete (h : l.Stands plan registry 0 due) :
    ({ l with deleted := l.deleted + due } : Ledger).Stands plan registry 0 0 where
  found   := h.found
  deleted := h.deleted

end Stands

namespace Scan

open Dialogue

variable (plan : Plan) (registry : Registry) (name : String) {l : Ledger}

/-- A dialogue that asks only while the ledger is bounded. -/
abbrev AsksBounded {α : Type} (post : α → Ledger → Prop) (talk : Talk α) (l : Ledger) : Prop :=
  talk.Keeps (fun _ => Ledger.Bounded) (Enters registry name) post l

/-- The ledger agrees with a tally. -/
def Entered (t : Tally) (l : Ledger) : Prop := ∃ phase, t = l.tally name phase

/-- What is known when a scan halts. -/
def Stopped (halt : Halt) (l : Ledger) : Prop := l.Bounded ∧ Entered name halt.reached l

/-- A scroll delivers a page or nothing. -/
theorem enters_fetch (hbounded : l.Bounded) (cursor : Option PointId) :
    AsksBounded registry name (Ending (fun page next => next = { l with pages := l.pages ++ [page] })
      (· = l)) (fetch plan name cursor) l := by
  refine ⟨hbounded, ?_⟩
  rintro reply next ⟨rfl, -⟩
  cases reply with
  | error failure => rfl
  | ok raw =>
      show Ending _ _ (Page.ofRaw name raw) _
      rw [Ledger.after]
      cases Page.ofRaw name raw with
      | error failure => simp [Ending, Except.toOption]
      | ok page => rfl

/-- A lookup that is answered tells which ids have a row. -/
theorem enters_lookup (hbounded : l.Bounded) (ids : PointSet) :
    AsksBounded registry name
      (Ending (fun known next => known = ids.filter registry.hasRow ∧
        next = { l with found := l.found + (ids \ known).size }) (· = l)) (lookup ids) l := by
  refine ⟨hbounded, ?_⟩
  rintro reply next ⟨rfl, htruth⟩
  cases reply with
  | error failure => rfl
  | ok known => exact ⟨htruth, rfl⟩

/-- A delete that goes through is for all of its ids. -/
theorem enters_delete (hbounded : l.Bounded) (ids : PointSet) :
    AsksBounded registry name
      (Ending (fun count next => count = ids.size ∧
        next = { l with deleted := l.deleted + ids.size }) (· = l)) (delete name ids) l := by
  refine ⟨hbounded, ?_⟩
  rintro reply next ⟨rfl, -⟩
  rw [keeps_showAll, keeps_ended]
  cases reply with
  | error failure => rfl
  | ok _ => exact ⟨rfl, rfl⟩

/-- The orphans that are due are deleted, if any are. -/
theorem enters_prune {t : Tally} {orphans : PointSet} (htold : Entered name t l)
    (h : l.Stands plan registry 0 (if plan.dryRun then 0 else orphans.size)) :
    AsksBounded registry name
      (Halting (fun t next => Entered name t next ∧ next.Stands plan registry 0 0 ∧
        next.pages = l.pages) (Stopped name)) (prune plan name t orphans) l := by
  obtain ⟨phase, rfl⟩ := htold
  have hbounded := h.bounded
  rw [prune]
  by_cases hdry : plan.dryRun = true
  · rw [if_pos hdry] at h ⊢
    exact ⟨⟨phase, rfl⟩, h, rfl⟩
  · rw [if_neg hdry] at h ⊢
    refine (keeps_call_still (enters_delete registry name hbounded orphans)).andThen ?_ ?_
    · rintro count next ⟨rfl, rfl⟩
      exact ⟨⟨.pruning, l.tally_delete name .pruning _⟩, h.delete, rfl⟩
    · rintro halt last ⟨hreached, rfl⟩
      exact ⟨hbounded, .pruning, hreached⟩

/-- The work on a page finds its orphans and deletes them, if they are to be. -/
theorem enters_work {t : Tally} {page : Page PointId} (htold : Entered name t l)
    (h : l.Stands plan registry (registry.orphans page.ids.dedup) 0) :
    AsksBounded registry name
      (Halting (fun t next => Entered name t next ∧ next.Stands plan registry 0 0 ∧
        next.pages = l.pages) (Stopped name)) (work plan name t page.ids) l := by
  obtain ⟨phase, rfl⟩ := htold
  have hbounded := h.bounded
  rw [work]
  split
  · rename_i hempty
    rw [List.isEmpty_iff.mp hempty] at h
    exact ⟨⟨phase, rfl⟩, h, rfl⟩
  · refine (keeps_call_still (enters_lookup registry name hbounded (.ofList page.ids))).andThen ?_ ?_
    · rintro _ next ⟨rfl, rfl⟩
      rw [← registry.size_orphans_dedup page.ids] at h
      dsimp only
      generalize PointSet.ofList page.ids \
        (PointSet.ofList page.ids).filter registry.hasRow = orphans at h ⊢
      split
      · rename_i hempty
        have hnone : orphans.size = 0 :=
          List.length_eq_zero_iff.mpr (List.isEmpty_iff.mp hempty)
        rw [hnone] at h ⊢
        exact ⟨⟨phase, rfl⟩, h, rfl⟩
      · exact keeps_shows.mpr
          (enters_prune plan registry name ⟨phase, l.tally_find name phase _⟩ h.find)
    · rintro halt last ⟨hreached, rfl⟩
      exact ⟨hbounded, phase, hreached⟩

/-- From page to page all orphans are found and deleted, and only the last page has none behind
    it. -/
theorem enters_pages (bound : Nat) :
    ∀ (t : Tally) (cursor : Option PointId) (l : Ledger), Entered name t l →
      l.Stands plan registry 0 0 → l.Open →
      AsksBounded registry name
        (Halting (fun t next => Entered name t next ∧ next.Stands plan registry 0 0 ∧ next.Complete)
          (Stopped name)) (pages plan name bound t cursor) l := by
  induction bound with
  | zero =>
      intro t cursor l htold h _
      exact ⟨h.bounded, htold⟩
  | succ bound ih =>
      rintro _ cursor l ⟨phase, rfl⟩ h hopen
      have hbounded := h.bounded
      refine ⟨hbounded, ?_⟩
      intro stop next hnext
      rw [show next = l from hnext.1]
      dsimp only
      split
      · exact ⟨hbounded, phase, rfl⟩
      refine (keeps_call_still (enters_fetch plan registry name hbounded cursor)).andThen ?_ ?_
      · rintro page _ rfl
        refine (enters_work plan registry name
          ⟨.scanning, l.tally_page name .scanning page⟩ (h.page page)).andThen ?_ (fun _ _ h => h)
        rintro t next ⟨htold, hnext, hpages⟩
        split
        · rename_i hlast
          exact ⟨htold, hnext, l.pages, page, hpages, hlast, hopen⟩
        · rename_i q hq
          split
          · exact ⟨hnext.bounded, htold⟩
          · refine ih t (some q) next htold hnext ?_
            intro other hother
            rw [hpages] at hother
            rcases List.mem_append.mp hother with hearlier | hnow
            · exact hopen other hearlier
            · rw [List.mem_singleton.mp hnow, hq]
              exact Option.some_ne_none q
      · rintro halt last ⟨hreached, rfl⟩
        exact ⟨hbounded, .scanning, hreached⟩

/-- **A scan counts what was said**, and at the end all pages but the last have one behind them. -/
theorem enters_scan (bound : Nat) :
    AsksBounded registry name
      (Halting (fun t next => t = next.tally name .done ∧ next.Stands plan registry 0 0 ∧
        next.Complete) (Stopped name)) (scan plan name bound) {} := by
  have hstart : Ledger.Stands plan registry 0 0 {} := by
    refine ⟨rfl, ?_⟩
    split <;> rfl
  refine keeps_shows.mpr ((enters_pages plan registry name bound _ none {} ⟨.scanning, rfl⟩ hstart
    (List.forall_mem_nil _)).andThen ?_ (fun _ _ h => h))
  rintro _ next ⟨⟨phase, rfl⟩, hnext, hcomplete⟩
  exact ⟨rfl, hnext, hcomplete⟩

end Scan

namespace Sweeper

variable (s : Sweeper)

/-- **The counts of a scan are exact**, whatever pages it is sent and whatever strikes its calls.  A
    scan that goes through has counted the pages that were delivered, their ids with repetitions, and
    the distinct orphans of each page, and has deleted as many as it has found, or none in a dry
    run; only the last page has none behind it.  A scan that fails has counted what was said up to
    then.  At every moment no more is deleted than found and no more found than scanned. -/
theorem scanOne_counts (name : String) (w : World) :
    let scanned := s.scanOne name w
    let said := Line.answered scanned.transcript
    let pages := Said.pages name said
    (∀ t, scanned.result = .ok t →
      t.phase = .done ∧ t.collection = name ∧ t.pages = pages.length ∧
      t.points = (pages.map fun page => page.ids.length).sum ∧
      t.found = (pages.map fun page => w.registry.orphans page.ids.dedup).sum ∧
      t.deleted = (if s.plan.dryRun then 0 else t.found) ∧
      ∃ earlier last, pages = earlier ++ [last] ∧ last.next = none ∧
        ∀ page ∈ earlier, page.next ≠ none) ∧
    (∀ halt, scanned.result = .error halt →
      halt.reached = (Said.ledger name said).tally name halt.reached.phase ∧
      halt.reached.deleted ≤ halt.reached.found ∧ halt.reached.found ≤ halt.reached.points) ∧
    ∀ now, now <+: said →
      let counts := Said.ledger name now
      counts.deleted ≤ counts.found ∧ counts.found ≤ counts.points := by
  intro scanned said pages
  obtain ⟨-, hasked, hend⟩ : scanned.state.registry = w.registry ∧
      Dialogue.Asked (Said.ledger name) (fun _ => Ledger.Bounded) said ∧
      Scan.Halting (fun t l => t = l.tally name .done ∧ l.Stands s.plan w.registry 0 0 ∧ l.Complete)
        (Scan.Stopped name) scanned.result (Said.ledger name said) :=
    Dialogue.Keeps.run_asked (fun _ v => v.registry = w.registry)
      (fun call said v hv => ⟨(World.registry_answer s.stop name call v).trans hv,
        Said.ledger_concat name said _, hv ▸ World.truthful_answer s.stop name call v⟩)
      rfl (Scan.enters_scan s.plan w.registry name (w.collection name).contents.pageBound)
  have hlast : (Said.ledger name said).Bounded := by
    cases hresult : scanned.result with
    | ok t =>
        rw [hresult] at hend
        exact hend.2.1.bounded
    | error halt =>
        rw [hresult] at hend
        exact hend.1
  have hcounts : ∀ now, now <+: said → (Said.ledger name now).Bounded :=
    fun now hnow => hasked.of_prefix hlast hnow
  refine ⟨?_, ?_, fun now hnow => ⟨(hcounts now hnow).deleted_le, (hcounts now hnow).found_le⟩⟩
  · intro t ht
    rw [ht] at hend
    obtain ⟨rfl, hstands, hcomplete⟩ := hend
    have hfound : (Said.ledger name said).found = w.registry.orphansOn pages := hstands.found
    have hdeleted : (Said.ledger name said).deleted =
        if s.plan.dryRun then 0 else (Said.ledger name said).found := hstands.deleted
    refine ⟨rfl, rfl, rfl, rfl, congrArg Nat.cast hfound, ?_, hcomplete⟩
    show ((Said.ledger name said).deleted : Int) = _
    rw [hdeleted]
    split <;> rfl
  · intro halt hhalt
    rw [hhalt] at hend
    obtain ⟨-, phase, hreached⟩ := hend
    rw [hreached]
    exact ⟨rfl, Int.ofNat_le.mpr hlast.deleted_le, Int.ofNat_le.mpr hlast.found_le⟩

theorem two_lt_count : 2 < PointId.count := by decide

/-- Two pages made beforehand with a row for one of their two ids: an orphan stands on the first page
    in two spellings, and on the second page again. -/
def repeating : World where
  collections := [{
    name     := "c"
    contents := .scripted [
      .ok {
        records := [.text "00000000-0000-0000-0000-000000000001",
          .text "urn:uuid:00000000000000000000000000000001", .id ⟨2, two_lt_count⟩]
        next    := .text "00000000-0000-0000-0000-000000000003" },
      .ok {
        records := [.id ⟨2, two_lt_count⟩, .text "00000000-0000-0000-0000-000000000001"] }] }]
  registry    :=
    { column_named := Registry.defaultColumn_named, rows := some [some ⟨2, two_lt_count⟩] }

/-- Records are counted as often as they are sent, and an orphan once for each page. -/
theorem scanOne_counts_repeating :
    let s : Sweeper := {}
    ∃ t, (s.scanOne "c" repeating).result = .ok t ∧ t.phase = .done ∧ t.pages = 2 ∧
      t.points = 5 ∧ t.found = 2 ∧ t.deleted = 2 := by
  intro s
  have hsome : (s.scanOne "c" repeating).result.toOption.isSome = true := by decide +kernel
  cases hresult : (s.scanOne "c" repeating).result with
  | error halt => rw [hresult] at hsome; cases hsome
  | ok t =>
      obtain ⟨hok, -, -⟩ := s.scanOne_counts "c" repeating
      obtain ⟨hphase, -, hpages, hpoints, hfound, hdeleted, -⟩ := hok t hresult
      have htwo : t.found = 2 := hfound.trans (by decide +kernel)
      refine ⟨t, rfl, hphase, hpages.trans (by decide +kernel), hpoints.trans (by decide +kernel),
        htwo, ?_⟩
      rw [hdeleted]
      exact htwo

end Sweeper

end OrphanSweep
