import Mathlib.Algebra.Ring.Int.Defs
import OrphanSweep.Proofs.SetSweep

/-! # What a run that succeeds has done

    In a world of sets, a run that returns has counted and pruned every selected collection exactly,
    whatever has struck its calls on the way and however its scans took turns (`run_exact`). -/

namespace OrphanSweep

namespace Sweeper

variable (s : Sweeper)

/-- Scans that have ended as the watch says have counted exactly, each its own collection. -/
theorem exact_of_forall₂ {w after : World} {records : List ScanRecord} {tallies : List Tally}
    (h : List.Forall₂ (fun (r : ScanRecord) tally =>
      (setWatch s False w).post r.name (.ok tally) (after.collection r.name)) records tallies) :
    tallies = records.map (fun r => .exact s.plan w.registry r.name (w.held r.name)) ∧
    ∀ r ∈ records, (after.collection r.name).contents =
      .points ((w.held r.name).filter (s.plan.spares w.registry)) := by
  induction h with
  | nil => exact ⟨rfl, fun r hr => nomatch hr⟩
  | cons hfirst _ ih =>
      obtain ⟨htally, hcontents⟩ := hfirst
      obtain ⟨htallies, hrest⟩ := ih
      refine ⟨by rw [htally, htallies, List.map_cons], ?_⟩
      intro r hr
      rcases List.mem_cons.mp hr with rfl | hmem
      · exact hcontents
      · exact hrest r hmem

/-- The same by the names of the collections. -/
theorem through_exact {w : World} {names : List String} {scans : Scans} {tallies : List Tally}
    (h : (setWatch s False w).Through names scans tallies) :
    tallies = names.map (fun name => .exact s.plan w.registry name (w.held name)) ∧
    ∀ name ∈ names, (scans.state.collection name).contents =
      .points ((w.held name).filter (s.plan.spares w.registry)) := by
  obtain ⟨hnames, hpost⟩ := h
  obtain ⟨htallies, hcontents⟩ := s.exact_of_forall₂ hpost
  refine ⟨?_, ?_⟩
  · rw [htallies, ← hnames, List.map_map]
    rfl
  · intro name hname
    rw [← hnames] at hname
    obtain ⟨r, hr, rfl⟩ := List.mem_map.mp hname
    exact hcontents r hr

/-- The points of a world some of whose collections have been replaced. -/
theorem points_of_contents {w after : World} (hnodup : (w.collections.map Collection.name).Nodup)
    (hnames : after.collections.map Collection.name = w.collections.map Collection.name)
    (become : String → PointSet → PointSet)
    (hcontents : ∀ name ∈ w.collections.map Collection.name,
      (after.collection name).contents.points? =
        (w.collection name).contents.points?.map (become name)) :
    after.points = w.points.map fun (name, held) => (name, become name held) := by
  rw [World.points_eq (hnames ▸ hnodup), World.points_eq hnodup, hnames, List.map_filterMap]
  refine List.filterMap_congr fun name hname => ?_
  rw [hcontents name hname, Option.map_map, Option.map_map]
  rfl

/-- What a sweep leaves of a set is the set itself in a dry run. -/
theorem filter_spares (plan : Plan) (registry : Registry) (held : PointSet) :
    held.filter (plan.spares registry) =
      if plan.dryRun = false then held.filter registry.hasRow else held := by
  refine PointSet.ext_mem fun p => ?_
  cases hdry : plan.dryRun with
  | true => simp [Plan.spares, hdry]
  | false => simp [Plan.spares, hdry]

/-- As many points are counted as deleted as leave a set. -/
theorem deleted_exact (plan : Plan) (registry : Registry) (name : String) (held : PointSet) :
    (Tally.exact plan registry name held).deleted =
      (held.size - (held.filter (plan.spares registry)).size : Int) := by
  rw [filter_spares]
  have hsplit : (held.filter registry.hasRow).size + registry.orphans held.toList = held.size :=
    (List.length_eq_length_filter_add registry.hasRow).symm
  cases hdry : plan.dryRun with
  | true => simp [Tally.exact, hdry]
  | false =>
      simp only [Tally.exact, hdry, Bool.false_eq_true, if_false, if_true]
      omega

/-- The sum of a count over tallies that were made for names. -/
theorem total_map (count : Tally → Int) (make : String → Tally) (names : List String)
    (dryRun : Bool) :
    Summary.total count { tallies := names.map make, dryRun } =
      (names.map fun name => count (make name)).sum := by
  induction names with
  | nil => rfl
  | cons name names ih =>
      show count (make name) + Summary.total count { tallies := names.map make, dryRun } = _
      rw [ih, List.map_cons, List.sum_cons]

/-- What a run that returns has made of each collection. -/
theorem run_reconciles (turns : List Nat) (allowed : List String) {w : World} {summary : Summary}
    (hsize : 1 ≤ s.plan.pageSize) (hw : w.OfSets)
    (h : (s.run turns allowed w).result = .ok summary) :
    let names := selected allowed w.hosted
    let after := (s.run turns allowed w).state
    summary = {
      tallies := names.map fun name => .exact s.plan w.registry name (w.held name)
      dryRun  := s.plan.dryRun } ∧
    (∀ name ∈ names, (after.collection name).contents =
      .points ((w.held name).filter (s.plan.spares w.registry))) ∧
    (∀ name, name ∉ names → after.collection name = w.collection name) ∧
    after.collections.map Collection.name = w.collections.map Collection.name := by
  intro names after
  obtain ⟨listed, hlisted, ⟨-, honly⟩ | hscanned⟩ :=
    s.run_cases turns allowed w False (fun h => h.elim)
  · -- a run that returns has made its scans
    obtain ⟨failure, hfailure⟩ := honly.result
    rw [hfailure] at h
    cases h
  have hafter : after = (s.scanAll turns names listed).state := hscanned.state
  obtain ⟨tallies, hresult, rfl⟩ := hscanned.through s h
  have hnodup : names.Nodup := hw.hosted_nodup.sublist (selected_sublist allowed w.hosted)
  obtain ⟨hwatched, hthrough⟩ := s.watched_sets turns hsize hw hlisted hnodup
    (fun _ => mem_hosted) (fun h => h.elim)
  obtain ⟨rfl, hcontents⟩ := s.through_exact (hthrough tallies hresult)
  rw [hafter]
  refine ⟨rfl, hcontents, ?_, hwatched.stable.names⟩
  intro name hname
  rw [← collection_listed hlisted name]
  exact hwatched.frame name [] fun other hother =>
    s.apart_setWatch fun heq => hname (heq ▸ hother)

/-- The points of a world in which some sets have been reconciled. -/
theorem points_of_reconciled {w after : World} {names : List String} (hw : w.OfSets)
    (hhosted : ∀ name ∈ names, name ∈ w.hosted)
    (hcontents : ∀ name ∈ names, (after.collection name).contents =
      .points ((w.held name).filter (s.plan.spares w.registry)))
    (hothers : ∀ name, name ∉ names → after.collection name = w.collection name)
    (hnames : after.collections.map Collection.name = w.collections.map Collection.name) :
    after.points = w.points.map fun (name, held) =>
      (name,
        if name ∈ names ∧ s.plan.dryRun = false then held.filter w.registry.hasRow else held) := by
  refine points_of_contents hw.names hnames (fun name held =>
    if name ∈ names ∧ s.plan.dryRun = false then held.filter w.registry.hasRow else held) ?_
  intro name _
  by_cases hname : name ∈ names
  · have hheld := hw.contents (hhosted name hname)
    rw [hcontents name hname, hheld, filter_spares]
    simp [Contents.points?, hname]
  · rw [hothers name hname]
    simp [hname]

/-- **A run that returns is exact.**  Whatever has struck its calls: each selected collection holds
    its points that have a row, or all of them after a dry run; its tally counts all its points, its
    pages and its orphans, those deleted being as many as have left it; the totals are the sums; and
    every other collection is as it was. -/
theorem run_exact (turns : List Nat) (allowed : List String) {w : World} {summary : Summary}
    (hsize : 1 ≤ s.plan.pageSize) (hw : w.OfSets)
    (h : (s.run turns allowed w).result = .ok summary) :
    let names := selected allowed w.hosted
    let after := (s.run turns allowed w).state
    summary = {
      tallies := names.map fun name => .exact s.plan w.registry name (w.held name)
      dryRun  := s.plan.dryRun } ∧
    (summary.points = (names.map fun name => ((w.held name).size : Int)).sum ∧
      summary.found =
        (names.map fun name => (w.registry.orphans (w.held name).toList : Int)).sum ∧
      summary.deleted =
        (names.map fun name => ((w.held name).size - (after.held name).size : Int)).sum) ∧
    (after.points = w.points.map fun (name, held) =>
      (name,
        if name ∈ names ∧ s.plan.dryRun = false then held.filter w.registry.hasRow else held)) ∧
    ∀ name, name ∉ names → after.collection name = w.collection name := by
  intro names after
  obtain ⟨rfl, hcontents, hothers, hnames⟩ := s.run_reconciles turns allowed hsize hw h
  refine ⟨rfl, ⟨?_, ?_, ?_⟩, ?_, hothers⟩
  · exact total_map _ _ _ _
  · exact total_map _ _ _ _
  · rw [Summary.deleted, total_map]
    refine congrArg List.sum (List.map_congr_left fun name hname => ?_)
    rw [deleted_exact, World.held, World.held, hcontents name hname]
    rfl
  · refine points_of_contents hw.names hnames (fun name held =>
      if name ∈ names ∧ s.plan.dryRun = false then held.filter w.registry.hasRow else held) ?_
    intro name _
    by_cases hname : name ∈ names
    · have hheld := hw.contents (mem_hosted hname)
      rw [hcontents name hname, hheld, filter_spares]
      simp [Contents.points?, hname]
    · rw [hothers name hname]
      simp [hname]

/-- Two collections, a row for one of their points, and a first delete in each collection that is
    carried out and then lost. -/
def lossy : World where
  collections := [{ name := "a", contents := .points (.ofList [⟨1, by decide⟩, ⟨2, by decide⟩]) },
    { name := "b", contents := .points (.ofList [⟨3, by decide⟩]) }]
  registry :=
    { column_named := Registry.defaultColumn_named, rows := some [some ⟨2, by decide⟩] }
  schedule := fun kind _ n =>
    if kind = .delete ∧ n = 1 then { failure := some (.foreign .timeout []), late := true } else {}

theorem ofSets_lossy : lossy.OfSets where
  names := by decide
  unscripted := by
    intro c hc answers
    rcases List.mem_cons.mp hc with rfl | hc'
    · exact nofun
    · cases List.mem_singleton.mp hc'
      exact nofun

/-- A run of a lossy world over pages of one point, with one more attempt for each call. -/
theorem run_exact_lossy :
    let s : Sweeper := { plan := { pageSize := 1, maxRetries := 1 }, workers := 2 }
    ∃ summary, (s.run [1, 0, 1] [] lossy).result = .ok summary ∧ lossy.OfSets ∧
      summary.deleted = 2 ∧
      (s.run [1, 0, 1] [] lossy).state.points =
        [("a", .ofList [⟨2, by decide⟩]), ("b", ∅)] := by
  intro s
  have hok : (s.run [1, 0, 1] [] lossy).result.toOption.isSome = true := by decide +kernel
  obtain ⟨summary, hsummary⟩ : ∃ summary, (s.run [1, 0, 1] [] lossy).result = .ok summary := by
    cases h : (s.run [1, 0, 1] [] lossy).result with
    | error failure => rw [h] at hok; cases hok
    | ok summary => exact ⟨summary, rfl⟩
  obtain ⟨rfl, -, hpoints, -⟩ := s.run_exact [1, 0, 1] [] (by decide) ofSets_lossy hsummary
  refine ⟨_, hsummary, ofSets_lossy, by decide +kernel, ?_⟩
  rw [hpoints]
  decide +kernel

end Sweeper

end OrphanSweep
