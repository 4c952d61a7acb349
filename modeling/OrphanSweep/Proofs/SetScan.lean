import OrphanSweep.Proofs.Pages
import OrphanSweep.Proofs.Scan
import OrphanSweep.Proofs.World

/-! # The scan of a set of points

    The scan of a collection that holds points is a loop over the pages of what it held at the
    start.  Its invariant after `k` pages has three parts: the cursor stands behind them, the points
    left are those of the set cleared that far (`PointSet.cleared`), and the tally is `upTo k`.  A
    call that fails leaves a set cleared as far as some page, whether it took effect or not, so the
    next attempt finds nothing that it could not have found before. -/

namespace OrphanSweep

/-! ## Counting pages -/

namespace Plan

variable (plan : Plan)

/-- The number of ids on a full page. -/
def pageLength : Nat := plan.pageSize.toNat

/-- The number of pages of a set: an empty one has a page too. -/
def pageCount (held : PointSet) : Nat :=
  max 1 ((held.size + plan.pageLength - 1) / plan.pageLength)

variable {plan} {held : PointSet} {k : Nat}

/-- There are as many pages as begin inside the set. -/
theorem lt_pageCount (hsize : 0 < plan.pageLength) :
    k < plan.pageCount held ↔ k = 0 ∨ k * plan.pageLength < held.size := by
  have hdiv : k < (held.size + plan.pageLength - 1) / plan.pageLength ↔
      k * plan.pageLength < held.size := by
    rw [← Nat.succ_le_iff, Nat.le_div_iff_mul_le hsize, Nat.succ_mul]
    omega
  rw [pageCount, ← hdiv]
  omega

/-- A page with a point behind it is not the last one. -/
theorem succ_lt_pageCount (hsize : 0 < plan.pageLength) {next : PointId}
    (hnext : held.toList[(k + 1) * plan.pageLength]? = some next) :
    k + 1 < plan.pageCount held := by
  obtain ⟨hinside, -⟩ := List.getElem?_eq_some_iff.mp hnext
  exact (lt_pageCount hsize).mpr (Or.inr hinside)

/-- A page with no point behind it is the last one. -/
theorem succ_eq_pageCount (hsize : 0 < plan.pageLength) (hk : k < plan.pageCount held)
    (hnext : held.toList[(k + 1) * plan.pageLength]? = none) :
    k + 1 = plan.pageCount held := by
  have hend : held.size ≤ (k + 1) * plan.pageLength := List.getElem?_eq_none_iff.mp hnext
  have hnot : ¬ k + 1 < plan.pageCount held := by
    rw [lt_pageCount hsize]
    omega
  omega

/-- A set ends on its last page. -/
theorem size_le_pageCount_mul (hsize : 0 < plan.pageLength) :
    held.size ≤ plan.pageCount held * plan.pageLength := by
  have hnot : ¬ (plan.pageCount held = 0 ∨
      plan.pageCount held * plan.pageLength < held.size) :=
    (lt_pageCount hsize).not.mp (Nat.lt_irrefl (plan.pageCount held))
  omega

/-- A scan with the bound of its collection has room for every page. -/
theorem pageCount_le_pageBound (hsize : 0 < plan.pageLength) :
    plan.pageCount held ≤ (Contents.points held).pageBound := by
  show plan.pageCount held ≤ held.size + 2
  by_contra hlt
  rcases (lt_pageCount hsize).mp (Nat.lt_of_not_le hlt) with hzero | hmul
  · omega
  · have hle := Nat.le_mul_of_pos_right (held.size + 2) hsize
    omega

end Plan

/-! ## The tally after some pages -/

/-- How many of some points have no row. -/
def Registry.orphans (registry : Registry) (ids : List PointId) : Nat :=
  (ids.filter fun p => !registry.hasRow p).length

/-- The tally of a scan of a set that has counted, looked up and pruned some of its pages. -/
def Tally.upTo (plan : Plan) (registry : Registry) (name : String) (held : PointSet)
    (counted found pruned : Nat) (phase : Phase) : Tally :=
  let seen k := held.toList.take (k * plan.pageLength)
  { collection := name, pages := counted, points := (seen counted).length
    found := registry.orphans (seen found)
    deleted := if plan.dryRun then 0 else registry.orphans (seen pruned), phase }

/-- The tally of a scan that has gone through all of a set. -/
def Tally.exact (plan : Plan) (registry : Registry) (name : String) (held : PointSet) : Tally where
  collection := name
  pages      := plan.pageCount held
  points     := held.size
  found      := registry.orphans held.toList
  deleted    := if plan.dryRun then 0 else registry.orphans held.toList
  phase      := .done

section Counting

variable {plan : Plan} {registry : Registry} {name : String} {held : PointSet} {k : Nat}

/-- The `k`th page of a set, counted from zero. -/
def Plan.stretch (plan : Plan) (held : PointSet) (k : Nat) : List PointId :=
  (held.toList.drop (k * plan.pageLength)).take plan.pageLength

/-- One more page has been seen. -/
theorem take_succ_mul : held.toList.take ((k + 1) * plan.pageLength) =
    held.toList.take (k * plan.pageLength) ++ plan.stretch held k := by
  rw [Nat.succ_mul, List.take_add, Plan.stretch]

theorem Registry.orphans_append (ids ids' : List PointId) :
    registry.orphans (ids ++ ids') = registry.orphans ids + registry.orphans ids' := by
  rw [orphans, List.filter_append, List.length_append, orphans, orphans]

/-- The orphans of a page, as a scan computes them. -/
theorem mem_orphans {p : PointId} :
    p ∈ PointSet.ofList (plan.stretch held k) \
        (PointSet.ofList (plan.stretch held k)).filter registry.hasRow ↔
      p ∈ plan.stretch held k ∧ registry.hasRow p = false := by
  rw [PointSet.mem_diff, PointSet.mem_filter, PointSet.mem_ofList]
  cases registry.hasRow p <;> simp

theorem size_orphans :
    (PointSet.ofList (plan.stretch held k) \
        (PointSet.ofList (plan.stretch held k)).filter registry.hasRow).size =
      registry.orphans (plan.stretch held k) := by
  have hascending : (plan.stretch held k).Pairwise (· < ·) := held.ascending.drop.take
  rw [PointSet.diff_filter, PointSet.size, PointSet.toList_filter,
    PointSet.toList_ofList hascending, Registry.orphans]

section Next

variable {counted found pruned : Nat} {phase : Phase}

/-- One more page counted. -/
theorem counted_upTo (next : Option PointId) :
    Scan.counted (.upTo plan registry name held k found pruned phase)
        { ids := plan.stretch held k, next } =
      .upTo plan registry name held (k + 1) found pruned .scanning := by
  simp only [Scan.counted, Tally.upTo, take_succ_mul, List.length_append]
  push_cast
  rfl

/-- One more page looked up. -/
theorem found_upTo {t : Tally} (h : t = .upTo plan registry name held counted k pruned phase) :
    { t with found := t.found + registry.orphans (plan.stretch held k) } =
      Tally.upTo plan registry name held counted (k + 1) pruned phase := by
  subst h
  simp only [Tally.upTo, take_succ_mul, Registry.orphans_append]
  push_cast
  rfl

/-- One more page pruned. -/
theorem deleted_upTo {t : Tally} (hwet : plan.dryRun = false)
    (h : t = .upTo plan registry name held counted found k phase) :
    { t with deleted := t.deleted + registry.orphans (plan.stretch held k) } =
      Tally.upTo plan registry name held counted found (k + 1) phase := by
  subst h
  simp only [Tally.upTo, take_succ_mul, Registry.orphans_append, hwet, Bool.false_eq_true, if_false]
  push_cast
  rfl

/-- Nothing is pruned in a dry run, nor on a page without orphans. -/
theorem upTo_of_spared
    (h : plan.dryRun = true ∨ registry.orphans (plan.stretch held k) = 0) :
    Tally.upTo plan registry name held counted found k phase =
      .upTo plan registry name held counted found (k + 1) phase := by
  simp only [Tally.upTo, take_succ_mul, Registry.orphans_append]
  rcases h with hdry | hnone
  · rw [if_pos hdry, if_pos hdry]
  · rw [hnone, Nat.add_zero]

/-- Nothing is found on a page without orphans. -/
theorem upTo_of_owned (h : registry.orphans (plan.stretch held k) = 0) :
    Tally.upTo plan registry name held counted k pruned phase =
      .upTo plan registry name held counted (k + 1) pruned phase := by
  simp only [Tally.upTo, take_succ_mul, Registry.orphans_append, h, Nat.add_zero]

end Next

end Counting

/-! ## Calls for a collection by itself -/

/-- A call is answered as the collection by itself is; if all is `calm`, without a fault and
    without being told to stop. -/
def Collection.Answers (calm : Prop) (registry : Registry) (name : String) (call : Call)
    (c : Collection) (reply : call.Reply) (next : Collection) : Prop :=
  ∃ stop strike, (calm → stop = false ∧ strike.failure = none) ∧
    c.answer registry name stop strike call = (reply, next)

namespace Scan

open Dialogue

variable (plan : Plan) (registry : Registry) (name : String) (calm : Prop) (held : PointSet)

/-- A dialogue with a collection by itself. -/
abbrev Meets {α : Type} (post : α → Collection → Prop) (talk : Talk α) (c : Collection) : Prop :=
  talk.Keeps (fun _ _ => True) (Collection.Answers calm registry name) post c

/-- The collection holds what is left of the set after `k` pages. -/
def Cleared (k : Nat) (c : Collection) : Prop :=
  c.contents = .points (held.cleared (plan.spares registry) (k * plan.pageLength))

/-- Struck or not, a scroll leaves points as they are. -/
theorem around_scroll (strike : Strike) (offset : PointId) (limit : Int) (left : PointSet) :
    (strike.around (Contents.scroll name offset limit) (.points left)).2 = .points left := by
  rcases strike.around_state (Contents.scroll name offset limit) (.points left) with h | h
  · exact h
  · rw [h]
    rfl

/-- A scroll at the cursor brings the next page and changes nothing. -/
theorem meets_fetch {k : Nat} {cursor : Option PointId} {c : Collection}
    (hcursor : held.CursorAt (k * plan.pageLength) cursor)
    (h : Cleared plan registry held k c) :
    Meets registry name calm
      (Ending
        (fun page next => Cleared plan registry held k next ∧
          page = ⟨plan.stretch held k, held.toList[(k + 1) * plan.pageLength]?⟩)
        fun next => ¬ calm ∧ Cleared plan registry held k next)
      (fetch plan name cursor) c := by
  refine ⟨trivial, ?_⟩
  rintro reply next ⟨stop, strike, hcalm, hanswer⟩
  obtain ⟨rfl, rfl⟩ := Prod.mk.inj hanswer
  have hcleared : Cleared plan registry held k
      { c with
        contents := (strike.around
          (Contents.scroll name (cursor.getD .nil) plan.pageSize) c.contents).2
        scrolls := c.scrolls + 1 } := by
    rw [h]
    exact around_scroll name strike _ _ _
  cases hreply : (strike.around
      (Contents.scroll name (cursor.getD .nil) plan.pageSize) c.contents).1 with
  | error failure =>
      refine ⟨?_, hcleared⟩
      intro hc
      rw [Strike.around, (hcalm hc).2, h] at hreply
      cases hreply
  | ok raw =>
      have hmade := Strike.around_ok hreply
      rw [hmade, h] at hreply
      have hraw : raw = Contents.page
          (held.cleared (plan.spares registry) (k * plan.pageLength)) (cursor.getD .nil)
          plan.pageSize := (Except.ok.inj hreply).symm
      show Ending _ _ (Page.ofRaw name raw) _
      rw [hraw, PointSet.page_cleared hcursor, Page.ofRaw_ids]
      refine ⟨hcleared, ?_⟩
      rw [Nat.succ_mul]
      rfl

/-- A lookup that is answered tells which of the ids have a row. -/
theorem meets_lookup (hworks : calm → registry.Works) {k : Nat} {ids : PointSet} {c : Collection}
    (h : Cleared plan registry held k c) :
    Meets registry name calm
      (Ending
        (fun known next => Cleared plan registry held k next ∧ known = ids.filter registry.hasRow)
        fun next => ¬ calm ∧ Cleared plan registry held k next)
      (lookup ids) c := by
  refine ⟨trivial, ?_⟩
  rintro reply next ⟨stop, strike, hcalm, hanswer⟩
  obtain ⟨hreply, rfl⟩ := Prod.mk.inj hanswer
  cases reply with
  | ok known =>
      have hknown := Registry.lookup_ok hreply
      exact ⟨h, hknown⟩
  | error failure =>
      refine ⟨?_, h⟩
      intro hc
      rw [(hcalm hc).2] at hreply
      cases ((hworks hc).lookup ids).symm.trans hreply

/-- The points are gone after a delete of the orphans of a page, and may be gone after one that
    failed; it can be made again. -/
theorem meets_delete {k : Nat} {ids : PointSet} {c : Collection}
    (hids : ∀ p, p ∈ ids ↔
      p ∈ plan.stretch held k ∧ plan.spares registry p = false)
    (h : Cleared plan registry held k c ∨ Cleared plan registry held (k + 1) c) :
    Meets registry name calm
      (Ending (fun count next => Cleared plan registry held (k + 1) next ∧ count = ids.size)
        fun next => ¬ calm ∧
          (Cleared plan registry held k next ∨ Cleared plan registry held (k + 1) next))
      (delete name ids) c := by
  refine ⟨trivial, ?_⟩
  rintro reply next ⟨stop, strike, hcalm, hanswer⟩
  obtain ⟨rfl, rfl⟩ := Prod.mk.inj hanswer
  rw [keeps_showAll, keeps_ended]
  -- made once or once more, the delete leaves the same
  have hmade : (Contents.delete name ids c.contents).2 =
      .points (held.cleared (plan.spares registry) ((k + 1) * plan.pageLength)) := by
    rw [Nat.succ_mul]
    rcases h with h | h
    · rw [h, Contents.delete, PointSet.cleared_diff hids]
    · rw [h, Contents.delete, Nat.succ_mul, PointSet.cleared_diff_again hids]
  cases hreply : (strike.around (Contents.delete name ids) c.contents).1 with
  | ok _ =>
      refine ⟨?_, rfl⟩
      show (strike.around _ c.contents).2 = _
      rw [Strike.around_ok hreply, hmade]
  | error failure =>
      refine ⟨?_, ?_⟩
      · intro hc
        rw [Strike.around, (hcalm hc).2] at hreply
        rcases h with h | h
        · rw [h] at hreply
          cases hreply
        · rw [h] at hreply
          cases hreply
      · show (strike.around _ c.contents).2 = _ ∨ (strike.around _ c.contents).2 = _
        rcases strike.around_state (Contents.delete name ids) c.contents with hs | hs
        · rw [hs]
          exact h
        · rw [hs]
          exact Or.inr hmade

/-- A page has been worked on, or the work has failed before or behind its delete. -/
def Worked (k : Nat) : Except Halt Tally → Collection → Prop :=
  Ending
    (fun t next => (∃ phase, t = .upTo plan registry name held (k + 1) (k + 1) (k + 1) phase) ∧
      Cleared plan registry held (k + 1) next)
    fun next => ¬ calm ∧
      (Cleared plan registry held k next ∨ Cleared plan registry held (k + 1) next)

/-- A page without a point to delete is behind the cursor as it is. -/
theorem cleared_of_spared {k : Nat} {c : Collection}
    (hspared : ∀ p ∈ plan.stretch held k, plan.spares registry p = true)
    (h : Cleared plan registry held k c) : Cleared plan registry held (k + 1) c := by
  rw [Cleared, Nat.succ_mul, ← PointSet.cleared_of_spared hspared]
  exact h

/-- The orphans of a page are deleted, unless only the report is wanted. -/
theorem meets_prune {k : Nat} {orphans : PointSet} {c : Collection}
    (horphans : ∀ p, p ∈ orphans ↔ p ∈ plan.stretch held k ∧ registry.hasRow p = false)
    (hsize : orphans.size = registry.orphans (plan.stretch held k))
    (h : Cleared plan registry held k c) :
    Meets registry name calm (Worked plan registry name calm held k)
      (prune plan name (.upTo plan registry name held (k + 1) (k + 1) k .scanning) orphans) c := by
  rw [prune]
  cases hdry : plan.dryRun with
  | true =>
      rw [if_pos rfl]
      refine ⟨⟨.scanning, upTo_of_spared (Or.inl hdry)⟩, ?_⟩
      refine cleared_of_spared plan registry held ?_ h
      intro p _
      rw [Plan.spares, hdry, Bool.true_or]
  | false =>
      rw [if_neg Bool.false_ne_true]
      have hids : ∀ p, p ∈ orphans ↔
          p ∈ plan.stretch held k ∧ plan.spares registry p = false := by
        intro p
        rw [horphans, Plan.spares, hdry, Bool.false_or]
      refine keeps_andThen (keeps_call (fun _ h => h.2)
        (fun _ h => meets_delete plan registry name calm held hids h) (Or.inl h)) ?_
        (fun _ _ h => h)
      rintro _ last ⟨hcleared, rfl⟩
      refine ⟨⟨.pruning, ?_⟩, hcleared⟩
      rw [hsize]
      exact deleted_upTo hdry rfl

/-- A page is looked up, its orphans are counted, and they are pruned. -/
theorem meets_work (hworks : calm → registry.Works) {k : Nat} {c : Collection}
    (h : Cleared plan registry held k c) :
    Meets registry name calm (Worked plan registry name calm held k)
      (work plan name (.upTo plan registry name held (k + 1) k k .scanning)
        (plan.stretch held k)) c := by
  -- a page without orphans needs no more than to be counted
  have hnone : ∀ last, registry.orphans (plan.stretch held k) = 0 →
      (∀ p ∈ plan.stretch held k, registry.hasRow p = true) →
      Cleared plan registry held k last →
      Worked plan registry name calm held k
        (.ok (.upTo plan registry name held (k + 1) k k .scanning)) last := by
    intro last hzero hrows hlast
    refine ⟨⟨.scanning, ?_⟩, ?_⟩
    · rw [upTo_of_owned hzero, upTo_of_spared (Or.inr hzero)]
    · refine cleared_of_spared plan registry held ?_ hlast
      intro p hp
      rw [Plan.spares, hrows p hp, Bool.or_true]
  rw [work]
  split
  · -- only an empty set has an empty page, and it is not looked up
    rename_i hempty
    rw [List.isEmpty_iff] at hempty
    refine hnone c ?_ ?_ h
    · rw [hempty]
      rfl
    · rw [hempty]
      intro p hp
      cases hp
  · refine keeps_andThen (keeps_call (fun _ h => h.2)
      (fun _ h => meets_lookup plan registry name calm held hworks h) h) ?_
      (fun _ _ h => ⟨h.1, Or.inl h.2⟩)
    rintro _ last ⟨hlast, rfl⟩
    dsimp only
    split
    · rename_i hempty
      have hrows : ∀ p ∈ plan.stretch held k, registry.hasRow p = true := by
        intro p hp
        have hnot := PointSet.isEmpty_iff.mp hempty p
        rw [mem_orphans] at hnot
        simpa [hp] using hnot
      refine hnone last ?_ hrows hlast
      rw [← size_orphans, PointSet.size, List.length_eq_zero_iff, ← List.isEmpty_iff]
      exact hempty
    · rw [size_orphans, found_upTo rfl]
      exact keeps_shows.mpr
        (meets_prune plan registry name calm held (fun _ => mem_orphans) size_orphans hlast)

/-- All pages have been worked on, or the scan has failed before or behind the delete of one. -/
def Scanned : Except Halt Tally → Collection → Prop :=
  Ending
    (fun t next =>
      (∃ phase, t = .upTo plan registry name held (plan.pageCount held) (plan.pageCount held)
        (plan.pageCount held) phase) ∧
      Cleared plan registry held (plan.pageCount held) next)
    fun next => ¬ calm ∧ ∃ k ≤ plan.pageCount held, Cleared plan registry held k next

/-- A cursor moves on from page to page. -/
theorem cursor_ne_next (hsize : 0 < plan.pageLength) {k : Nat} {cursor : Option PointId}
    {next : PointId} (hcursor : held.CursorAt (k * plan.pageLength) cursor)
    (hnext : held.toList[(k + 1) * plan.pageLength]? = some next) : cursor ≠ some next := by
  rintro rfl
  rcases hcursor with ⟨-, hnone⟩ | ⟨first, hfirst, hat⟩
  · cases hnone
  · cases hfirst
    obtain ⟨hi, hgeti⟩ := List.getElem?_eq_some_iff.mp hat
    obtain ⟨hj, hgetj⟩ := List.getElem?_eq_some_iff.mp hnext
    have hlt : k * plan.pageLength < (k + 1) * plan.pageLength := by
      rw [Nat.succ_mul]
      omega
    have hprecedes := List.pairwise_iff_getElem.mp held.ascending _ _ hi hj hlt
    rw [hgeti, hgetj] at hprecedes
    exact Nat.lt_irrefl next.val hprecedes

/-- **The loop.**  From a page on a scan works on all pages that are left, or fails at one of
    them. -/
theorem meets_pages (hsize : 0 < plan.pageLength) (hworks : calm → registry.Works) (bound : Nat) :
    ∀ (k : Nat) (phase : Phase) (cursor : Option PointId) (c : Collection),
      k < plan.pageCount held → plan.pageCount held ≤ bound + k →
      held.CursorAt (k * plan.pageLength) cursor → Cleared plan registry held k c →
      Meets registry name calm (Scanned plan registry name calm held)
        (pages plan name bound (.upTo plan registry name held k k k phase) cursor) c := by
  induction bound with
  | zero =>
      intro k phase cursor c hk hbound
      omega
  | succ bound ih =>
      -- a page takes one from the bound, which has room for those that are left
      intro k phase cursor c hk hbound hcursor h
      refine ⟨trivial, ?_⟩
      rintro stop next ⟨told, strike, hcalm, hanswer⟩
      obtain ⟨rfl, rfl⟩ := Prod.mk.inj hanswer
      dsimp only
      split
      · rename_i hstop
        refine ⟨?_, k, Nat.le_of_lt hk, h⟩
        intro hc
        rw [(hcalm hc).1] at hstop
        cases hstop
      · refine keeps_andThen (keeps_call (fun _ h => h.2)
          (fun _ h => meets_fetch plan registry name calm held hcursor h) h) ?_
          (fun _ _ h => ⟨h.1, k, Nat.le_of_lt hk, h.2⟩)
        rintro _ last ⟨hlast, rfl⟩
        have hwork := meets_work plan registry name calm held hworks hlast
        rw [← counted_upTo held.toList[(k + 1) * plan.pageLength]?] at hwork
        refine keeps_andThen hwork ?_ ?_
        · rintro _ after ⟨⟨phase', rfl⟩, hafter⟩
          dsimp only
          cases hnext : held.toList[(k + 1) * plan.pageLength]? with
          | none =>
              -- no point follows, so this was the last page
              rw [Plan.succ_eq_pageCount hsize hk hnext] at hafter ⊢
              exact ⟨⟨phase', rfl⟩, hafter⟩
          | some next =>
              have hcursor' : held.CursorAt ((k + 1) * plan.pageLength) (some next) :=
                Or.inr ⟨next, rfl, hnext⟩
              -- the scan goes on, for its cursor has moved
              dsimp only
              rw [if_neg (cursor_ne_next plan held hsize hcursor hnext)]
              exact ih (k + 1) phase' (some next) after (Plan.succ_lt_pageCount hsize hnext)
                (by omega) hcursor' hafter
        · -- the page failed, before its delete or behind it
          rintro _ after ⟨hnot, hafter⟩
          refine ⟨hnot, ?_⟩
          rcases hafter with hafter | hafter
          · exact ⟨k, Nat.le_of_lt hk, hafter⟩
          · exact ⟨k + 1, hk, hafter⟩

/-- What becomes of a collection of points: only the spared ones are left and the tally is exact;
    or, unless all was calm, the scan has failed and the set is cleared up to the end of a page. -/
def Reconciled : Except Halt Tally → Collection → Prop :=
  Ending
    (fun t next => t = .exact plan registry name held ∧
      next.contents = .points (held.filter (plan.spares registry)))
    fun next => ¬ calm ∧ ∃ k ≤ plan.pageCount held, Cleared plan registry held k next

/-- **A scan of points reconciles them or stops at the end of a page**, whatever strikes its
    calls. -/
theorem meets_scan (hsize : 0 < plan.pageLength) (hworks : calm → registry.Works) {c : Collection}
    (h : c.contents = .points held) :
    Meets registry name calm (Reconciled plan registry name calm held)
      (scan plan name c.contents.pageBound) c := by
  have hstart : Cleared plan registry held 0 c := by
    rw [Cleared, Nat.zero_mul, PointSet.cleared_zero]
    exact h
  have hfirst : (Tally.upTo plan registry name held 0 0 0 .scanning) = { collection := name } := by
    simp [Tally.upTo, Registry.orphans]
  have hcount : 0 < plan.pageCount held := (Plan.lt_pageCount hsize).mpr (Or.inl rfl)
  have hbound : plan.pageCount held ≤ c.contents.pageBound + 0 := by
    rw [h]
    exact Plan.pageCount_le_pageBound hsize
  have hpages := meets_pages plan registry name calm held hsize hworks c.contents.pageBound 0
    .scanning none c hcount hbound (Or.inl ⟨Nat.zero_mul _, rfl⟩) hstart
  rw [hfirst] at hpages
  have hall : held.size ≤ plan.pageCount held * plan.pageLength :=
    Plan.size_le_pageCount_mul hsize
  refine keeps_shows.mpr (keeps_andThen hpages ?_ (fun _ _ h => h))
  rintro _ last ⟨⟨phase, rfl⟩, hlast⟩
  refine keeps_shows.mpr ⟨?_, ?_⟩
  · simp only [Tally.upTo, Tally.exact, List.take_of_length_le hall]
    rfl
  · rw [Cleared, PointSet.cleared_all hall] at hlast
    exact hlast

end Scan

end OrphanSweep
