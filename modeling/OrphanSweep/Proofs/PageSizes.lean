import Mathlib.Algebra.Order.Floor.Div
import OrphanSweep.Proofs.Blocks
import OrphanSweep.Proofs.Visit

/-! # Scans with any page size

    A scan has no other measure than its cursor, and the bound on its pages is never what ends it:
    each page with another one behind it leaves less to scan (`left_visit`), so a scan with more
    room is the same scan (`pages_congr`).  A size of zero or below brings empty pages whose cursor
    is the first id.  On the first page the cursor still moves, from none to that id; on the second
    one it does not, and the scan is stuck. -/

namespace OrphanSweep

/-- Whether a call asks for a page. -/
def Call.isScroll : Call → Bool
  | scroll _ _ => true
  | _          => false

namespace Scan

open Dialogue

/-! ## The bound on the pages -/

/-- What goes on in the same way behind every value has the same run. -/
theorem run_andThen_congr {Ask : Type} {Reply : Ask → Type} {σ α β ε : Type}
    {answer : Answering Ask Reply σ} {d : Dialogue Ask Reply (Except ε α)} {s : σ}
    {next next' : α → Dialogue Ask Reply (Except ε β)}
    (h : ∀ value, (d.run answer s).result = .ok value →
      (next value).run answer (d.run answer s).state =
        (next' value).run answer (d.run answer s).state) :
    (d.andThen next).run answer s = (d.andThen next').run answer s := by
  rw [andThen, andThen, run_bind, run_bind]
  cases hresult : (d.run answer s).result with
  | error error => simp only [hresult]
  | ok value => simp only [hresult, h value hresult]

section Bound

variable (plan : Plan) (name : String) (stop : Nat)

/-- **A bound is never what ends a scan.**  Two bounds with room for all that is left give the same
    run. -/
theorem pages_congr (bound : Nat) :
    ∀ (bound' : Nat) (t : Tally) (cursor : Option PointId) (w : World),
      w.left name cursor < bound → w.left name cursor < bound' →
      (pages plan name bound t cursor).run (World.answer stop name) w =
        (pages plan name bound' t cursor).run (World.answer stop name) w := by
  induction bound with
  | zero =>
      intro bound' t cursor w h
      omega
  | succ bound ih =>
      intro bound' t cursor w h h'
      obtain ⟨bound', rfl⟩ : ∃ fewer, bound' = fewer + 1 := ⟨bound' - 1, by omega⟩
      have hvisits : ((visit plan name t cursor).andThen (onward plan name bound cursor)).run
          (World.answer stop name) w =
          ((visit plan name t cursor).andThen (onward plan name bound' cursor)).run
            (World.answer stop name) w := by
        refine run_andThen_congr fun ends hvisit => ?_
        obtain ⟨t', next⟩ := ends
        cases next with
        | none => rfl
        | some next =>
            rw [onward, onward]
            by_cases hstuck : cursor = some next
            · rw [if_pos hstuck, if_pos hstuck]
            · have hless := left_visit hvisit hstuck
              rw [if_neg hstuck, if_neg hstuck]
              exact ih bound' t' (some next) _ (by omega) (by omega)
      rw [pages_succ, pages_succ, run, run]
      -- to be asked whether to stop leaves a world as it is
      cases hstop : (World.answer stop name .stopping w).result with
      | true => rfl
      | false =>
          simp only [Bool.false_eq_true, if_false]
          rw [show (World.answer stop name .stopping w).state = w from rfl, hvisits]

/-- A scan with more room than the bound of its collection is the same scan. -/
theorem scan_congr {bound : Nat} {w : World} (h : (w.collection name).contents.pageBound ≤ bound) :
    (scan plan name bound).run (World.answer stop name) w =
      (scan plan name (w.collection name).contents.pageBound).run (World.answer stop name) w := by
  have hroom : w.left name none < (w.collection name).contents.pageBound := by
    rw [Contents.pageBound_eq]
    exact Nat.lt_succ_self _
  rw [scan, scan, run, run, andThen, andThen, run_bind, run_bind,
    pages_congr plan name stop bound _ _ none w (hroom.trans_le h) hroom]

variable {plan name} {τ : Type} {answer : Answering Call Call.Reply τ}

/-- A scan that goes through is done. -/
theorem phase_of_run {bound : Nat} {s : τ} {t : Tally}
    (h : ((scan plan name bound).run answer s).result = .ok t) : t.phase = .done := by
  have hparts : (((pages plan name bound { collection := name } none).andThen
      (close plan name)).run answer s).result = .ok t := h
  obtain ⟨last, -, hclosed, -⟩ := ok_of_andThen hparts
  cases hclosed
  rfl

end Bound

/-! ## Pages that hold nothing -/

section Still

variable {plan : Plan} {registry : Registry} {name : String} {held : PointSet} {c : Collection}
variable {asked : List Call}

/-- A page of no size brings no ids, only the first one of the set as a cursor: from the start, and
    from that id on. -/
theorem traced_visit_still {cursor : Option PointId} (t : Tally) (hsize : plan.pageLength = 0)
    (h : c.contents = .points held) (hcursor : cursor = none ∨ cursor = held.toList.head?) :
    Traced registry name (fun ends next => next.contents = .points held ∧ ends.2 = held.toList.head?)
      [.scroll cursor plan.pageSize] (visit plan name t cursor) c asked := by
  have hstands : held.CursorAt (0 * plan.pageLength) cursor := by
    rw [Nat.zero_mul]
    cases cursor with
    | none => exact Or.inl ⟨rfl, rfl⟩
    | some first =>
        have hhead := hcursor.resolve_left (Option.some_ne_none first)
        exact Or.inr ⟨first, rfl, by rw [hhead, List.head?_eq_getElem?]⟩
  have hcleared (c' : Collection) : Cleared plan registry held 0 c' ↔ c'.contents = .points held := by
    rw [Cleared, Nat.zero_mul, PointSet.cleared_zero]
  have hpage : (⟨plan.stretch held 0, held.toList[(0 + 1) * plan.pageLength]?⟩ : Page PointId) =
      ⟨[], held.toList.head?⟩ := by
    rw [Plan.stretch, hsize, List.take_zero, Nat.mul_zero, List.head?_eq_getElem?]
  show Traced registry name _ ([.scroll cursor plan.pageSize] ++ []) _ c asked
  refine (traced_call (meets_fetch plan registry name True held hstands ((hcleared c).mpr h))
    ⟨trivial, fun _ _ hnext => hnext⟩).andThen ?_
  rintro _ last ⟨hlast, rfl⟩
  rw [hpage]
  exact traced_ended ⟨(hcleared last).mp hlast, rfl⟩

/-- A scan of an empty set asks for one page. -/
theorem traced_scan_empty (hsize : plan.pageLength = 0) (h : c.contents = .points held)
    (hempty : held.toList.head? = none) :
    Traced registry name (fun _ _ => True) [.stopping, .scroll none plan.pageSize]
      (scan plan name c.contents.pageBound) c asked := by
  have hpages : Traced registry name (fun _ _ => True) [.stopping, .scroll none plan.pageSize]
      (pages plan name (held.size + 2) { collection := name } none) c asked := by
    rw [pages_succ]
    refine keeps_going ?_
    refine Keeps.andThen (traced_visit_still _ hsize h (Or.inl rfl)) ?_ fun _ _ hfalse => hfalse
    rintro ⟨t, next⟩ ⟨last, now⟩ ⟨⟨-, hnext⟩, rfl⟩
    rw [hempty] at hnext
    subst hnext
    exact ⟨trivial, by simp⟩
  rw [h]
  exact keeps_shows.mpr (Keeps.andThen hpages (fun _ _ h => h) fun _ _ hfalse => hfalse)

/-- A scan has got stuck at the first id of a set, which it has scrolled twice and left as it was. -/
structure EndsStuck (plan : Plan) (name : String) (held : PointSet) (first : PointId)
    (result : Except Halt Tally) (last : Collection × List Call) : Prop where
  failed : ∃ reached, result = .error ⟨stuck name first, reached⟩
  kept   : last.1.contents = .points held
  calls  : last.2 =
    [.stopping, .scroll none plan.pageSize, .stopping, .scroll (some first) plan.pageSize]

/-- A scan of another set gets stuck on its second page. -/
theorem keeps_scan_stuck {first : PointId} (hsize : plan.pageLength = 0)
    (h : c.contents = .points held) (hfirst : held.toList.head? = some first) :
    (scan plan name c.contents.pageBound).Keeps (fun _ _ => True) (Traces registry name)
      (EndsStuck plan name held first) (c, []) := by
  have hpages : (pages plan name (held.size + 2) { collection := name } none).Keeps (fun _ _ => True)
      (Traces registry name)
      (EndsStuck plan name held first) (c, []) := by
    rw [pages_succ]
    refine keeps_going ?_
    refine Keeps.andThen (traced_visit_still _ hsize h (Or.inl rfl)) ?_
      fun _ _ (hfalse : False) => hfalse.elim
    rintro ⟨t, next⟩ ⟨last, now⟩ ⟨⟨hlast, hnext⟩, rfl⟩
    rw [hfirst] at hnext
    subst hnext
    -- the cursor has moved from none to the first id, but there it stays
    rw [onward, if_neg (Option.some_ne_none first).symm, pages_succ]
    refine keeps_going ?_
    refine Keeps.andThen (traced_visit_still _ hsize hlast (Or.inr hfirst.symm)) ?_
      fun _ _ (hfalse : False) => hfalse.elim
    rintro ⟨t', next⟩ ⟨last', now⟩ ⟨⟨hlast', hnext⟩, rfl⟩
    rw [hfirst] at hnext
    subst hnext
    rw [onward, if_pos rfl]
    exact ⟨⟨t', rfl⟩, hlast', by simp⟩
  rw [h]
  refine keeps_shows.mpr (Keeps.andThen hpages ?_ fun halt _ hhalt => ?_)
  · rintro t last ⟨⟨reached, hreached⟩, -, -⟩
    cases hreached
  · obtain ⟨⟨reached, hreached⟩, hkept, hcalls⟩ := hhalt
    exact ⟨⟨reached, by rw [Except.error.inj hreached]⟩, hkept, hcalls⟩

end Still

/-! ## Counting scrolls -/

/-- Each block is scrolled once. -/
theorem countP_callsAt (plan : Plan) (registry : Registry) (held : PointSet) (k : Nat) :
    (plan.callsAt registry held k).countP Call.isScroll = 1 := by
  have hdeletes : (plan.deletesAt registry held k).countP Call.isScroll = 0 := by
    rw [Plan.deletesAt]
    split <;> rfl
  have hwork : (plan.workAt registry held k).countP Call.isScroll = 0 := by
    rw [Plan.workAt]
    split
    · rfl
    · rw [List.countP_cons_of_neg (by simp [Call.isScroll]), hdeletes]
  rw [Plan.callsAt, List.countP_cons_of_neg (by simp [Call.isScroll]),
    List.countP_cons_of_pos rfl, hwork]

theorem countP_askedUpTo (plan : Plan) (registry : Registry) (held : PointSet) (k : Nat) :
    (AskedUpTo plan registry held k).countP Call.isScroll = k := by
  induction k with
  | zero => rfl
  | succ k ih =>
      have hsucc : AskedUpTo plan registry held (k + 1) =
          AskedUpTo plan registry held k ++ plan.callsAt registry held k := by
        rw [AskedUpTo, List.range_succ, List.flatMap_append, List.flatMap_singleton, AskedUpTo]
      rw [hsucc, List.countP_append, ih, countP_callsAt]

end Scan

/-- A scan that nothing strikes goes through all pages of its set, if it can tell them apart. -/
theorem World.Spares.scans_pages {plan : Plan} {stop : Nat} {name : String} {w : World}
    {held : PointSet} (h : World.Spares stop name w w)
    (hheld : (w.collection name).contents = .points held) (hworks : w.registry.Works)
    (hcase : 0 < plan.pageSize ∨ held.isEmpty = true) :
    let scanned :=
      (scan plan name (w.collection name).contents.pageBound).run (World.answer stop name) w
    (∃ t, scanned.result = .ok t) ∧
      ((Line.answered scanned.transcript).map (·.1)).countP Call.isScroll = plan.pageCount held := by
  intro scanned
  rcases Nat.eq_zero_or_pos plan.pageLength with hzero | hpos
  · have hempty : held.isEmpty = true := hcase.resolve_left (by rw [Plan.pageLength] at hzero; omega)
    have hnone : held.toList.head? = none := by
      rw [List.isEmpty_iff.mp hempty, List.head?_nil]
    have hend := h.run_traces (Scan.traced_scan_empty hzero hheld hnone)
    cases hresult : scanned.result with
    | ok t =>
        rw [hresult] at hend
        have hcalls : (Line.answered scanned.transcript).map (·.1) =
            [.stopping, .scroll none plan.pageSize] := hend.2
        rw [hcalls, Plan.pageCount_of_isEmpty hempty]
        exact ⟨⟨t, rfl⟩, rfl⟩
    | error halt =>
        rw [hresult] at hend
        exact hend.elim
  · obtain ⟨hok, hcalls⟩ := h.asks_blocks hheld hpos hworks
    exact ⟨hok, by rw [hcalls, Scan.countP_askedUpTo]⟩

namespace Sweeper

variable (s : Sweeper)

/-- **Paging ends with every page size.**  If nothing strikes it, a scan of a set needs no bound on
    its pages.  Only a size of zero or below makes it fail, and only if the set is not empty: then
    the cursor stays at the first id, and the scan has scrolled twice and done nothing else.  Any
    other scan is done after as many pages as the set fills, and after one if it is empty. -/
theorem scanOne_ends (name : String) (w : World) (held : PointSet)
    (hheld : (w.collection name).contents = .points held) (hworks : w.registry.Works)
    (hgoing : w.stopping s.stop = false) (hquiet : (w.collection name).Quiet w.schedule name) :
    let scanned := s.scanOne name w
    let calls := (Line.answered scanned.transcript).map (·.1)
    let size := s.plan.pageSize
    (∀ bound, (w.collection name).contents.pageBound ≤ bound →
      (scan s.plan name bound).run (World.answer s.stop name) w = scanned) ∧
    ((∃ halt collection value detail, scanned.result = .error halt ∧
      halt.failure = .malformed collection value detail) ↔ size ≤ 0 ∧ held.isEmpty = false) ∧
    (size ≤ 0 → ∀ first, held.toList.head? = some first →
      (∃ reached, scanned.result = .error ⟨Scan.stuck name first, reached⟩) ∧
      calls = [.stopping, .scroll none size, .stopping, .scroll (some first) size] ∧
      (scanned.state.collection name).contents = .points held) ∧
    (0 < size ∨ held.isEmpty = true →
      (∃ t, scanned.result = .ok t ∧ t.phase = .done) ∧
      calls.countP Call.isScroll = max 1 (held.size ⌈/⌉ size.toNat) ∧
      (held.isEmpty = true → calls.countP Call.isScroll = 1)) := by
  intro scanned calls size
  have hspares : World.Spares s.stop name w w := ⟨rfl, rfl, hgoing, hquiet⟩
  have hstuck : size ≤ 0 → ∀ first, held.toList.head? = some first →
      Scan.EndsStuck s.plan name held first scanned.result (scanned.state.collection name, calls) :=
    fun hsize first hfirst => hspares.run_traces
      (Scan.keeps_scan_stuck (Int.toNat_of_nonpos hsize) hheld hfirst)
  have hdone : 0 < size ∨ held.isEmpty = true →
      (∃ t, scanned.result = .ok t) ∧ calls.countP Call.isScroll = s.plan.pageCount held :=
    hspares.scans_pages hheld hworks
  refine ⟨fun bound hbound => Scan.scan_congr s.plan name s.stop hbound, ⟨?_, ?_⟩, ?_, ?_⟩
  · rintro ⟨halt, -, -, -, hfailed, -⟩
    by_contra hfine
    have hcase : 0 < size ∨ held.isEmpty = true := by
      by_contra hneither
      rw [not_or, not_lt, Bool.not_eq_true] at hneither
      exact hfine hneither
    obtain ⟨⟨t, hok⟩, -⟩ := hdone hcase
    rw [hok] at hfailed
    cases hfailed
  · rintro ⟨hsize, hsome⟩
    obtain ⟨first, hfirst⟩ : ∃ first, held.toList.head? = some first := by
      rw [← Option.isSome_iff_exists, List.isSome_head?]
      simpa [PointSet.isEmpty] using hsome
    obtain ⟨reached, hfailed⟩ := (hstuck hsize first hfirst).failed
    exact ⟨_, _, _, _, hfailed, rfl⟩
  · intro hsize first hfirst
    obtain ⟨hfailed, hkept, hcalls⟩ := hstuck hsize first hfirst
    exact ⟨hfailed, hcalls, hkept⟩
  · intro hcase
    obtain ⟨⟨t, hok⟩, hcount⟩ := hdone hcase
    refine ⟨⟨t, hok, Scan.phase_of_run hok⟩, hcount, fun hempty => ?_⟩
    rw [hcount, Plan.pageCount_of_isEmpty hempty]

/-- No size is enough for the nil id, though the first page is asked for from there: the scan goes
    from no cursor to that of the nil id, and is stuck.  One id on a page takes two pages for two. -/
theorem scanOne_ends_two :
    let held := PointSet.ofList [.nil, (PointId.ofNat? 1).getD .nil]
    let w : World :=
      { collections := [{ name := "c", contents := .points held }]
        registry := { column_named := Registry.defaultColumn_named, rows := some [] } }
    let scanned (size : Int) := Sweeper.scanOne { plan := { pageSize := size } } "c" w
    let calls (size : Int) := (Line.answered (scanned size).transcript).map (·.1)
    calls (-3) = [.stopping, .scroll none (-3), .stopping, .scroll (some .nil) (-3)] ∧
      (∃ reached, (scanned (-3)).result = .error ⟨Scan.stuck "c" .nil, reached⟩) ∧
      (∃ t, (scanned 1).result = .ok t ∧ t.phase = .done) ∧
      (calls 1).countP Call.isScroll = 2 := by
  intro held w scanned calls
  have hworks : w.registry.Works := ⟨rfl, rfl, by decide, by decide +kernel⟩
  have hquiet : (w.collection "c").Quiet w.schedule "c" :=
    ⟨fun _ _ => ⟨rfl, rfl⟩, fun _ _ => ⟨rfl, rfl⟩, fun _ _ => ⟨rfl, rfl⟩⟩
  obtain ⟨-, -, hstuck, -⟩ := Sweeper.scanOne_ends { plan := { pageSize := -3 } } "c" w held rfl
    hworks rfl hquiet
  obtain ⟨-, -, -, hdone⟩ := Sweeper.scanOne_ends { plan := { pageSize := 1 } } "c" w held rfl
    hworks rfl hquiet
  obtain ⟨hfailed, hcalls, -⟩ := hstuck (by decide) .nil (by decide +kernel)
  obtain ⟨hok, hcount, -⟩ := hdone (Or.inl (by decide))
  exact ⟨hcalls, hfailed, hok, hcount.trans (by decide +kernel)⟩

end Sweeper

end OrphanSweep
