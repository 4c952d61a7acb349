import Mathlib.Data.List.Induction
import OrphanSweep.Proofs.Registry
import OrphanSweep.Registry.History
import OrphanSweep.Registry.Query.Basic

/-! # What a history leaves

    What a history leaves behind is told from its last steps: something holds at the end if one step
    has brought it about and all the steps behind that one have spared it (`Since`).  So a registry
    has a row, a table and a way to its database exactly if the steps say so (`leaves_left`), and a
    lookup answers to that and to nothing else: not to how often a row was added, nor to other
    lookups (`lookup_over_history`).

    Whether the names of the table and of its column leave the query of a lookup sound is up to what
    writes queries, so this is told for any such fate.  Where queries are written with placeholders,
    a name can spoil the query of a table that takes every other statement (`spoiled_column`). -/

namespace OrphanSweep

/-! ## The last step that matters -/

/-- A step of a history has brought something about, after what came `earlier`, and the steps behind
    it have spared it. -/
def Since {α : Type} (brings : (earlier : List α) → α → Prop) (spares : α → Prop) (past : List α) :
    Prop :=
  ∃ earlier step later, past = earlier ++ step :: later ∧ brings earlier step ∧
    ∀ other ∈ later, spares other

section Since

variable {α : Type} {brings : (earlier : List α) → α → Prop} {spares : α → Prop}

theorem not_since_of_forall {past : List α} (h : ∀ step ∈ past, ∀ earlier, ¬ brings earlier step) :
    ¬ Since brings spares past := by
  rintro ⟨earlier, step, later, rfl, hbrings, -⟩
  exact h step (List.mem_append_right earlier List.mem_cons_self) earlier hbrings

theorem not_since_nil : ¬ Since brings spares [] := not_since_of_forall (List.forall_mem_nil _)

/-- The last step has brought it about, or has spared it. -/
theorem since_concat (past : List α) (step : α) : Since brings spares (past ++ [step]) ↔
    brings past step ∨ spares step ∧ Since brings spares past := by
  constructor
  · rintro ⟨earlier, bringing, later, hpast, hbrings, hlater⟩
    rcases List.eq_nil_or_concat later with rfl | ⟨later, last, rfl⟩
    · obtain ⟨rfl, hlast⟩ := List.append_inj' hpast rfl
      cases hlast
      exact Or.inl hbrings
    · rw [List.concat_eq_append] at hpast hlater
      rw [← List.cons_append, ← List.append_assoc] at hpast
      obtain ⟨hbefore, hlast⟩ := List.append_inj' hpast rfl
      cases hlast
      obtain ⟨hbehind, hstep⟩ := List.forall_mem_append.mp hlater
      exact Or.inr ⟨hstep _ List.mem_cons_self, earlier, bringing, later, hbefore, hbrings, hbehind⟩
  · rintro (hbrings | ⟨hstep, earlier, bringing, later, rfl, hbrings, hlater⟩)
    · exact ⟨past, step, [], rfl, hbrings, List.forall_mem_nil _⟩
    · refine ⟨earlier, bringing, later ++ [step], ?_, hbrings, ?_⟩
      · rw [List.append_assoc, List.cons_append]
      · exact List.forall_mem_append.mpr ⟨hlater, List.forall_mem_singleton.mpr hstep⟩

end Since

namespace Registry

/-! ## What steps do -/

namespace Step

/-- The step adds a row of an id. -/
def Adds (p : PointId) : Step → Prop
  | insert ids => p ∈ ids
  | _          => False

/-- The step keeps the rows of an id. -/
def Keeps (p : PointId) : Step → Prop
  | remove ids => p ∉ ids
  | drop       => False
  | _          => True

/-- The step makes the table if it is missing. -/
def Makes : Step → Prop
  | insert _ | insertEmpty | remove _ => True
  | _                                 => False

/-- Whether the step is a lookup. -/
def isLookup : Step → Bool
  | lookup _ => true
  | _        => false

end Step

/-- After these steps the table has a row of an id: one was added, and neither removed nor dropped
    with the table since. -/
def HasRow (past : List Step) (p : PointId) : Prop := Since (fun _ => Step.Adds p) (Step.Keeps p) past

/-- After these steps there is a table: it was made, and not dropped since. -/
def HasTable (past : List Step) : Prop := Since (fun _ => Step.Makes) (· ≠ .drop) past

/-- After these steps every attempt to connect fails with a failure. -/
def Refuses (past : List Step) (failure : Failure) : Prop :=
  Since (fun _ step => step = .refuse (some failure)) (fun step => ∀ other, step ≠ .refuse other) past

/-- The registry that steps leave. -/
def left (r : Registry) : List Step → Registry
  | []            => r
  | step :: steps => (r.after step).state.left steps

theorem left_append (r : Registry) (past future : List Step) :
    r.left (past ++ future) = (r.left past).left future := by
  induction past generalizing r with
  | nil => rfl
  | cons step past ih => exact ih (r.after step).state

/-- The outcome of a step is that of the step on what the steps before it have left. -/
theorem getElem?_history (r : Registry) (past : List Step) (step : Step) (future : List Step) :
    (r.history (past ++ step :: future))[past.length]? = some ((r.left past).after step) := by
  induction past generalizing r with
  | nil => rfl
  | cons first past ih => exact ih (r.after first).state

/-- Lookups leave a registry as it is, so they may be left out of a history. -/
theorem left_filter_isLookup (r : Registry) (past : List Step) :
    r.left (past.filter fun step => !step.isLookup) = r.left past := by
  induction past generalizing r with
  | nil => rfl
  | cons step past ih =>
      cases step with
      | lookup ids => exact ih r
      | _ => exact ih _

/-! ## What one step changes -/

section After

variable {r : Registry}

/-- A change of the rows of a table with a name takes place. -/
theorem state_changed (hnamed : r.isNamed = true) (next : Registry) :
    (r.changed next).state = next := by
  rw [changed, if_pos hnamed]

/-- A step changes neither the name of the table nor how its query is written. -/
theorem query_after (r : Registry) (step : Step) :
    (r.after step).state.tableName = r.tableName ∧
      (r.after step).state.queryFate = r.queryFate := by
  have hchanged : ∀ next : Registry, next.tableName = r.tableName →
      next.queryFate = r.queryFate → (r.changed next).state.tableName = r.tableName ∧
        (r.changed next).state.queryFate = r.queryFate := by
    intro next htable hfate
    rw [changed]
    split
    · exact ⟨htable, hfate⟩
    · exact ⟨rfl, rfl⟩
  cases step with
  | insert ids  => exact hchanged _ rfl rfl
  | insertEmpty => exact hchanged _ rfl rfl
  | remove ids  => exact hchanged _ rfl rfl
  | _           => exact ⟨rfl, rfl⟩

/-- After a step an id has a row if the step has added one, or has found one and kept it. -/
theorem mem_contents_after (hnamed : r.isNamed = true) (step : Step) (p : PointId) :
    some p ∈ (r.after step).state.contents ↔
      step.Adds p ∨ step.Keeps p ∧ some p ∈ r.contents := by
  cases step with
  | insert ids =>
      rw [after, state_changed hnamed]
      show some p ∈ r.contents ++ ids.map some ↔ p ∈ ids ∨ True ∧ some p ∈ r.contents
      rw [List.mem_append, List.mem_map_of_injective (Option.some_injective PointId), true_and,
        or_comm]
  | insertEmpty =>
      rw [after, state_changed hnamed]
      show some p ∈ r.contents ++ [none] ↔ False ∨ True ∧ some p ∈ r.contents
      simp
  | remove ids =>
      rw [after, state_changed hnamed]
      show some p ∈ r.contents.filter (fun row => !(ids.map some).contains row) ↔
        False ∨ p ∉ ids ∧ some p ∈ r.contents
      simp [and_comm]
  | drop =>
      show some p ∈ [] ↔ False ∨ False ∧ some p ∈ r.contents
      simp
  | _ => exact ⟨fun h => Or.inr ⟨trivial, h⟩, fun h => h.elim False.elim And.right⟩

/-- After a step there is a table if the step makes it, or has found it and does not drop it. -/
theorem isSome_rows_after (hnamed : r.isNamed = true) (step : Step) :
    (r.after step).state.rows.isSome = true ↔
      step.Makes ∨ step ≠ .drop ∧ r.rows.isSome = true := by
  cases step with
  | insert ids  => rw [after, state_changed hnamed]; exact ⟨fun _ => Or.inl trivial, fun _ => rfl⟩
  | insertEmpty => rw [after, state_changed hnamed]; exact ⟨fun _ => Or.inl trivial, fun _ => rfl⟩
  | remove ids  => rw [after, state_changed hnamed]; exact ⟨fun _ => Or.inl trivial, fun _ => rfl⟩
  | drop => simp [after, drop, Step.Makes]
  | _ => simp [after, refuse, Step.Makes]

/-- After a step connecting fails so if the step says so, or says nothing about connecting. -/
theorem refused_after (hnamed : r.isNamed = true) (step : Step) (failure : Failure) :
    (r.after step).state.refused = some failure ↔
      step = .refuse (some failure) ∨
        (∀ other, step ≠ .refuse other) ∧ r.refused = some failure := by
  cases step with
  | insert ids  => rw [after, state_changed hnamed]; simp [insert]
  | insertEmpty => rw [after, state_changed hnamed]; simp [insertEmpty]
  | remove ids  => rw [after, state_changed hnamed]; simp [remove]
  | refuse next => simp [after, refuse]
  | _ => simp [after, drop]

end After

/-! ## What all steps leave -/

/-- A registry stands as a history says. -/
structure Leaves (r : Registry) (past : List Step) (last : Registry) : Prop where
  tableName : last.tableName = r.tableName
  queryFate : last.queryFate = r.queryFate
  row       : ∀ p, some p ∈ last.contents ↔ HasRow past p
  table     : last.rows.isSome = true ↔ HasTable past
  refused   : ∀ failure, last.refused = some failure ↔ Refuses past failure

/-- **The steps tell what they leave** of a registry whose table is not made yet. -/
theorem leaves_left {r : Registry} (hnamed : r.isNamed = true) (hrows : r.rows = none)
    (hrefused : r.refused = none) (past : List Step) : r.Leaves past (r.left past) := by
  -- what a step does is told from what it has found, so the steps are taken from the last one
  induction past using List.reverseRecOn with
  | nil =>
      refine ⟨rfl, rfl, fun p => iff_of_false ?_ not_since_nil, iff_of_false ?_ not_since_nil,
        fun failure => iff_of_false ?_ not_since_nil⟩
      · rw [left, contents, hrows]
        exact List.not_mem_nil
      · rw [left, hrows]
        exact Bool.false_ne_true
      · rw [left, hrefused]
        exact (Option.some_ne_none failure).symm
  | append_singleton past step ih =>
      have hlast : r.left (past ++ [step]) = ((r.left past).after step).state :=
        r.left_append past [step]
      have hstill : (r.left past).isNamed = true := by
        rw [isNamed, ih.tableName]
        exact hnamed
      obtain ⟨htable, hfate⟩ := query_after (r.left past) step
      rw [hlast]
      refine ⟨htable.trans ih.tableName, hfate.trans ih.queryFate, fun p => ?_, ?_,
        fun failure => ?_⟩
      · rw [mem_contents_after hstill, ih.row]
        unfold HasRow
        rw [since_concat]
      · rw [isSome_rows_after hstill, ih.table]
        unfold HasTable
        rw [since_concat]
      · rw [refused_after hstill, ih.refused]
        unfold Refuses
        rw [since_concat]

/-! ## Lookups over a history -/

/-- What a lookup of some ids comes to after a history, told from its steps alone, where its query
    has a fate. -/
structure Answers (fate : Query.Fate) (table : String) (past : List Step) (ids : List PointId)
    (made : Outcome Registry (Except Failure (Option PointSet))) : Prop where
  /-- With nothing to look up there is nothing to send, whatever has happened. -/
  nothing   : ids = [] → made.log = [] ∧ made.result = .ok (some ∅)
  /-- A refusal of the database may pass. -/
  database  : ids ≠ [] → ∀ failure, Refuses past failure → failure.isOfDatabase = true →
    made.log = [] ∧ made.result = .error (.transient (.text "point lookup")
      (.told (.text failure.message)) .null)
  /-- Whatever else keeps a lookup from connecting goes through. -/
  elsewhere : ids ≠ [] → ∀ failure, Refuses past failure → failure.isOfDatabase = false →
    made.log = [] ∧ made.result = .error failure
  /-- One query finds the ids of the request that have a row, and no others. -/
  found     : ids ≠ [] → (∀ failure, ¬ Refuses past failure) → fate = .sound → HasTable past →
    made.log = [.query] ∧ ∃ known, made.result = .ok (some known) ∧
      ∀ p, p ∈ known ↔ p ∈ ids ∧ HasRow past p
  missing   : ids ≠ [] → (∀ failure, ¬ Refuses past failure) → fate = .sound → ¬ HasTable past →
    made.log = [.query] ∧ made.result = .error (.transient (.text "point lookup")
      (.missingTable table) .null)
  /-- A query that is not sound finds nothing, be there a table or not. -/
  spoiled   : ids ≠ [] → (∀ failure, ¬ Refuses past failure) → fate ≠ .sound →
    made.log.length ≤ 1 ∧ made.result = .error (.transient (.text "point lookup")
      .spoiledQuery .null)

/-- A lookup answers to the rows, the table and the way to the database that its history leaves. -/
theorem Leaves.answers {r last : Registry} {past : List Step} (h : r.Leaves past last)
    (hnamed : r.isNamed = true) (ids : List PointId) :
    Answers r.queryFate r.tableName past ids (last.after (.lookup (.ofList ids))) := by
  have hstill : last.isNamed = true := by
    rw [isNamed, h.tableName]
    exact hnamed
  have hsome : ids ≠ [] → (PointSet.ofList ids).isEmpty = false := by
    intro hids
    obtain ⟨p, hp⟩ := List.exists_mem_of_ne_nil ids hids
    rw [Bool.eq_false_iff]
    intro hempty
    exact PointSet.isEmpty_iff.mp hempty p (PointSet.mem_ofList.mpr hp)
  have hopen : (∀ failure, ¬ Refuses past failure) → last.refused = none := by
    intro hnone
    rw [Option.eq_none_iff_forall_ne_some]
    intro failure hrefused
    exact hnone failure ((h.refused failure).mp hrefused)
  have hhasRow : ∀ p, last.hasRow p = true ↔ HasRow past p := by
    intro p
    rw [hasRow, List.contains_iff_mem]
    exact h.row p
  constructor
  case nothing =>
    rintro rfl
    exact ⟨rfl, rfl⟩
  case database =>
    intro hids failure hrefuses hdatabase
    rw [after, lookup_of_refused (hsome hids) ((h.refused _).mpr hrefuses),
      connectFailure_of_isOfDatabase hdatabase]
    exact ⟨rfl, rfl⟩
  case elsewhere =>
    intro hids failure hrefuses hother
    rw [after, lookup_of_refused (hsome hids) ((h.refused _).mpr hrefuses),
      connectFailure_of_not hother]
    exact ⟨rfl, rfl⟩
  case found =>
    intro hids hnone hsound htable
    rw [after, lookup_of_sound (hsome hids) (hopen hnone) hstill (h.queryFate.trans hsound),
      reply_of_table (h.queryFate.trans hsound) (h.table.mpr htable)]
    refine ⟨rfl, _, rfl, fun p => ?_⟩
    rw [PointSet.mem_filter, PointSet.mem_ofList, hhasRow]
  case missing =>
    intro hids hnone hsound htable
    rw [after, lookup_of_sound (hsome hids) (hopen hnone) hstill (h.queryFate.trans hsound),
      reply_of_missing (h.queryFate.trans hsound) (mt h.table.mp htable), h.tableName]
    exact ⟨rfl, rfl⟩
  case spoiled =>
    intro hids hnone hspoiled
    obtain ⟨hlog, hresult⟩ := lookup_of_spoiled (hsome hids) (hopen hnone) hstill
      (fun hsound => hspoiled (h.queryFate.symm.trans hsound))
    refine ⟨hlog, ?_⟩
    rw [after, hresult]
    rfl

/-- A lookup of the registry of a table that did not exist at first. -/
theorem IsOf.answers {r : Registry} {fate : (table column : String) → Query.Fate}
    {table column : String} (h : r.IsOf { fate } table column) (htable : table ≠ "")
    (past : List Step) (ids : List PointId) :
    Answers (fate table column) table past ids ((r.left past).after (.lookup (.ofList ids))) := by
  have hnamed := h.isNamed htable
  have hanswers := (leaves_left hnamed h.rows h.refused past).answers hnamed ids
  rwa [h.queryFate, h.tableName] at hanswers

/-- **A lookup answers to its history.**  Whatever becomes of queries with the names of tables and
    columns, for every table and column with a name a lookup after any steps finds the ids of its
    request that have a row by then, with one query.  It fails if it cannot connect, if there is no
    table, or if its query is not sound.  Lookups before it make no difference. -/
theorem lookup_over_history (fate : (table column : String) → Query.Fate) {table column : String}
    (htable : table ≠ "") (hcolumn : column ≠ "") (past future : List Step) (ids : List PointId) :
    ∃ r made, define { fate } table column = .ok r ∧
      (r.history (past ++ .lookup (.ofList ids) :: future))[past.length]? = some made ∧
      Answers (fate table column) table past ids made ∧
      let quiet := past.filter fun step => !step.isLookup
      (r.history (quiet ++ .lookup (.ofList ids) :: future))[quiet.length]? = some made := by
  obtain ⟨r, hdefine, hisOf⟩ := define_of_named { fate } table hcolumn
  refine ⟨r, _, hdefine, getElem?_history r past _ future, hisOf.answers htable past ids, ?_⟩
  intro quiet
  rw [getElem?_history, left_filter_isLookup]

/-- Two rows of one id and an empty row: a lookup finds that id, and not another one. -/
theorem lookup_over_history_twice :
    let one : PointId := { val := 1 }
    let three : PointId := { val := 3 }
    let past : List Step := [.insert [one, one], .insertEmpty, .lookup (.ofList [three])]
    ∃ r made known, define { fate := Query.fate } "t" "id" = .ok r ∧
      (r.history (past ++ [.lookup (.ofList [one, three])]))[past.length]? = some made ∧
      made.log = [.query] ∧ made.result = .ok (some known) ∧ one ∈ known ∧ three ∉ known := by
  intro one three past
  have hone : HasRow past one :=
    ⟨[], .insert [one, one], _, rfl, List.mem_cons_self, by simp [Step.Keeps]⟩
  have hthree : ¬ HasRow past three := not_since_of_forall (by simp [past, Step.Adds, one, three])
  have htable : HasTable past := ⟨[], .insert [one, one], _, rfl, trivial, by simp⟩
  have hopen : ∀ failure, ¬ Refuses past failure :=
    fun failure => not_since_of_forall (by simp [past])
  obtain ⟨r, made, hdefine, hmade, hanswers, -⟩ :=
    @lookup_over_history Query.fate "t" "id" (by decide) (by decide) past [] [one, three]
  obtain ⟨hlog, known, hresult, hknown⟩ :=
    hanswers.found (List.cons_ne_nil _ _) hopen (by decide +kernel) htable
  refine ⟨r, made, known, hdefine, hmade, hlog, hresult, ?_, ?_⟩
  · exact (hknown one).mpr ⟨List.mem_cons_self, hone⟩
  · intro hfound
    exact hthree ((hknown three).mp hfound).2

/-- Where queries are written with placeholders, a tab in the name of the column spoils the query:
    the table takes its rows, and a lookup of them fails. -/
theorem spoiled_column :
    let one : PointId := { val := 1 }
    let past : List Step := [.insert [one, { val := 2 }]]
    ∃ r made, define { fate := Query.fate } "t" "a\tb" = .ok r ∧ HasRow past one ∧ HasTable past ∧
      (∀ failure, ¬ Refuses past failure) ∧
      (r.history (past ++ [.lookup (.ofList [one, { val := 3 }])]))[past.length]? = some made ∧
      made.result = .error (.transient (.text "point lookup") .spoiledQuery .null) := by
  intro one past
  have hspoiled : Query.fate "t" "a\tb" ≠ .sound := by decide +kernel
  have hopen : ∀ failure, ¬ Refuses past failure :=
    fun failure => not_since_of_forall (by simp [past])
  obtain ⟨r, hdefine, hisOf⟩ :=
    define_of_named { fate := Query.fate } "t" (show "a\tb" ≠ "" by decide)
  have hanswers := hisOf.answers (by decide) past [one, { val := 3 }]
  refine ⟨r, _, hdefine,
    ⟨[], .insert [one, { val := 2 }], [], rfl, List.mem_cons_self, List.forall_mem_nil _⟩,
    ⟨[], .insert [one, { val := 2 }], [], rfl, trivial, List.forall_mem_nil _⟩, hopen,
    getElem?_history _ past _ [], ?_⟩
  exact (hanswers.spoiled (List.cons_ne_nil _ _) hopen hspoiled).2

end Registry

end OrphanSweep
