import OrphanSweep.Proofs.Abreast
import OrphanSweep.Proofs.Deletion
import OrphanSweep.Proofs.Transparency

/-! # A dry run predicts the real one

    A dry run and a run that deletes, made from the same world, ask for the same pages and look up
    the same points, whatever strikes those calls.  The set that the one scans shrinks behind its
    cursor and the set that the other scans does not, but at the cursor both bring the same page
    (`Shadow`).  So calls fail in both runs or in neither, the waits are the same, and the two come
    to the same end, page by page and collection by collection (`dry_run_predicts`). -/

namespace OrphanSweep

/-! ## Retried calls in lockstep -/

namespace Retry

open Dialogue Comparison

variable {Ask : Type} {Reply : Ask → Type} {σ τ α β : Type} {k : Comparison Ask Reply σ τ}
variable {attempt : Dialogue Ask Reply (Except Failure α)}
variable {attempt' : Dialogue Ask Reply (Except Failure β)}
variable {good : α → β → σ → τ → Prop} {fits : σ → τ → Prop}

/-- Attempts that fail alike are followed by the same pause and by attempts that are alike. -/
theorem lockstep_attempts (hshown : ∀ event, k.agree [.shown event] [.shown event]) (label : String)
    (hattempt : ∀ s t, fits s t →
      k.Pairs (Alike good fun e e' s t => e' = e ∧ fits s t) attempt attempt' s t) (left : Nat) :
    ∀ (made : Nat) (s : σ) (t : τ), fits s t →
      k.Pairs (Alike good fun e e' s t => e' = e ∧ fits s t)
        (attempts label attempt left made) (attempts label attempt' left made) s t := by
  induction left with
  | zero => intro made s t h; exact hattempt s t h
  | succ left ih =>
      intro made s t h
      refine (hattempt s t h).bind ?_
      intro result result' s t hends
      cases hends with
      | ok hgood => exact pairs_ended (.ok hgood)
      | error hbad =>
          obtain ⟨rfl, hfits⟩ := hbad
          dsimp only
          split
          · -- the next attempts begin where the failed ones have left off
            rw [pause, pause]
            split
            · exact pairs_ended (.error ⟨rfl, hfits⟩)
            · exact pairs_shows (hshown _) (pairs_shows (hshown _) (ih (made + 1) s t hfits))
          · exact pairs_ended (.error ⟨rfl, hfits⟩)

theorem lockstep_retry (hshown : ∀ event, k.agree [.shown event] [.shown event]) (label : String)
    (hattempt : ∀ s t, fits s t →
      k.Pairs (Alike good fun e e' s t => e' = e ∧ fits s t) attempt attempt' s t) (bound : Nat)
    {s : σ} {t : τ} (h : fits s t) :
    k.Pairs (Alike good fun e e' s t => e' = e ∧ fits s t)
      (retry bound label attempt) (retry bound label attempt') s t := by
  have hnat : ¬ (bound : Int) < 0 := by omega
  rw [retry, retry, if_neg hnat, if_neg hnat]
  exact lockstep_attempts hshown label hattempt _ 0 s t h

end Retry

/-! ## Two kinds of runs -/

/-- Whether an event asks for something and changes nothing. -/
def Event.isRead : Event → Bool
  | list     => true
  | scroll _ => true
  | lookup _ => true
  | _        => false

/-- The plan with only a report. -/
def Plan.dry (plan : Plan) : Plan := { plan with dryRun := true }

/-- The plan with deletions. -/
def Plan.wet (plan : Plan) : Plan := { plan with dryRun := false }

/-- The tally with every orphan deleted that was found. -/
def Tally.carriedOut (t : Tally) : Tally := { t with deleted := t.found }

/-- The summary of a run that deletes every orphan that a dry run has found. -/
def Summary.carriedOut (s : Summary) : Summary where
  tallies := s.tallies.map Tally.carriedOut
  dryRun  := false

/-- A tally of a scan that deletes has its counts from the one of a dry scan; its phase may be
    another in between. -/
def Tally.Predicts (t t' : Tally) : Prop := ∃ phase, t' = { t.carriedOut with phase }

/-! ## A scan that deletes and its shadow -/

/-- A dry scan and one that deletes have worked on `k` pages of a set.  Their worlds differ in what
    the second has deleted, and no strike harms its deletes. -/
structure Shadow (plan : Plan) (registry : Registry) (name : String) (held : PointSet) (k : Nat)
    (v v' : World) : Prop where
  knows    : v.registry = registry ∧ v'.registry = registry
  schedule : v'.schedule = v.schedule
  signals  : v'.signals = v.signals
  aborted  : v'.aborted = v.aborted
  scrolls  : (v'.collection name).scrolls = (v.collection name).scrolls
  lookups  : (v'.collection name).lookups = (v.collection name).lookups
  whole    : (v.collection name).contents = .points held
  cleared  : Scan.Cleared plan.wet registry held k (v'.collection name)
  harmless : ∀ other n, (v.schedule .delete other n).Harmless

/-- A struck scroll of points answers with its page or with the failure. -/
theorem Strike.around_page (strike : Strike) (name : String) (offset : PointId) (limit : Int)
    (held : PointSet) :
    strike.around (Contents.scroll name offset limit) (.points held) =
      (strike.failure.elim (.ok (Contents.page held offset limit)) .error, .points held) := by
  rw [around]
  cases strike.failure with
  | none => rfl
  | some failure =>
      dsimp only
      split <;> rfl

/-- The page of a whole set at a cursor. -/
theorem PointSet.page_whole {held : PointSet} {n : Nat} {cursor : Option PointId}
    (hcursor : held.CursorAt n cursor) (limit : Int) :
    Contents.page held (cursor.getD .nil) limit =
      { records := ((held.toList.drop n).take limit.toNat).map .id
        next    := (held.toList[n + limit.toNat]?.map .id).getD .null } := by
  have hall : held.cleared (fun _ => true) n = held :=
    ext_mem fun p => by simp [mem_cleared]
  have hpage : Contents.page (held.cleared (fun _ => true) n) (cursor.getD .nil) limit = _ :=
    page_cleared hcursor limit
  rwa [hall] at hpage

namespace Shadow

variable {plan : Plan} {registry : Registry} {name : String} {held : PointSet} {k stop : Nat}
variable {v v' : World}

theorem strike (h : Shadow plan registry name held k v v') {call : Call}
    (hread : call.isDelete = false) :
    (v'.collection name).strike v'.schedule name call =
      (v.collection name).strike v.schedule name call := by
  cases call with
  | stopping => rfl
  | scroll cursor limit =>
      rw [Collection.strike, Collection.strike, h.schedule, h.scrolls]
  | lookup ids =>
      rw [Collection.strike, Collection.strike, h.schedule, h.lookups]
  | delete ids => cases hread

/-- A call that is no delete leaves a shadow. -/
theorem answer (h : Shadow plan registry name held k v v') {call : Call}
    (hread : call.isDelete = false) :
    Shadow plan registry name held k (World.answer stop name call v).state
      (World.answer stop name call v').state := by
  have hcalls := World.collection_answer stop name call v
  have hcalls' := World.collection_answer stop name call v'
  have hcounts : ∀ (w : World) (left : PointSet), (w.collection name).contents = .points left →
      ((World.answer stop name call w).state.collection name).contents = .points left := by
    intro w left hw
    rw [World.collection_answer]
    cases call with
    | stopping => exact hw
    | lookup ids => exact hw
    | delete ids => cases hread
    | scroll cursor limit =>
        show (Strike.around _ _ (w.collection name).contents).2 = _
        rw [hw, Strike.around_page]
  constructor
  · rw [World.registry_answer, World.registry_answer]
    exact h.knows
  · rw [World.schedule_answer, World.schedule_answer, h.schedule]
  · rw [World.signals_answer, World.signals_answer, h.strike hread, h.signals]
  · rw [World.aborted_answer, World.aborted_answer, h.aborted]
  · rw [hcalls, hcalls']
    cases call with
    | stopping => exact h.scrolls
    | lookup ids => exact h.scrolls
    | delete ids => cases hread
    | scroll cursor limit => exact congrArg (· + 1) h.scrolls
  · rw [hcalls, hcalls']
    cases call with
    | stopping => exact h.lookups
    | scroll cursor limit => exact h.lookups
    | delete ids => cases hread
    | lookup ids => exact congrArg (· + 1) h.lookups
  · exact hcounts v held h.whole
  · exact hcounts v' _ h.cleared
  · rw [World.schedule_answer]
    exact h.harmless

/-- Both scans are answered alike, a scroll being one at the cursor. -/
theorem heard (h : Shadow plan registry name held k v v') {call : Call}
    (hread : call.isDelete = false)
    (hscroll : ∀ cursor limit, call = .scroll cursor limit →
      held.CursorAt (k * plan.pageLength) cursor) :
    Dialogue.heard call (World.answer stop name call v') =
      Dialogue.heard call (World.answer stop name call v) := by
  have hresult : (World.answer stop name call v').result =
      (World.answer stop name call v).result := by
    rw [World.result_answer, World.result_answer, h.strike hread]
    cases call with
    | stopping =>
        show v'.stopping stop = v.stopping stop
        rw [World.stopping, World.stopping, h.signals, h.aborted]
    | lookup ids =>
        show ((v'.registry.refuse _).lookup ids).2 = ((v.registry.refuse _).lookup ids).2
        rw [h.knows.1, h.knows.2]
    | delete ids => cases hread
    | scroll cursor limit =>
        have hcursor := hscroll cursor limit rfl
        have hcleared : (v'.collection name).contents =
            .points (held.cleared (plan.wet.spares registry) (k * plan.pageLength)) := h.cleared
        show (Strike.around _ _ (v'.collection name).contents).1 =
          (Strike.around _ _ (v.collection name).contents).1
        rw [hcleared, h.whole, Strike.around_page, Strike.around_page,
          PointSet.page_cleared hcursor, PointSet.page_whole hcursor]
  rw [Dialogue.heard, Dialogue.heard, hresult, World.log_answer, World.log_answer,
    h.strike hread, h.signals]

end Shadow

/-- The world after a delete that has left some points of a collection. -/
def World.deleted (w : World) (name : String) (left : PointSet) : World :=
  w.store { w.collection name with
    contents  := .points left
    deletions := (w.collection name).deletions + 1 }

namespace Shadow

variable {plan : Plan} {registry : Registry} {name : String} {held : PointSet} {k : Nat}
variable {v v' : World}

/-- A page without orphans is behind both scans as it is. -/
theorem spared (h : Shadow plan registry name held k v v')
    (hrows : ∀ p ∈ plan.stretch held k, registry.hasRow p = true) :
    Shadow plan registry name held (k + 1) v v' :=
  { h with
    cleared := Scan.cleared_of_spared plan.wet registry held
      (fun p hp => (Bool.false_or _).trans (hrows p hp)) h.cleared }

/-- With the orphans of a page deleted, the shadow is one page on. -/
theorem pruned (h : Shadow plan registry name held k v v') {orphans : PointSet}
    (horphans : ∀ p, p ∈ orphans ↔ p ∈ plan.stretch held k ∧ registry.hasRow p = false) :
    Shadow plan registry name held (k + 1) v
      (v'.deleted name
        (held.cleared (plan.wet.spares registry) (k * plan.pageLength) \ orphans)) := by
  have hcollection : ∀ left, (v'.deleted name left).collection name =
      { v'.collection name with
        contents  := .points left
        deletions := (v'.collection name).deletions + 1 } :=
    fun left => World.collection_store name _ _ (World.name_collection v' name)
  have hids : ∀ p, p ∈ orphans ↔
      p ∈ plan.stretch held k ∧ plan.wet.spares registry p = false := horphans
  constructor
  · exact h.knows
  · exact h.schedule
  · exact h.signals
  · exact h.aborted
  · rw [hcollection]
    exact h.scrolls
  · rw [hcollection]
    exact h.lookups
  · exact h.whole
  · rw [Scan.Cleared, hcollection, Nat.succ_mul]
    exact congrArg Contents.points (PointSet.cleared_diff hids)
  · exact h.harmless

end Shadow

/-! ## The parts of a scan beside those of its shadow -/

namespace Scan

open Dialogue Comparison

variable {plan : Plan} {registry : Registry} {name : String} {held : PointSet} {k stop : Nat}
variable {v v' : World}

/-- The comparison of a dry scan with one that deletes: they ask for the same things. -/
def predicting (stop : Nat) (name : String) : Comparison Call Call.Reply World World where
  here          := World.answer stop name
  there         := World.answer stop name
  agree lines lines' := (Line.events (Call.request name) lines').filter Event.isRead =
    (Line.events (Call.request name) lines).filter Event.isRead
  within _      := True
  agree_nil     := rfl
  agree_append  := by
    intro first first' second second' hfirst hsecond
    rw [Line.events_append, Line.events_append, List.filter_append, List.filter_append, hfirst,
      hsecond]
  within_answer := fun _ _ _ => trivial

/-- A call ends in both scans, or it fails in both with the same failure. -/
abbrev InStep {α β : Type} (plan : Plan) (registry : Registry) (name : String) (held : PointSet)
    (k : Nat) (good : α → β → World → World → Prop) :
    Except Failure α → Except Failure β → World → World → Prop :=
  Alike good fun e e' v v' => e' = e ∧ Shadow plan registry name held k v v'

/-- A part of a scan ends in both, or it halts in both with the same failure. -/
abbrev HaltsAlike {α β : Type} (plan : Plan) (registry : Registry) (name : String)
    (held : PointSet) (good : α → β → World → World → Prop) :
    Except Halt α → Except Halt β → World → World → Prop :=
  Alike good fun halt halt' v v' =>
    halt'.failure = halt.failure ∧ ∃ k, Shadow plan registry name held k v v'

/-- A question that is no delete is asked in both scans. -/
theorem predicting_asks {α β : Type} {post : α → β → World → World → Prop} {call : Call}
    {resume : call.Reply → Talk α} {resume' : call.Reply → Talk β}
    (h : Shadow plan registry name held k v v') (hread : call.isDelete = false)
    (hscroll : ∀ cursor limit, call = .scroll cursor limit →
      held.CursorAt (k * plan.pageLength) cursor)
    (hresume : ∀ w w', Shadow plan registry name held k w w' →
      (predicting stop name).Pairs post (resume (World.answer stop name call v).result)
        (resume' (World.answer stop name call v).result) w w') :
    (predicting stop name).Pairs post (.asks call resume) (.asks call resume') v v' := by
  have hheard : Dialogue.heard call (World.answer stop name call v') = _ := h.heard hread hscroll
  have hresult : (World.answer stop name call v').result =
      (World.answer stop name call v).result := by
    simpa [Dialogue.answered_heard] using congrArg Line.answered hheard
  refine pairs_asks ?_ ?_
  · show (Line.events _ (Dialogue.heard call (World.answer stop name call v'))).filter _ = _
    rw [hheard]
    rfl
  · show (predicting stop name).Pairs post _
      (resume' (World.answer stop name call v').result) _ _
    rw [hresult]
    exact hresume _ _ (h.answer hread)

/-- Both scans show a line, which need not be the same. -/
theorem predicting_print {α β : Type} {post : α → β → World → World → Prop} {line line' : String}
    {talk : Talk α} {talk' : Talk β} (h : (predicting stop name).Pairs post talk talk' v v') :
    (predicting stop name).Pairs post (.shows (.print line) talk) (.shows (.print line') talk')
      v v' :=
  pairs_shows rfl h

/-- A call with its retries ends in both scans, or it halts them alike. -/
theorem predicting_call {α β : Type} {good : α → β → World → World → Prop} (what : String)
    (reached reached' : Tally) {attempt : Talk (Except Failure α)}
    {attempt' : Talk (Except Failure β)}
    (hattempt : ∀ v v', Shadow plan registry name held k v v' →
      (predicting stop name).Pairs (InStep plan registry name held k good) attempt attempt' v v')
    (h : Shadow plan registry name held k v v') :
    (predicting stop name).Pairs (HaltsAlike plan registry name held good)
      (call plan.dry name what reached attempt) (call plan.wet name what reached' attempt')
      v v' := by
  have hretry :=
    Retry.lockstep_retry (fun _ => rfl) s!"[{name}] {what}" hattempt plan.maxRetries h
  refine hretry.bind ?_
  intro result result' v v' hends
  cases hends with
  | ok hgood => exact pairs_ended (.ok hgood)
  | error hbad => exact pairs_ended (.error ⟨hbad.1, k, hbad.2⟩)

/-- The page at the cursor is the same in both scans. -/
theorem predicting_fetch {cursor : Option PointId}
    (hcursor : held.CursorAt (k * plan.pageLength) cursor)
    (h : Shadow plan registry name held k v v') :
    (predicting stop name).Pairs
      (InStep plan registry name held k fun page page' v v' => page' = page ∧
        page = ⟨plan.stretch held k, held.toList[(k + 1) * plan.pageLength]?⟩ ∧
        Shadow plan registry name held k v v')
      (fetch plan.dry name cursor) (fetch plan.wet name cursor) v v' := by
  refine predicting_asks h rfl ?_ ?_
  · rintro _ _ ⟨⟩
    exact hcursor
  · intro w w' hnext
    have hreply : (World.answer stop name (.scroll cursor plan.pageSize) v).result =
        ((v.collection name).strike v.schedule name (.scroll cursor plan.pageSize)).failure.elim
          (.ok (Contents.page held (cursor.getD .nil) plan.pageSize)) .error := by
      rw [World.result_answer]
      show (Strike.around _ _ (v.collection name).contents).1 = _
      rw [h.whole, Strike.around_page]
    refine pairs_ended ?_
    show InStep _ _ _ _ _ _ (VectorStore.scrolled name
      (World.answer stop name (.scroll cursor plan.pageSize) v).result) (VectorStore.scrolled name
      (World.answer stop name (.scroll cursor plan.pageSize) v).result) w w'
    rw [hreply]
    cases ((v.collection name).strike v.schedule name (.scroll cursor plan.pageSize)).failure with
    | some failure => exact .error ⟨rfl, hnext⟩
    | none =>
        show InStep _ _ _ _ _ _ (Page.ofRaw name _) (Page.ofRaw name _) w w'
        rw [PointSet.page_whole hcursor, Page.ofRaw_ids]
        refine .ok ⟨rfl, ?_, hnext⟩
        rw [Nat.succ_mul]
        rfl

/-- A lookup is answered alike in both scans, if at all with the ids that have a row. -/
theorem predicting_lookup {ids : PointSet} (h : Shadow plan registry name held k v v') :
    (predicting stop name).Pairs
      (InStep plan registry name held k fun known known' v v' => known' = known ∧
        known = ids.filter registry.hasRow ∧ Shadow plan registry name held k v v')
      (lookup ids) (lookup ids) v v' := by
  refine predicting_asks h rfl nofun ?_
  intro w w' hnext
  refine pairs_ended ?_
  have hreply : (World.answer stop name (.lookup ids) v).result =
      ((v.registry.refuse (((v.collection name).strike v.schedule name (.lookup ids)).failure.or
        v.registry.refused)).lookup ids).2 := World.result_answer _ _ _ _
  cases hresult : (World.answer stop name (.lookup ids) v).result with
  | error failure => exact .error ⟨rfl, hnext⟩
  | ok known =>
      refine .ok ⟨rfl, ?_, hnext⟩
      rw [hreply] at hresult
      rw [Registry.lookup_ok hresult, ← h.knows.1]
      rfl

/-! ## Deletes -/

/-- A delete that no strike harms is made once. -/
theorem run_delete {w : World} {left ids : PointSet} (what : String) (reached : Tally)
    (hharmless : ∀ n, (w.schedule .delete name n).Harmless)
    (hleft : (w.collection name).contents = .points left) :
    (call plan name what reached (delete name ids)).run (World.answer stop name) w =
      ⟨[.asked (.delete ids) (.ok ())], .ok ids.size, w.deleted name (left \ ids)⟩ := by
  have hstrike := hharmless ((w.collection name).deletions + 1)
  have hanswer : World.answer stop name (.delete ids) w =
      ⟨[], .ok (), w.deleted name (left \ ids)⟩ := by
    simp only [World.answer, World.delete, World.struck, hstrike.nudges, Strike.nudgeAll,
      around_calm hstrike.failure, hleft, Contents.delete]
    rfl
  have hattempt : (delete name ids).run (World.answer stop name) w =
      ⟨[.asked (.delete ids) (.ok ())], .ok ids.size, w.deleted name (left \ ids)⟩ := by
    simp only [delete, run, hanswer]
    rfl
  have hnat : ¬ (plan.maxRetries : Int) < 0 := by omega
  rw [call, run_bind, retry, if_neg hnat,
    Retry.run_attempts_of_ok _ _ _ (by rw [hattempt]), hattempt]
  rfl

/-- The orphans of a page are deleted in one scan, and in the other they are only reported. -/
theorem predicting_prune {t t' : Tally} {orphans : PointSet}
    (horphans : ∀ p, p ∈ orphans ↔ p ∈ plan.stretch held k ∧ registry.hasRow p = false)
    (ht : t.Predicts { t' with deleted := t'.deleted + orphans.size })
    (h : Shadow plan registry name held k v v') :
    (predicting stop name).Pairs
      (HaltsAlike plan registry name held fun t t' v v' =>
        t.Predicts t' ∧ Shadow plan registry name held (k + 1) v v')
      (prune plan.dry name t orphans) (prune plan.wet name t' orphans) v v' := by
  have hcleared : (v'.collection name).contents =
      .points (held.cleared (plan.wet.spares registry) (k * plan.pageLength)) := h.cleared
  have hharmless : ∀ n, (v'.schedule .delete name n).Harmless := by
    rw [h.schedule]
    exact h.harmless name
  obtain ⟨phase, ht⟩ := ht
  rw [prune, prune, if_pos (show plan.dry.dryRun = true from rfl),
    if_neg (show ¬ plan.wet.dryRun = true from Bool.false_ne_true)]
  refine pairs_bind_alone (run_delete "delete" _ hharmless hcleared) rfl
    (pairs_ended (.ok ⟨⟨.pruning, ?_⟩, h.pruned horphans⟩))
  exact congrArg (fun t : Tally => { t with phase := .pruning }) ht

/-- A page is looked up in both scans. -/
theorem predicting_work {t t' : Tally} (ht : t.Predicts t')
    (h : Shadow plan registry name held k v v') :
    (predicting stop name).Pairs
      (HaltsAlike plan registry name held fun t t' v v' =>
        t.Predicts t' ∧ Shadow plan registry name held (k + 1) v v')
      (work plan.dry name t (plan.stretch held k)) (work plan.wet name t' (plan.stretch held k))
      v v' := by
  rw [work, work]
  split
  · rename_i hempty
    rw [List.isEmpty_iff] at hempty
    refine pairs_ended (.ok ⟨ht, h.spared ?_⟩)
    rw [hempty]
    exact List.forall_mem_nil _
  · refine (predicting_call "point lookup" t t' (fun v v' => predicting_lookup) h).andThen ?_
      (fun _ _ _ _ hbad => .error hbad)
    rintro _ known v v' ⟨rfl, rfl, h⟩
    dsimp only
    split
    · rename_i hempty
      refine pairs_ended (.ok ⟨ht, h.spared fun p hp => ?_⟩)
      have hnot := PointSet.isEmpty_iff.mp hempty p
      rw [mem_orphans] at hnot
      simpa [hp] using hnot
    · refine predicting_print (predicting_prune (fun _ => mem_orphans) ?_ h)
      obtain ⟨phase, rfl⟩ := ht
      exact ⟨phase, rfl⟩

/-- **The loop.**  Both scans go from page to page together, whatever the length of a page. -/
theorem predicting_pages (stop bound : Nat) :
    ∀ (k : Nat) (t t' : Tally) (cursor : Option PointId) (v v' : World), t.Predicts t' →
      held.CursorAt (k * plan.pageLength) cursor → Shadow plan registry name held k v v' →
      (predicting stop name).Pairs
        (HaltsAlike plan registry name held fun t t' v v' =>
          t.Predicts t' ∧ ∃ k, Shadow plan registry name held k v v')
        (pages plan.dry name bound t cursor) (pages plan.wet name bound t' cursor) v v' := by
  induction bound with
  | zero =>
      intro k t t' cursor v v' _ _ h
      exact pairs_ended (.error ⟨rfl, k, h⟩)
  | succ bound ih =>
      intro k t t' cursor v v' ht hcursor h
      refine predicting_asks h rfl nofun fun v v' h => ?_
      split
      · exact pairs_ended (.error ⟨rfl, k, h⟩)
      · refine (predicting_call "scroll" _ _ (fun v v' => predicting_fetch hcursor) h).andThen ?_
          (fun _ _ _ _ hbad => .error hbad)
        rintro _ page v v' ⟨rfl, rfl, h⟩
        have hcounted : (counted { t with phase := .scanning }
            ⟨plan.stretch held k, held.toList[(k + 1) * plan.pageLength]?⟩).Predicts
            (counted { t' with phase := .scanning }
              ⟨plan.stretch held k, held.toList[(k + 1) * plan.pageLength]?⟩) := by
          obtain ⟨phase, rfl⟩ := ht
          exact ⟨.scanning, rfl⟩
        refine (predicting_work hcounted h).andThen ?_ (fun _ _ _ _ hbad => .error hbad)
        rintro t t' v v' ⟨ht, h⟩
        dsimp only
        cases hnext : held.toList[(k + 1) * plan.pageLength]? with
        | none => exact pairs_ended (.ok ⟨ht, k + 1, h⟩)
        | some next =>
            dsimp only
            split
            · exact pairs_ended (.error ⟨rfl, k + 1, h⟩)
            · exact ih (k + 1) t t' (some next) v v' ht (Or.inr ⟨next, rfl, hnext⟩) h

/-- **Both scans come to the same end**, and the one that deletes has deleted what the other has
    found. -/
theorem predicting_scan (stop bound : Nat) (h : Shadow plan registry name held 0 v v') :
    (predicting stop name).Pairs
      (HaltsAlike plan registry name held fun t t' v v' =>
        t' = t.carriedOut ∧ ∃ k, Shadow plan registry name held k v v')
      (scan plan.dry name bound) (scan plan.wet name bound) v v' := by
  have hpages := predicting_pages stop bound 0 { collection := name } { collection := name } none
    v v' ⟨.scanning, rfl⟩ (Or.inl ⟨Nat.zero_mul _, rfl⟩) h
  refine predicting_print (hpages.andThen ?_ fun _ _ _ _ hbad => .error hbad)
  rintro t _ v v' ⟨⟨phase, rfl⟩, h⟩
  exact predicting_print (pairs_ended (.ok ⟨rfl, h⟩))

end Scan

/-! ## Sweeps -/

/-- Before the scans of some collections, a dry run and one that deletes have worlds that are the
    same for those scans. -/
structure World.Ahead (names : List String) (v v' : World) : Prop where
  registry : v'.registry = v.registry
  schedule : v'.schedule = v.schedule
  signals  : v'.signals = v.signals
  aborted  : v'.aborted = v.aborted
  same     : ∀ name ∈ names, v'.collection name = v.collection name
  sets     : ∀ name ∈ names, ∃ held, (v.collection name).contents = .points held
  harmless : ∀ other n, (v.schedule .delete other n).Harmless

namespace Sweeper

/-- The sweeper that only reports. -/
def dry (s : Sweeper) : Sweeper := { s with plan := s.plan.dry }

/-- The sweeper that deletes. -/
def wet (s : Sweeper) : Sweeper := { s with plan := s.plan.wet }

variable (s : Sweeper) {names : List String} {name : String} {held : PointSet} {v v' w : World}

/-- A scan that is about to begin has a shadow. -/
theorem shadow_of_ahead (h : World.Ahead names v v') (hname : name ∈ names)
    (hheld : (v.collection name).contents = .points held) :
    Shadow s.plan v.registry name held 0 v v' where
  knows    := ⟨rfl, h.registry⟩
  schedule := h.schedule
  signals  := h.signals
  aborted  := h.aborted
  scrolls  := by rw [h.same name hname]
  lookups  := by rw [h.same name hname]
  whole    := hheld
  cleared  := by
    rw [Scan.Cleared, Nat.zero_mul, PointSet.cleared_zero, h.same name hname]
    exact hheld
  harmless := h.harmless

/-- The scans of one collection in both runs. -/
theorem scanOne_predicts (h : World.Ahead (name :: names) v v')
    (hheld : (v.collection name).contents = .points held) :
    let r : ScanRecord := ⟨name, (s.dry.scanOne name v).transcript⟩
    let r' : ScanRecord := ⟨name, (s.wet.scanOne name v').transcript⟩
    r'.events.filter Event.isRead = r.events.filter Event.isRead ∧
      Scan.HaltsAlike s.plan v.registry name held
        (fun t t' w w' => t' = t.carriedOut ∧ ∃ k, Shadow s.plan v.registry name held k w w')
        (s.dry.scanOne name v).result (s.wet.scanOne name v').result
        (s.dry.scanOne name v).state (s.wet.scanOne name v').state := by
  have hshadow := s.shadow_of_ahead h List.mem_cons_self hheld
  have hbound : (v'.collection name).contents.pageBound =
      (v.collection name).contents.pageBound := by
    rw [h.same name List.mem_cons_self]
  have hscan := Scan.predicting_scan s.stop (v.collection name).contents.pageBound hshadow trivial
  dsimp only [scanOne]
  rw [hbound]
  exact hscan

/-- After the scans of one collection the worlds are the same for the others. -/
theorem ahead_of_shadow (h : World.Ahead (name :: names) v v') (hnew : name ∉ names) {k : Nat}
    (hshadow : Shadow s.plan v.registry name held k (s.dry.scanOne name v).state
      (s.wet.scanOne name v').state) :
    World.Ahead names (s.dry.scanOne name v).state (s.wet.scanOne name v').state := by
  have hother : ∀ other ∈ names, other ≠ name := fun other hmem heq => hnew (heq ▸ hmem)
  constructor
  · rw [hshadow.knows.1, hshadow.knows.2]
  · exact hshadow.schedule
  · exact hshadow.signals
  · exact hshadow.aborted
  · intro other hmem
    rw [s.dry.collection_scanOne_of_ne (hother other hmem),
      s.wet.collection_scanOne_of_ne (hother other hmem)]
    exact h.same other (List.mem_cons_of_mem name hmem)
  · intro other hmem
    rw [s.dry.collection_scanOne_of_ne (hother other hmem)]
    exact h.sets other (List.mem_cons_of_mem name hmem)
  · exact hshadow.harmless

/-- A dry scan leaves every collection with what it held. -/
theorem contents_of_shadow (hheld : (v.collection name).contents = .points held) {k : Nat}
    (hshadow : Shadow s.plan v.registry name held k (s.dry.scanOne name v).state
      (s.wet.scanOne name v').state) (other : String) :
    ((s.dry.scanOne name v).state.collection other).contents = (v.collection other).contents := by
  by_cases hother : other = name
  · subst hother
    exact hshadow.whole.trans hheld.symm
  · rw [s.dry.collection_scanOne_of_ne hother]

/-- The scans of both runs, one after the other, come to the same end. -/
theorem scanEach_predicts (hnodup : names.Nodup) :
    ∀ v v', World.Ahead names v v' →
      let done := s.dry.scanEach names v
      let done' := s.wet.scanEach names v'
      (done'.records.flatMap ScanRecord.events).filter Event.isRead =
          (done.records.flatMap ScanRecord.events).filter Event.isRead ∧
        done'.result = done.result.map (List.map Tally.carriedOut) ∧
        ∀ other, (done.state.collection other).contents = (v.collection other).contents := by
  induction names with
  | nil => intro v v' _; exact ⟨rfl, rfl, fun _ => rfl⟩
  | cons name names ih =>
      intro v v' h
      obtain ⟨hnew, hrest⟩ := List.nodup_cons.mp hnodup
      obtain ⟨held, hheld⟩ := h.sets name List.mem_cons_self
      obtain ⟨hevents, hends⟩ := s.scanOne_predicts h hheld
      dsimp only
      cases hresult : (s.dry.scanOne name v).result with
      | error halt =>
          cases hresult' : (s.wet.scanOne name v').result with
          | ok tally' => rw [hresult, hresult'] at hends; cases hends
          | error halt' =>
              rw [hresult, hresult'] at hends
              obtain ⟨hfailure, k, hshadow⟩ : halt'.failure = halt.failure ∧ _ := by
                cases hends with
                | error hbad => exact hbad
              rw [scanEach_error names hresult, scanEach_error names hresult', hfailure]
              refine ⟨?_, rfl, s.contents_of_shadow hheld hshadow⟩
              rw [List.flatMap_singleton, List.flatMap_singleton]
              exact hevents
      | ok tally =>
          cases hresult' : (s.wet.scanOne name v').result with
          | error halt' => rw [hresult, hresult'] at hends; cases hends
          | ok tally' =>
              rw [hresult, hresult'] at hends
              obtain ⟨rfl, k, hshadow⟩ : tally' = tally.carriedOut ∧ _ := by
                cases hends with
                | ok hgood => exact hgood
              obtain ⟨hevents', hresults, hcontents⟩ :=
                ih hrest _ _ (s.ahead_of_shadow h hnew hshadow)
              rw [scanEach_ok names hresult, scanEach_ok names hresult']
              refine ⟨?_, ?_, ?_⟩
              · rw [List.flatMap_cons, List.flatMap_cons, List.filter_append, List.filter_append,
                  hevents, hevents']
              · dsimp only
                rw [hresults]
                cases (s.dry.scanEach names (s.dry.scanOne name v).state).result <;> rfl
              · intro other
                exact (hcontents other).trans (s.contents_of_shadow hheld hshadow other)

/-- **A dry run predicts the real one.**  In a world of sets whose deletes nothing strikes, a
    run with one worker that only reports and one that deletes list, scroll and look up the same in
    the same order, whatever strikes those calls and whatever the length of a page.  Both return or
    both fail of the same, the second having deleted what the first has found and counted all else
    alike; and the first leaves every collection with what it held. -/
theorem dry_run_predicts (turns turns' : List Nat) (allowed : List String) (hw : w.OfSets)
    (hworkers : s.workers = 1) (hdeletes : ∀ name n, (w.schedule .delete name n).Harmless) :
    let report := s.dry.run turns allowed w
    let real := s.wet.run turns' allowed w
    real.result = report.result.map Summary.carriedOut ∧
      real.log.filter Event.isRead = report.log.filter Event.isRead ∧
      ∀ name, (report.state.collection name).contents = (w.collection name).contents := by
  intro report real
  let begun : World := { w with aborted := false }
  obtain ⟨hlisted, hends⟩ := s.listing_spec begun False (fun h => h.elim)
  have hcontents : ∀ name, ((s.listing begun).state.collection name).contents =
      (w.collection name).contents :=
    fun name => congrArg Collection.contents (collection_listed hlisted name)
  rcases hends with hok | ⟨-, failure, herror⟩
  · have hone : ∀ names : List String,
        (decide (1 < s.workers) && decide (1 < names.length)) = false := by
      intro names
      rw [hworkers]
      rfl
    obtain ⟨hscanned, hlog⟩ := s.dry.run_of_each turns allowed hok (hone _)
    obtain ⟨hscanned', hlog'⟩ := s.wet.run_of_each turns' allowed hok (hone _)
    have hahead : World.Ahead (selected allowed w.hosted) (s.listing begun).state
        (s.listing begun).state := by
      refine ⟨rfl, rfl, rfl, rfl, fun _ _ => rfl, ?_, ?_⟩
      · intro name hname
        exact ⟨_, (hcontents name).trans (hw.contents (mem_hosted hname))⟩
      · intro name n
        rw [hlisted.listed.schedule]
        exact hdeletes name n
    have hnodup : (selected allowed w.hosted).Nodup :=
      hw.hosted_nodup.sublist (selected_sublist allowed w.hosted)
    obtain ⟨hevents, hresults, hkept⟩ := s.scanEach_predicts hnodup _ _ hahead
    refine ⟨?_, ?_, ?_⟩
    · have hmap : ∀ ends : Except Failure (List Tally),
          (ends.map (List.map Tally.carriedOut)).map
              (fun tallies => ({ tallies, dryRun := false } : Summary)) =
            (ends.map fun tallies => ({ tallies, dryRun := true } : Summary)).map
              Summary.carriedOut := by
        intro ends
        cases ends <;> rfl
      calc real.result
        _ = _ := hscanned'.result
        _ = _ := congrArg (Except.map _) hresults
        _ = _ := hmap _
        _ = report.result.map Summary.carriedOut := congrArg (Except.map _) hscanned.result.symm
    · simp only [report, real, hlog, hlog', List.filter_append]
      exact congrArg₂ (· ++ ·) rfl hevents
    · intro name
      rw [hscanned.state]
      exact (hkept name).trans (hcontents name)
  · -- the listings of both runs are the same, and there is nothing else
    simp only [report, real, s.dry.run_eq_of_unlisted turns allowed herror,
      s.wet.run_eq_of_unlisted turns' allowed herror]
    exact ⟨rfl, rfl, hcontents⟩

/-- Two collections whose first scrolls fail, one worker, and one more attempt for each call. -/
theorem dry_run_predicts_lossy :
    let w : World := { lossy with
      schedule := fun kind _ n =>
        if kind = .scroll ∧ n = 1 then { failure := some (.foreign .timeout []) } else {} }
    let s : Sweeper := { plan := { pageSize := 1, maxRetries := 1 } }
    let report := s.dry.run [] [] w
    let real := s.wet.run [] [] w
    real.result = report.result.map Summary.carriedOut ∧
      report.result.toOption.map Summary.found = some 2 ∧
      real.log.filter Event.isRead = report.log.filter Event.isRead ∧
      report.state.points = lossy.points ∧
      real.state.points = [("a", .ofList [⟨2, by decide⟩]), ("b", ∅)] := by
  intro w s report real
  have hsets : w.OfSets := ⟨ofSets_lossy.names, ofSets_lossy.unscripted⟩
  have hdeletes : ∀ name n, (w.schedule .delete name n).Harmless := fun _ _ => ⟨rfl, rfl⟩
  obtain ⟨hresult, hlog, -⟩ := s.dry_run_predicts [] [] [] hsets rfl hdeletes
  exact ⟨hresult, by decide +kernel, hlog, by decide +kernel, by decide +kernel⟩

end Sweeper

end OrphanSweep
