import OrphanSweep.Proofs.Attempts
import OrphanSweep.Proofs.Transcript

/-! # A scan with faults beside one without

    A scan that is not told to stop can be played on its collection alone (`run_alone`).  So a scan
    under a schedule of faults is compared with the scan of the same collection without any.  Page
    after page both meet the same contents, and what is left to strike the one is bearable for the
    calls that the other still makes (`Abreast`).  A call that fails for a while is dropped from the
    log up to the attempt that gets through, so both scans come to the same end, and the log of the
    one, settled, is the log of the other (`pairs_scan`). -/

namespace OrphanSweep

/-! ## A scan on its collection alone -/

/-- Answers a scan as its collection does by itself, and tells it to go on. -/
def Collection.alone (registry : Registry) (schedule : Schedule) (name : String) :
    Answering Call Call.Reply Collection := fun call c =>
  let made := c.answer registry name false (c.strike schedule name call) call
  ⟨[], made.1, made.2⟩

/-- A scan that nothing tells to stop is played on its collection alone. -/
theorem World.run_alone {α : Type} {stop : Nat} {name : String} (talk : Talk α) :
    ∀ w : World, w.Unnudged → w.stopping stop = false →
      let there := talk.run (World.answer stop name) w
      let alone := talk.run (Collection.alone w.registry w.schedule name) (w.collection name)
      there.transcript = alone.transcript ∧ there.result = alone.result ∧
        there.state.collection name = alone.state := by
  induction talk with
  | ended value => intro w _ _; exact ⟨rfl, rfl, rfl⟩
  | shows event rest ih =>
      intro w hw hgoing
      obtain ⟨htranscript, hresult, hstate⟩ := ih w hw hgoing
      dsimp only
      rw [Dialogue.run, Dialogue.run, htranscript]
      exact ⟨rfl, hresult, hstate⟩
  | asks call resume ih =>
      intro w hw hgoing
      obtain ⟨hlog, hsignals, hnext⟩ := hw.answer stop name call
      have hreply : (World.answer stop name call w).result =
          (Collection.alone w.registry w.schedule name call (w.collection name)).result := by
        rw [World.result_answer, hgoing]
        rfl
      have hcollection : (World.answer stop name call w).state.collection name =
          (Collection.alone w.registry w.schedule name call (w.collection name)).state := by
        rw [World.collection_answer, hgoing]
        rfl
      have hstill : (World.answer stop name call w).state.stopping stop = false := by
        rw [World.stopping, hsignals, World.aborted_answer]
        exact hgoing
      obtain ⟨htranscript, hresult, hstate⟩ := ih _ _ hnext hstill
      rw [World.registry_answer, World.schedule_answer, hcollection] at htranscript hresult hstate
      dsimp only
      rw [Dialogue.run, Dialogue.run, Dialogue.heard, Dialogue.heard, hlog, ← hreply]
      exact ⟨congrArg _ htranscript, hresult, hstate⟩

/-! ## Counting the calls for a collection -/

/-- The number of calls of a kind that were made for a collection. -/
def Collection.made (c : Collection) : CallKind → Nat
  | .list   => 0
  | .scroll => c.scrolls
  | .lookup => c.lookups
  | .delete => c.deletions

/-- One more call of a kind has been made. -/
def Collection.OneMore (kind : CallKind) (c next : Collection) : Prop :=
  next.made kind = c.made kind + 1 ∧ ∀ other, other ≠ kind → next.made other = c.made other

namespace Collection

variable (c : Collection) (contents : Contents)

theorem oneMore_scroll :
    c.OneMore .scroll { c with contents := contents, scrolls := c.scrolls + 1 } := by
  refine ⟨rfl, fun other hother => ?_⟩
  cases other <;> first | rfl | exact absurd rfl hother

theorem oneMore_lookup : c.OneMore .lookup { c with lookups := c.lookups + 1 } := by
  refine ⟨rfl, fun other hother => ?_⟩
  cases other <;> first | rfl | exact absurd rfl hother

theorem oneMore_delete :
    c.OneMore .delete { c with contents := contents, deletions := c.deletions + 1 } := by
  refine ⟨rfl, fun other hother => ?_⟩
  cases other <;> first | rfl | exact absurd rfl hother

end Collection

/-- The calls made for a collection are at most those made for another. -/
def Collection.Within (last c : Collection) : Prop := ∀ kind, c.made kind ≤ last.made kind

theorem Collection.within_alone {registry : Registry} {schedule : Schedule} {name : String}
    {last : Collection} (call : Call) (c : Collection)
    (h : last.Within (Collection.alone registry schedule name call c).state) : last.Within c := by
  intro kind
  refine Nat.le_trans ?_ (h kind)
  cases call <;> cases kind <;>
    first | exact Nat.le_refl _ | exact Nat.le_succ _

/-! ## Two scans abreast -/

namespace Scan

open Dialogue

variable (plan : Plan) (registry : Registry) (schedule : Schedule) (name : String)
variable (last : Collection)

/-- The comparison of a scan under a schedule with one without faults, up to the calls that the
    latter makes in all. -/
abbrev abreast : Comparison Call Call.Reply Collection Collection :=
  settling (Call.request name) (Collection.alone registry schedule name)
    (Collection.alone registry Schedule.calm name) last.Within
    (fun call c => Collection.within_alone call c)

/-- Both collections hold the same points, and the calls still to come are bearable. -/
structure Abreast (c c' : Collection) : Prop where
  contents : ∃ held, c.contents = .points held ∧ c'.contents = .points held
  bearable : ∀ kind, Bearable kind plan.maxRetries (schedule kind (some name))
    (last.made kind - c'.made kind) (c.made kind)

/-- A call of some kind is in progress that will get through after `vain` failed attempts; it has
    left contents that are alike as far as the call goes. -/
structure InCall (kind : CallKind) (alike : PointSet → PointSet → Prop) (vain : Nat)
    (c c' : Collection) : Prop where
  contents : ∃ held held', c.contents = .points held ∧ c'.contents = .points held' ∧
    alike held held'
  through  : GetsThrough kind (schedule kind (some name)) vain (c.made kind)
  rest     : Bearable kind plan.maxRetries (schedule kind (some name))
    (last.made kind - (c'.made kind + 1)) (c.made kind + vain + 1)
  others   : ∀ other, other ≠ kind → Bearable other plan.maxRetries (schedule other (some name))
    (last.made other - c'.made other) (c.made other)

variable {plan registry schedule name last}
variable {kind : CallKind} {alike : PointSet → PointSet → Prop} {vain : Nat}
variable {c c' next next' : Collection}

/-- A call that the scan without faults makes gets through in the other one. -/
theorem Abreast.inCall (h : Abreast plan schedule name last c c') (halike : ∀ held, alike held held)
    (hmade : c'.made kind + 1 ≤ last.made kind) :
    ∃ vain ≤ plan.maxRetries, InCall plan schedule name last kind alike vain c c' := by
  obtain ⟨held, hheld, hheld'⟩ := h.contents
  have hcalls : last.made kind - c'.made kind = last.made kind - (c'.made kind + 1) + 1 := by omega
  have hbearable := h.bearable kind
  rw [hcalls] at hbearable
  obtain ⟨vain, hvain, hthrough, hrest⟩ := hbearable
  exact ⟨vain, hvain, ⟨held, held, hheld, hheld', halike held⟩, hthrough, hrest,
    fun other _ => h.bearable other⟩

/-- A failed attempt takes one from those to come. -/
theorem InCall.failed (h : InCall plan schedule name last kind alike (vain + 1) c c')
    (hmade : c.OneMore kind next)
    (hcontents : ∃ held held', next.contents = .points held ∧ c'.contents = .points held' ∧
      alike held held') :
    InCall plan schedule name last kind alike vain next c' where
  contents := hcontents
  through  := by
    rw [hmade.1]
    exact h.through.2
  rest     := by
    have hcount : next.made kind + vain + 1 = c.made kind + (vain + 1) + 1 := by
      rw [hmade.1]
      omega
    rw [hcount]
    exact h.rest
  others   := fun other hother => by
    rw [hmade.2 other hother]
    exact h.others other hother

/-- The attempt that gets through ends the call. -/
theorem InCall.done (h : InCall plan schedule name last kind alike 0 c c')
    (hmade : c.OneMore kind next) (hmade' : c'.OneMore kind next')
    (hcontents : ∃ held, next.contents = .points held ∧ next'.contents = .points held) :
    Abreast plan schedule name last next next' where
  contents := hcontents
  bearable := fun other => by
    by_cases hother : other = kind
    · subst hother
      rw [hmade.1, hmade'.1]
      exact h.rest
    · rw [hmade.2 other hother, hmade'.2 other hother]
      exact h.others other hother

/-! ## Calls abreast -/

section Calls

variable {α : Type} {attempt : Talk (Except Failure α)}

variable (kind alike) in
/-- A call gets through in both scans, with the same value. -/
theorem pairs_call (hfew : plan.maxRetries ≤ Retry.writableRetries) (what : String)
    (reached : Tally) (h : Abreast plan schedule name last c c')
    (halike : ∀ held, alike held held)
    (hmade : c'.OneMore kind
      (attempt.run (Collection.alone registry Schedule.calm name) c').state)
    (hfail : ∀ vain c, InCall plan schedule name last kind alike (vain + 1) c c' →
      FailsOnce (Call.request name) (Collection.alone registry schedule name) attempt c
        fun next => InCall plan schedule name last kind alike vain next c')
    (hlast : ∀ c, InCall plan schedule name last kind alike 0 c c' →
      (abreast registry schedule name last).Pairs
        (Both fun _ => Abreast plan schedule name last) attempt attempt c c') :
    (abreast registry schedule name last).Pairs (Both fun _ => Abreast plan schedule name last)
      (call plan name what reached attempt) (call plan name what reached attempt) c c' := by
  have hretry : (abreast registry schedule name last).Pairs
      (Both fun _ => Abreast plan schedule name last)
      (retry plan.maxRetries s!"[{name}] {what}" attempt)
      (retry plan.maxRetries s!"[{name}] {what}" attempt) c c' := by
    rw [pairs_settling]
    intro hend
    have hnat : ¬ (plan.maxRetries : Int) < 0 := by omega
    -- the scan without faults makes one call, so the other has one to get through
    have hwithin :
        last.Within (attempt.run (Collection.alone registry Schedule.calm name) c').state := by
      rw [retry, if_neg hnat] at hend
      exact Retry.within_attempts (fun call c => Collection.within_alone call c) hend
    have hcount := hwithin kind
    rw [hmade.1] at hcount
    obtain ⟨vain, hvain, hcall⟩ := h.inCall halike hcount
    exact pairs_settling.mp (Retry.pairs_retry
      (fun vain c => InCall plan schedule name last kind alike vain c c') _ hfew hfail hlast hvain
      hcall) hend
  refine hretry.bind ?_
  rintro _ _ c c' ⟨value, rfl, rfl, hgood⟩
  exact Comparison.pairs_ended ⟨value, rfl, rfl, hgood⟩

end Calls

/-! ## Failed attempts -/

section Failed

/-- A call that would answer fails with the failure of its strike, and has had its effect or
    none. -/
theorem around_failure {σ α : Type} {strike : Strike} {act : σ → Except Failure α × σ} {s after : σ}
    {value : α} {failure : Failure} (h : strike.failure = some failure)
    (hact : act s = (.ok value, after)) :
    strike.around act s = (.error failure, s) ∨ strike.around act s = (.error failure, after) := by
  rw [Strike.around, h]
  dsimp only
  split
  · rw [hact]
    exact Or.inr rfl
  · exact Or.inl rfl

theorem around_calm {σ α : Type} {strike : Strike} (h : strike.failure = none)
    (act : σ → Except Failure α × σ) (s : σ) : strike.around act s = act s := by
  rw [Strike.around, h]

theorem transient_refusal (operation : String) (collection : Value) {failure : Failure}
    (h : failure.isInterrupt = false) :
    Retry.isTransient (VectorStore.refusal operation collection failure) = true := by
  rw [VectorStore.refusal, h]
  rfl

theorem failsOnce_fetch (cursor : Option PointId)
    (h : InCall plan schedule name last .scroll Eq (vain + 1) c c') :
    FailsOnce (Call.request name) (Collection.alone registry schedule name)
      (fetch plan name cursor) c
      fun next => InCall plan schedule name last .scroll Eq vain next c' := by
  obtain ⟨held, held', hheld, hheld', rfl⟩ := h.contents
  obtain ⟨failure, hfailure, hpass⟩ := h.through.1
  -- a page changes nothing, so it does not matter whether it was sent
  have hreply : (Collection.strike schedule name c (.scroll cursor plan.pageSize)).around
      (Contents.scroll name (cursor.getD .nil) plan.pageSize) c.contents =
        (.error failure, .points held) := by
    rw [hheld]
    rcases around_failure hfailure rfl with heq | heq
    · exact heq
    · exact heq
  have hrun : (fetch plan name cursor).run (Collection.alone registry schedule name) c =
      ⟨[.asked (.scroll cursor plan.pageSize) (.error failure)],
        .error (VectorStore.refusal "scroll" (.text name) failure),
        { c with contents := .points held, scrolls := c.scrolls + 1 }⟩ := by
    simp only [fetch, run, heard, Collection.alone, Collection.answer, hreply]
    rfl
  refine ⟨⟨_, by rw [hrun], transient_refusal _ _ hpass⟩, ?_, ?_⟩
  · rw [hrun]
    exact ⟨_, [], rfl, rfl, List.forall_mem_nil _⟩
  · rw [hrun]
    exact h.failed (c.oneMore_scroll _) ⟨held, held, rfl, hheld', rfl⟩

theorem failsOnce_lookup {ids : PointSet} (hids : ids.isEmpty = false)
    (h : InCall plan schedule name last .lookup Eq (vain + 1) c c') :
    FailsOnce (Call.request name) (Collection.alone registry schedule name) (lookup ids) c
      fun next => InCall plan schedule name last .lookup Eq vain next c' := by
  obtain ⟨raised, hraised, hdatabase⟩ := h.through.1
  let failure : Failure := .transient (.text "point lookup") (.told (.text raised.message)) .null
  have hreply : ((registry.refuse ((Collection.strike schedule name c (.lookup ids)).failure.or
      registry.refused)).lookup ids).2 = .error failure := by
    have hrefused : (Collection.strike schedule name c (.lookup ids)).failure.or registry.refused =
        some raised := by
      rw [show (Collection.strike schedule name c (.lookup ids)).failure = some raised from hraised]
      rfl
    rw [Registry.lookup_of_refused hids hrefused,
      Registry.connectFailure_of_isOfDatabase hdatabase]
  have hrun : (lookup ids).run (Collection.alone registry schedule name) c =
      ⟨[.asked (.lookup ids) (.error failure)], .error failure,
        { c with lookups := c.lookups + 1 }⟩ := by
    simp only [lookup, run, heard, Collection.alone, Collection.answer, hreply]
    rfl
  refine ⟨⟨_, by rw [hrun], rfl⟩, ?_, ?_⟩
  · rw [hrun]
    exact ⟨_, [], rfl, rfl, List.forall_mem_nil _⟩
  · rw [hrun]
    exact h.failed c.oneMore_lookup h.contents

theorem failsOnce_delete {ids : PointSet}
    (h : InCall plan schedule name last .delete (fun held held' => held \ ids = held' \ ids)
      (vain + 1) c c') :
    FailsOnce (Call.request name) (Collection.alone registry schedule name) (delete name ids) c
      fun next => InCall plan schedule name last .delete
        (fun held held' => held \ ids = held' \ ids) vain next c' := by
  obtain ⟨held, held', hheld, hheld', halike⟩ := h.contents
  obtain ⟨failure, hfailure, hpass⟩ := h.through.1
  -- the points may be gone, but then they are gone after the next attempt too
  obtain ⟨left, hleft, hreply⟩ : ∃ left : PointSet, left \ ids = held' \ ids ∧
      (Collection.strike schedule name c (.delete ids)).around (Contents.delete name ids)
        c.contents = (.error failure, .points left) := by
    have hact : Contents.delete name ids (.points held) = (.ok (), .points (held \ ids)) := rfl
    rw [hheld]
    rcases around_failure hfailure hact with heq | heq
    · exact ⟨held, halike, heq⟩
    · refine ⟨held \ ids, ?_, heq⟩
      rw [← halike]
      exact PointSet.ext_mem fun p => by simp
  have hrun : (delete name ids).run (Collection.alone registry schedule name) c =
      ⟨[.asked (.delete ids) (.error failure),
          .shown (.print (VectorStore.deletionLine name ids.size failure))],
        .error (VectorStore.refusal "delete points" (.text name) failure),
        { c with contents := .points left, deletions := c.deletions + 1 }⟩ := by
    have hpass' : failure.isInterrupt = false := hpass
    simp only [delete, run, heard, Collection.alone, Collection.answer, hreply,
      VectorStore.deletionEvents, hpass']
    rfl
  refine ⟨⟨_, by rw [hrun], transient_refusal _ _ hpass⟩, ?_, ?_⟩
  · rw [hrun]
    refine ⟨_, [.print (VectorStore.deletionLine name ids.size failure)], rfl, rfl, ?_⟩
    intro event hevent
    rw [List.mem_singleton.mp hevent]
    rfl
  · rw [hrun]
    exact h.failed (c.oneMore_delete _) ⟨left, held', rfl, hheld', hleft⟩

end Failed

/-! ## Attempts that get through -/

section Last

theorem pairs_fetch (cursor : Option PointId)
    (h : InCall plan schedule name last .scroll Eq 0 c c') :
    (abreast registry schedule name last).Pairs (Both fun _ => Abreast plan schedule name last)
      (fetch plan name cursor) (fetch plan name cursor) c c' := by
  obtain ⟨held, held', hheld, hheld', rfl⟩ := h.contents
  let rest := (held.filter fun p => cursor.getD .nil ≤ p).toList
  let page : Page PointId :=
    ⟨rest.take plan.pageSize.toNat, (rest.drop plan.pageSize.toNat).head?⟩
  have hpage : Page.ofRaw name (Contents.page held (cursor.getD .nil) plan.pageSize) = .ok page :=
    Page.ofRaw_ids name page.ids page.next
  have hrun : ∀ (faults : Schedule) (d : Collection), d.contents = .points held →
      (d.strike faults name (.scroll cursor plan.pageSize)).failure = none →
      (fetch plan name cursor).run (Collection.alone registry faults name) d =
        ⟨[.asked (.scroll cursor plan.pageSize)
            (.ok (Contents.page held (cursor.getD .nil) plan.pageSize))], .ok page,
          { d with contents := .points held, scrolls := d.scrolls + 1 }⟩ := by
    intro faults d hd hstrike
    simp only [fetch, run, heard, Collection.alone, Collection.answer, around_calm hstrike, hd,
      Contents.scroll, VectorStore.scrolled, hpage]
    rfl
  rw [pairs_settling, hrun schedule c hheld h.through, hrun Schedule.calm c' hheld' rfl]
  intro hend
  exact ⟨rfl, page, rfl, rfl,
    h.done (c.oneMore_scroll _) (c'.oneMore_scroll _) ⟨held, rfl, rfl⟩⟩

theorem pairs_lookup (hworks : registry.Works) {ids : PointSet}
    (h : InCall plan schedule name last .lookup Eq 0 c c') :
    (abreast registry schedule name last).Pairs (Both fun _ => Abreast plan schedule name last)
      (lookup ids) (lookup ids) c c' := by
  obtain ⟨held, held', hheld, hheld', rfl⟩ := h.contents
  have hrun : ∀ (faults : Schedule) (d : Collection),
      (d.strike faults name (.lookup ids)).failure = none →
      (lookup ids).run (Collection.alone registry faults name) d =
        ⟨[.asked (.lookup ids) (.ok (ids.filter registry.hasRow))],
          .ok (ids.filter registry.hasRow), { d with lookups := d.lookups + 1 }⟩ := by
    intro faults d hstrike
    have hreply : ((registry.refuse ((d.strike faults name (.lookup ids)).failure.or
        registry.refused)).lookup ids).2 = .ok (ids.filter registry.hasRow) := by
      rw [hstrike]
      exact hworks.lookup ids
    simp only [lookup, run, heard, Collection.alone, Collection.answer, hreply]
    rfl
  rw [pairs_settling, hrun schedule c h.through, hrun Schedule.calm c' rfl]
  intro hend
  exact ⟨rfl, _, rfl, rfl, h.done c.oneMore_lookup c'.oneMore_lookup ⟨held, hheld, hheld'⟩⟩

theorem pairs_delete {ids : PointSet}
    (h : InCall plan schedule name last .delete (fun held held' => held \ ids = held' \ ids) 0
      c c') :
    (abreast registry schedule name last).Pairs (Both fun _ => Abreast plan schedule name last)
      (delete name ids) (delete name ids) c c' := by
  obtain ⟨held, held', hheld, hheld', halike⟩ := h.contents
  have hrun : ∀ (faults : Schedule) (d : Collection) (held : PointSet),
      d.contents = .points held → (d.strike faults name (.delete ids)).failure = none →
      (delete name ids).run (Collection.alone registry faults name) d =
        ⟨[.asked (.delete ids) (.ok ())], .ok ids.size,
          { d with contents := .points (held \ ids), deletions := d.deletions + 1 }⟩ := by
    intro faults d held hd hstrike
    simp only [delete, run, heard, Collection.alone, Collection.answer, around_calm hstrike, hd,
      Contents.delete, VectorStore.deletionEvents, VectorStore.deleted]
    rfl
  rw [pairs_settling, hrun schedule c held hheld h.through, hrun Schedule.calm c' held' hheld' rfl]
  intro hend
  refine ⟨rfl, _, rfl, rfl, h.done (c.oneMore_delete _) (c'.oneMore_delete _) ?_⟩
  exact ⟨held \ ids, rfl, halike ▸ rfl⟩

end Last

/-! ## Pages abreast -/

/-- What is shown changes no state. -/
theorem state_showAll {Ask : Type} {Reply : Ask → Type} {σ α : Type}
    (answer : Answering Ask Reply σ) (events : List Event) (rest : Dialogue Ask Reply α) (s : σ) :
    ((showAll events rest).run answer s).state = (rest.run answer s).state := by
  induction events with
  | nil => rfl
  | cons event events ih => exact ih

theorem oneMore_run_delete (faults : Schedule) (ids : PointSet) (c : Collection) :
    c.OneMore .delete
      ((delete name ids).run (Collection.alone registry faults name) c).state := by
  rw [delete, run]
  dsimp only
  rw [state_showAll]
  exact c.oneMore_delete _

section Pages

variable (plan schedule name last) in
/-- Both scans have come to the same end, abreast. -/
def Level (result result' : Except Halt Tally) (c c' : Collection) : Prop :=
  result = result' ∧ Abreast plan schedule name last c c'

variable {talk : Talk (Except Halt Tally)}

/-- What follows a call that gets through in both scans. -/
theorem pairs_andThen {α : Type} {d : Talk (Except Halt α)} {next : α → Talk (Except Halt Tally)}
    (h : (abreast registry schedule name last).Pairs
      (Both fun _ => Abreast plan schedule name last) d d c c')
    (hnext : ∀ value c c', Abreast plan schedule name last c c' →
      (abreast registry schedule name last).Pairs (Level plan schedule name last)
        (next value) (next value) c c') :
    (abreast registry schedule name last).Pairs (Level plan schedule name last)
      (d.andThen next) (d.andThen next) c c' := by
  refine Comparison.Pairs.bind h ?_
  rintro _ _ c c' ⟨value, rfl, rfl, habreast⟩
  exact hnext value c c' habreast

/-- Both scans show the same line. -/
theorem pairs_print (line : String)
    (h : (abreast registry schedule name last).Pairs (Level plan schedule name last)
      talk talk c c') :
    (abreast registry schedule name last).Pairs (Level plan schedule name last)
      (.shows (.print line) talk) (.shows (.print line) talk) c c' :=
  Comparison.pairs_shows rfl h

theorem pairs_prune (hfew : plan.maxRetries ≤ Retry.writableRetries) (t : Tally)
    (orphans : PointSet) (h : Abreast plan schedule name last c c') :
    (abreast registry schedule name last).Pairs (Level plan schedule name last)
      (prune plan name t orphans) (prune plan name t orphans) c c' := by
  rw [prune]
  split
  · exact Comparison.pairs_ended ⟨rfl, h⟩
  · refine pairs_andThen (pairs_call .delete (fun held held' => held \ orphans = held' \ orphans)
      hfew "delete" _ h (fun _ => rfl) (oneMore_run_delete _ _ c')
      (fun _ _ hcall => failsOnce_delete hcall) fun _ hcall => pairs_delete hcall) ?_
    intro count c c' h
    exact Comparison.pairs_ended ⟨rfl, h⟩

theorem pairs_work (hworks : registry.Works) (hfew : plan.maxRetries ≤ Retry.writableRetries)
    (t : Tally) (ids : List PointId) (h : Abreast plan schedule name last c c') :
    (abreast registry schedule name last).Pairs (Level plan schedule name last)
      (work plan name t ids) (work plan name t ids) c c' := by
  rw [work]
  split
  · exact Comparison.pairs_ended ⟨rfl, h⟩
  · rename_i hids
    have hbatch : (PointSet.ofList ids).isEmpty = false := by
      rw [Bool.eq_false_iff]
      intro hempty
      have hnone : ids = [] := List.eq_nil_iff_forall_not_mem.mpr fun p hp =>
        PointSet.isEmpty_iff.mp hempty p (PointSet.mem_ofList.mpr hp)
      rw [hnone] at hids
      exact hids rfl
    refine pairs_andThen (pairs_call .lookup Eq hfew "point lookup" _ h (fun _ => rfl)
      c'.oneMore_lookup (fun _ _ hcall => failsOnce_lookup hbatch hcall)
      fun _ hcall => pairs_lookup hworks hcall) ?_
    intro known c c' h
    dsimp only
    split
    · exact Comparison.pairs_ended ⟨rfl, h⟩
    · exact pairs_print _ (pairs_prune hfew _ _ h)

/-- **The loop.**  Both scans go from page to page together. -/
theorem pairs_pages (hworks : registry.Works) (hfew : plan.maxRetries ≤ Retry.writableRetries)
    (bound : Nat) :
    ∀ (t : Tally) (cursor : Option PointId) (c c' : Collection),
      Abreast plan schedule name last c c' →
      (abreast registry schedule name last).Pairs (Level plan schedule name last)
        (pages plan name bound t cursor) (pages plan name bound t cursor) c c' := by
  induction bound with
  | zero =>
      intro t cursor c c' h
      exact Comparison.pairs_ended ⟨rfl, h⟩
  | succ bound ih =>
      intro t cursor c c' h
      -- neither scan is told to stop, and both get the same page
      refine Comparison.pairs_asks rfl (pairs_andThen (pairs_call .scroll Eq hfew "scroll" _ h
        (fun _ => rfl) (c'.oneMore_scroll _) (fun _ _ hcall => failsOnce_fetch cursor hcall)
        fun _ hcall => pairs_fetch cursor hcall) ?_)
      intro page c c' h
      refine Comparison.Pairs.bind (pairs_work hworks hfew _ page.ids h) ?_
      rintro result _ c c' ⟨rfl, h⟩
      cases result with
      | error halt => exact Comparison.pairs_ended ⟨rfl, h⟩
      | ok t =>
          dsimp only
          split
          · exact Comparison.pairs_ended ⟨rfl, h⟩
          · split
            · exact Comparison.pairs_ended ⟨rfl, h⟩
            · exact ih _ _ c c' h

/-- **Both scans come to the same end**, and the log of the one, settled, is the log of the
    other. -/
theorem pairs_scan (hworks : registry.Works) (hfew : plan.maxRetries ≤ Retry.writableRetries)
    (bound : Nat) (h : Abreast plan schedule name last c c') :
    (abreast registry schedule name last).Pairs (Level plan schedule name last)
      (scan plan name bound) (scan plan name bound) c c' := by
  refine pairs_print _ (Comparison.Pairs.bind (pairs_pages hworks hfew bound _ none c c' h) ?_)
  rintro result _ c c' ⟨rfl, h⟩
  cases result with
  | error halt => exact Comparison.pairs_ended ⟨rfl, h⟩
  | ok t => exact pairs_print _ (Comparison.pairs_ended ⟨rfl, h⟩)

end Pages

end Scan

end OrphanSweep
