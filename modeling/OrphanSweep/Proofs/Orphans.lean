import OrphanSweep.Proofs.Deletion

/-! # Points with a row stay

    `Prunes` says what may become of the collections of a world: points may leave, but none that
    is to be kept, and none may come.  A justified delete prunes in this sense and keeps the points
    with a row, or all points if only a report is wanted.  So do whole sweeps, and in a session, all
    that is not done from outside (`session_deletes_only_orphans`). -/

namespace OrphanSweep

/-! ## Pruning -/

/-- Points may leave, except those to `keep`, and none may come. -/
inductive Contents.Prunes (keep : PointId → Bool) : Contents → Contents → Prop
  | missing : Prunes keep .missing .missing
  | points {held left : PointSet} (fewer : ∀ p, p ∈ left → p ∈ held)
      (kept : ∀ p, p ∈ held → keep p = true → p ∈ left) : Prunes keep (.points held) (.points left)
  | scripted {answers rest : List (Except Failure RawPage)} :
      Prunes keep (.scripted answers) (.scripted rest)

namespace Contents

variable {keep : PointId → Bool} {name : String} {c c' c'' : Contents}

theorem Prunes.refl (c : Contents) : c.Prunes keep c := by
  cases c with
  | missing => exact .missing
  | points held => exact .points (fun _ h => h) (fun _ h _ => h)
  | scripted answers => exact .scripted

theorem Prunes.trans (h : c.Prunes keep c') (h' : c'.Prunes keep c'') : c.Prunes keep c'' := by
  cases h with
  | missing => exact h'
  | points fewer kept =>
      cases h' with
      | points fewer' kept' =>
          refine .points (fun p hp => fewer p (fewer' p hp)) ?_
          intro p hp hkeep
          exact kept' p (kept p hp hkeep) hkeep
  | scripted =>
      cases h' with
      | scripted => exact .scripted

/-- A scroll moves on in a script and changes nothing else. -/
theorem prunes_scroll (offset : PointId) (limit : Int) :
    c.Prunes keep (scroll name offset limit c).2 := by
  cases c with
  | missing => exact .missing
  | points held => exact Prunes.refl _
  | scripted answers => cases answers <;> exact .scripted

/-- A delete prunes if it is not for a point to keep. -/
theorem prunes_delete {ids : PointSet} (h : ∀ p, p ∈ ids → keep p = false) :
    c.Prunes keep (delete name ids c).2 := by
  cases c with
  | missing => exact .missing
  | scripted answers => exact .scripted
  | points held =>
      refine .points (fun p hp => (PointSet.mem_diff.mp hp).1) ?_
      intro p hp hkeep
      exact PointSet.mem_diff.mpr ⟨hp, fun hid => Bool.eq_false_iff.mp (h p hid) hkeep⟩

/-- What is made of a set of points is a smaller one with the points to keep. -/
theorem Prunes.of_points {held : PointSet} (h : Prunes keep (.points held) c) :
    ∃ left, c = .points left ∧ (∀ p, p ∈ left → p ∈ held) ∧
      ∀ p, p ∈ held → keep p = true → p ∈ left := by
  cases h with
  | points fewer kept => exact ⟨_, rfl, fewer, kept⟩

/-- A strike does not change that. -/
theorem prunes_around {α : Type} {act : Contents → Except Failure α × Contents}
    (strike : Strike) (h : c.Prunes keep (act c).2) : c.Prunes keep (strike.around act c).2 := by
  cases strike.around_state act c with
  | inl hsame => rw [hsame]; exact Prunes.refl c
  | inr hmade => rw [hmade]; exact h

end Contents

namespace World

/-- The collections of a world are pruned, and nothing is pruned that is to keep. -/
def Prunes (keep : PointId → Bool) (w w' : World) : Prop :=
  ∀ name, (w.collection name).contents.Prunes keep (w'.collection name).contents

variable {keep : PointId → Bool} {w w' w'' : World}

theorem Prunes.refl (w : World) : w.Prunes keep w := fun _ => Contents.Prunes.refl _

theorem Prunes.trans (h : w.Prunes keep w') (h' : w'.Prunes keep w'') : w.Prunes keep w'' :=
  fun name => (h name).trans (h' name)

theorem Listed.prunes (h : w.Listed w') : w.Prunes keep w' := fun name => by
  rw [h.collection]
  exact Contents.Prunes.refl _

/-- Any call prunes, unless it is a delete of points to keep. -/
theorem prunes_answer (stop : Nat) (name : String) (call : Call)
    (h : ∀ ids, call = .delete ids → ∀ p, p ∈ ids → keep p = false) :
    w.Prunes keep (answer stop name call w).state := by
  intro other
  by_cases hname : other = name
  · subst hname
    rw [collection_answer]
    cases call with
    | stopping => exact Contents.Prunes.refl _
    | lookup ids => exact Contents.Prunes.refl _
    | scroll cursor limit => exact Contents.prunes_around _ (Contents.prunes_scroll _ _)
    | delete ids => exact Contents.prunes_around _ (Contents.prunes_delete (h ids rfl))
  · rw [collection_answer_of_ne _ _ _ _ hname]
    exact Contents.Prunes.refl _

end World

/-- Points that come from outside take the place of none. -/
theorem World.addPoints_ok {w next : World} {name : String} {ids : PointSet}
    (h : w.addPoints name ids = .ok next) {other : String} {held : PointSet}
    (hheld : (w.collection other).contents = .points held) :
    ∃ left, (next.collection other).contents = .points left ∧ ∀ p, p ∈ held → p ∈ left := by
  rw [World.addPoints] at h
  cases hadd : (w.collection name).contents.add name ids with
  | error failure => rw [hadd] at h; cases h
  | ok contents =>
      rw [hadd] at h
      cases h
      by_cases hname : other = name
      · subst hname
        rw [hheld] at hadd
        cases hadd
        refine ⟨held ∪ ids, ?_, fun p hp => PointSet.mem_union.mpr (Or.inl hp)⟩
        show (Collection.find other (Collection.store _ w.collections)).contents = _
        rw [World.collection_store other]
        exact World.name_collection w other
      · refine ⟨held, ?_, fun p hp => hp⟩
        rw [← hheld]
        refine congrArg Collection.contents (Collection.find_store_of_ne ?_ w.collections)
        rw [World.name_collection]
        exact hname

/-! ## Watching the deletes -/

section Guard

variable {dryRun : Bool} {registry : Registry} {name : String} {said : Said}

theorem guarded_nil : Guarded dryRun registry name [] := by
  intro earlier ids reply later h
  cases earlier <;> cases h

/-- What is said next only has to be justified itself. -/
theorem Guarded.concat (h : Guarded dryRun registry name said) {call : Call} {reply : call.Reply}
    (hcall : Warranted dryRun registry name call said) :
    Guarded dryRun registry name (said ++ [⟨call, reply⟩]) := by
  intro earlier ids reply' later heq
  -- a delete is the one said last, or was said before it
  rcases List.eq_nil_or_concat later with rfl | ⟨later', last, rfl⟩
  · obtain ⟨rfl, hlast⟩ := List.append_inj' heq rfl
    cases hlast
    exact hcall
  · rw [List.concat_eq_append, ← List.cons_append, ← List.append_assoc] at heq
    obtain ⟨hsaid, -⟩ := List.append_inj' heq rfl
    exact h earlier ids reply' later' hsaid

/-- A justified delete is for no point that is spared. -/
theorem Justified.not_spares {plan : Plan} {ids : PointSet}
    (h : Justified plan.dryRun registry name said ids) (p : PointId) (hp : p ∈ ids) :
    plan.spares registry p = false := by
  obtain ⟨page, -, -, hids⟩ := h.page
  rw [Plan.spares, h.wet, ((hids p).mp hp).2]
  rfl

end Guard

/-- What a world answers to a lookup is the truth. -/
theorem World.truthful_answer (stop : Nat) (name : String) (call : Call) (w : World) :
    Truthful w.registry call (World.answer stop name call w).result := by
  cases call with
  | stopping => trivial
  | scroll cursor limit => trivial
  | delete ids => trivial
  | lookup ids =>
      cases hreply : (World.answer stop name (.lookup ids) w).result with
      | error failure => trivial
      | ok known =>
          rw [World.result_answer] at hreply
          have hknown := Registry.lookup_ok hreply
          exact hknown

/-- Watches what each scan says, in worlds that come from one by pruning. -/
def deletionWatch (s : Sweeper) (before : World) : Watch s.stop Said where
  stable w := w.registry = before.registry ∧ before.Prunes (s.plan.spares before.registry) w
  view _ said _ := said
  inv name said := Guarded s.plan.dryRun before.registry name said
  may name := Warranted s.plan.dryRun before.registry name
  rule _ := Hears before.registry
  post _ _ _ := True
  answer := by
    rintro name call said w ⟨hregistry, hprunes⟩ hguarded hmay
    refine ⟨⟨?_, ?_⟩, hguarded.concat hmay, rfl, ?_⟩
    · rw [World.registry_answer, hregistry]
    · refine hprunes.trans (World.prunes_answer s.stop name call ?_)
      rintro ids rfl p hp
      exact hmay.not_spares p hp
    · rw [← hregistry]
      exact World.truthful_answer s.stop name call w

namespace Sweeper

variable (s : Sweeper)

/-- The scans of a sweep or a step: they delete orphans only, and leave the registry alone. -/
structure Careful (before : World) (records : List ScanRecord) (after : World) : Prop where
  registry : after.registry = before.registry
  prunes   : before.Prunes (s.plan.spares before.registry) after
  guarded  : ∀ r ∈ records, Guarded s.plan.dryRun before.registry r.name r.said

theorem ready_deletionWatch (before : World) (name : String) (said : Said)
    (h : Guarded s.plan.dryRun before.registry name said) :
    (deletionWatch s before).Ready s.plan name said := by
  intro w _ _
  exact ⟨h, Scan.asks_justified_scan s.plan before.registry name _ said⟩

/-- A scan by itself is careful. -/
theorem careful_scanOne (name : String) (w : World) :
    s.Careful w [⟨name, (s.scanOne name w).transcript⟩] (s.scanOne name w).state := by
  obtain ⟨hstable, hinv, -, -⟩ := (s.ready_deletionWatch w name [] guarded_nil).scanOne
    ⟨rfl, World.Prunes.refl w⟩
  refine ⟨hstable.1, hstable.2, ?_⟩
  intro r hr
  cases List.mem_singleton.mp hr
  exact hinv

/-- A run is careful, whatever the turns are. -/
theorem careful_run (turns : List Nat) (allowed : List String) (w : World) :
    s.Careful w (s.run turns allowed w).records (s.run turns allowed w).state := by
  obtain ⟨listed, hlisted, hcases⟩ := s.run_cases turns allowed w False (fun h => h.elim)
  have hregistry : listed.registry = w.registry := hlisted.listed.registry
  have hprunes : w.Prunes (s.plan.spares w.registry) listed := fun name =>
    (World.Listed.prunes hlisted.listed) name
  rcases hcases with ⟨-, honly⟩ | hscanned
  · rw [honly.records, honly.state]
    exact ⟨hregistry, hprunes, fun r hr => nomatch hr⟩
  · rw [hscanned.records, hscanned.state]
    have hstable : (deletionWatch s w).stable listed := ⟨hregistry, hprunes⟩
    have habort : (deletionWatch s w).Abortable := fun w' h _ => ⟨h, fun _ _ => rfl⟩
    have hready : ∀ name ∈ selected allowed w.hosted,
        (deletionWatch s w).Ready s.plan name ((deletionWatch s w).view name [] listed) :=
      fun name _ => s.ready_deletionWatch w name [] guarded_nil
    -- what a scan says is its own, so no scan disturbs another
    have hapart : ∀ seen called, (deletionWatch s w).Apart seen called := fun _ _ _ _ _ _ => rfl
    obtain ⟨hwatched, -⟩ := Watch.watched_scanAll turns habort hstable hready
      (List.pairwise_of_forall fun a b => ⟨hapart a b, hapart b a⟩)
    exact ⟨hwatched.stable.1, hwatched.stable.2, hwatched.inv⟩

/-! ## Sessions -/

/-- The world that the steps of a session leave. -/
def left (w : World) : List Session.Step → World
  | []            => w
  | step :: steps => left (s.after w step).state steps

/-- A step is recorded as what it does in the world that the steps before it left. -/
theorem getElem?_session (past future : List Session.Step) (step : Session.Step) :
    ∀ w, (s.session w (past ++ step :: future))[past.length]? =
      some (s.after (s.left w past) step) := by
  induction past with
  | nil => intro w; rfl
  | cons first past ih => intro w; exact ih (s.after w first).state

/-- A change from outside makes no scan. -/
theorem records_ofChange (w : World) (change : Except Failure World) :
    (Session.Record.ofChange w change).records = [] := by
  cases change <;> rfl

/-- Whatever the step, it asks for no delete that is not justified. -/
theorem guarded_after (before : World) (step : Session.Step) :
    ∀ r ∈ (s.after before step).records,
      Guarded s.plan.dryRun before.registry r.name r.said := by
  have hnone : ∀ records : List ScanRecord, records = [] →
      ∀ r ∈ records, Guarded s.plan.dryRun before.registry r.name r.said := by
    rintro _ rfl r hr
    cases hr
  cases step with
  | run allowed turns => exact (s.careful_run turns allowed before).guarded
  | collection name => exact (s.careful_scanOne name before).guarded
  | addPoints name ids => exact hnone _ (records_ofChange before _)
  | removePoints name ids => exact hnone _ (records_ofChange before _)
  | cancel => exact hnone _ rfl
  | uncancel => exact hnone _ rfl
  | addRows ids => exact hnone _ rfl
  | removeRows ids => exact hnone _ rfl

/-- Points with a row stay where they are. -/
theorem Careful.kept {before after : World} {records : List ScanRecord}
    (h : s.Careful before records after) {name : String} {held : PointSet}
    (hheld : (before.collection name).contents = .points held) :
    ∃ left, (after.collection name).contents = .points left ∧
      ∀ p ∈ held, before.registry.hasRow p = true → p ∈ left := by
  have hprunes := h.prunes name
  rw [hheld] at hprunes
  obtain ⟨left, hleft, -, hkept⟩ := hprunes.of_points
  refine ⟨left, hleft, ?_⟩
  intro p hp hrow
  refine hkept p hp ?_
  rw [Plan.spares, hrow, Bool.or_true]

/-- Only a removal from outside takes a point with a row out of a collection. -/
theorem kept_after (before : World) {step : Session.Step}
    (hstep : ∀ name ids, step ≠ .removePoints name ids) {name : String} {held : PointSet}
    (hheld : (before.collection name).contents = .points held) :
    ∃ left, ((s.after before step).state.collection name).contents = .points left ∧
      ∀ p ∈ held, before.registry.hasRow p = true → p ∈ left := by
  cases step with
  | run allowed turns => exact (s.careful_run turns allowed before).kept s hheld
  | collection other => exact (s.careful_scanOne other before).kept s hheld
  | removePoints other ids => exact absurd rfl (hstep other ids)
  | addPoints other ids =>
      show ∃ left, ((Session.Record.ofChange before _).state.collection name).contents = _ ∧ _
      cases hadd : before.addPoints other (.ofList ids) with
      | error failure => exact ⟨held, hheld, fun p hp _ => hp⟩
      | ok next =>
          obtain ⟨left, hleft, hsub⟩ := World.addPoints_ok hadd hheld
          exact ⟨left, hleft, fun p hp _ => hsub p hp⟩
  -- the other steps touch no collection
  | cancel => exact ⟨held, hheld, fun p hp _ => hp⟩
  | uncancel => exact ⟨held, hheld, fun p hp _ => hp⟩
  | addRows ids => exact ⟨held, hheld, fun p hp _ => hp⟩
  | removeRows ids => exact ⟨held, hheld, fun p hp _ => hp⟩

/-- **No false positives.**  At any place of any session, whatever strikes its calls: each delete
    that a scan asks for is for orphans of the page that it has just scrolled and looked up, and for
    all of them, and none is asked for in a dry run.  So no step but a removal from outside takes a
    point with a row out of a collection. -/
theorem session_deletes_only_orphans (w : World) (past future : List Session.Step)
    (step : Session.Step) :
    let before := s.left w past
    let made := s.after before step
    (s.session w (past ++ step :: future))[past.length]? = some made ∧
    (∀ r ∈ made.records, ∀ earlier ids reply later,
      r.said = earlier ++ ⟨.delete ids, reply⟩ :: later →
      Justified s.plan.dryRun before.registry r.name earlier ids) ∧
    ((∀ name ids, step ≠ .removePoints name ids) → ∀ name held,
      (before.collection name).contents = .points held →
      ∃ left, (made.state.collection name).contents = .points left ∧
        ∀ p ∈ held, before.registry.hasRow p = true → p ∈ left) := by
  intro before made
  refine ⟨s.getElem?_session past future step w, ?_, ?_⟩
  · exact s.guarded_after before step
  · intro hstep name held hheld
    exact s.kept_after before hstep hheld

/-- One point without a row: a run asks to delete it, and is justified to. -/
theorem session_deletes_only_orphans_one :
    let s : Sweeper := {}
    let w : World :=
      { collections := [{ name := "a", contents := .points (.ofList [⟨1, by decide⟩]) }]
        registry := { column_named := Registry.defaultColumn_named, rows := some [] } }
    ∃ r ∈ (s.after w (.run [])).records, ∃ earlier ids reply later,
      r.said = earlier ++ ⟨.delete ids, reply⟩ :: later ∧
      Justified false w.registry r.name earlier ids := by
  intro s w
  have hasked : (s.after w (.run [])).records.any
      (fun r => r.said.any fun a => a.1.isDelete) = true := by decide +kernel
  obtain ⟨r, hr, hsaid⟩ := List.any_eq_true.mp hasked
  obtain ⟨⟨call, reply⟩, hmem, hdelete⟩ := List.any_eq_true.mp hsaid
  obtain ⟨earlier, later, heq⟩ := List.append_of_mem hmem
  obtain ⟨-, hjustified, -⟩ := s.session_deletes_only_orphans w [] [] (.run [])
  cases call with
  | delete ids => exact ⟨r, hr, earlier, ids, reply, later, heq, hjustified r hr _ _ _ _ heq⟩
  | stopping => cases hdelete
  | scroll cursor limit => cases hdelete
  | lookup ids => cases hdelete

end Sweeper

end OrphanSweep
