import OrphanSweep.Proofs.Cursors
import OrphanSweep.Proofs.Watch

/-! # Where failures come from

    What a scan is told goes back to the schedule, to the registry, and to pages made beforehand.  If
    these raise nothing out of the ordinary (`World.Ordinary`), every failure of a scroll or a delete
    becomes one of the store, and a lookup fails for the moment or with a failure that was raised on
    the way to the database (`World.Raises`).  This holds of every answer in every scan of a sweep
    (`tellingWatch`), and so does that of a world that tells no scan to stop (`World.Unstopped`).
    So a sweep in such a world fails as one of its scans explains (`failure_scanAll`). -/

namespace OrphanSweep

/-- A failure from elsewhere that is no interrupt. -/
def Failure.Ordinary (failure : Failure) : Prop :=
  ∃ cause details, failure = .foreign cause details ∧ cause ≠ .interrupt

theorem Failure.Ordinary.isInterrupt {failure : Failure} (h : failure.Ordinary) :
    failure.isInterrupt = false := by
  obtain ⟨cause, details, rfl, hcause⟩ := h
  cases cause <;> first | rfl | exact absurd rfl hcause

/-! ## Pages made beforehand -/

namespace Contents

/-- No answer made beforehand is an interrupt. -/
def Ordinary (contents : Contents) : Prop :=
  ∀ answers, contents = .scripted answers → ∀ failure, .error failure ∈ answers →
    failure.isInterrupt = false

variable {name : String} {contents : Contents}

theorem ordinary_scroll (h : contents.Ordinary) (offset : PointId) (limit : Int) :
    (contents.scroll name offset limit).2.Ordinary ∧
      ∀ failure, (contents.scroll name offset limit).1 = .error failure →
        failure.isInterrupt = false := by
  cases contents with
  | missing => exact ⟨nofun, by rintro failure ⟨⟩; rfl⟩
  | points held => exact ⟨nofun, nofun⟩
  | scripted answers =>
      cases answers with
      | nil => exact ⟨h, by rintro failure ⟨⟩; rfl⟩
      | cons answer rest =>
          refine ⟨?_, ?_⟩
          · rintro answers ⟨⟩ failure hmem
            exact h _ rfl failure (List.mem_cons_of_mem _ hmem)
          · rintro failure rfl
            exact h _ rfl failure List.mem_cons_self

theorem ordinary_delete (h : contents.Ordinary) (ids : PointSet) :
    (contents.delete name ids).2.Ordinary ∧
      ∀ failure, (contents.delete name ids).1 = .error failure → failure.isInterrupt = false := by
  cases contents with
  | missing => exact ⟨nofun, by rintro failure ⟨⟩; rfl⟩
  | points held => exact ⟨nofun, nofun⟩
  | scripted answers => exact ⟨h, nofun⟩

end Contents

/-- What a strike leaves of an act that does nothing out of the ordinary. -/
theorem Strike.ordinary_around {α : Type} {strike : Strike}
    {act : Contents → Except Failure α × Contents} {contents : Contents}
    (hstrike : ∀ failure, strike.failure = some failure → failure.isInterrupt = false)
    (h : contents.Ordinary)
    (hact : (act contents).2.Ordinary ∧
      ∀ failure, (act contents).1 = .error failure → failure.isInterrupt = false) :
    (strike.around act contents).2.Ordinary ∧
      ∀ failure, (strike.around act contents).1 = .error failure →
        failure.isInterrupt = false := by
  refine ⟨?_, ?_⟩
  · rcases strike.around_state act contents with hstate | hstate
    · rw [hstate]
      exact h
    · rw [hstate]
      exact hact.1
  · intro failure hfailure
    rw [around] at hfailure
    split at hfailure
    · exact hact.2 failure hfailure
    · rename_i own hown
      split at hfailure
      · split at hfailure
        · cases hfailure
          exact hstrike failure hown
        · rename_i other state hother
          cases hfailure
          exact hact.2 failure (by rw [hother])
      · cases hfailure
        exact hstrike failure hown

/-! ## Lookups -/

/-- A lookup fails for the moment, or as every attempt to connect does, or because its table has no
    name. -/
theorem Registry.lookup_error {r : Registry} {ids : PointSet} {failure : Failure}
    (h : (r.lookup ids).2 = .error failure) :
    (∃ reason, failure = .transient (.text "point lookup") reason .null) ∨
      (r.refused = some failure ∧ failure.isOfDatabase = false) ∨
      (r.tableName = "" ∧ failure = unnamedTable) := by
  rw [lookup] at h
  split at h
  · cases h
  · split at h
    · rename_i obstacle hobstacle
      cases h
      rw [obstacle?] at hobstacle
      cases hrefused : r.refused with
      | some raised =>
          rw [hrefused] at hobstacle
          have hraised : connectFailure raised = failure := Option.some.inj hobstacle
          subst hraised
          cases hdatabase : raised.isOfDatabase with
          | true =>
              rw [connectFailure_of_isOfDatabase hdatabase]
              exact Or.inl ⟨_, rfl⟩
          | false =>
              rw [connectFailure_of_not hdatabase]
              exact Or.inr (Or.inl ⟨rfl, hdatabase⟩)
      | none =>
          rw [hrefused, Option.map_none, Option.none_or] at hobstacle
          split at hobstacle
          · rename_i hunnamed
            cases hobstacle
            refine Or.inr (Or.inr ⟨?_, rfl⟩)
            simpa [isNamed] using hunnamed
          · split at hobstacle
            · cases hobstacle
              exact Or.inl ⟨_, rfl⟩
            · cases hobstacle
    · rw [reply] at h
      split at h
      · cases h
        exact Or.inl ⟨_, rfl⟩
      · split at h
        · cases h
          exact Or.inl ⟨_, rfl⟩
        · cases h

namespace World

/-- What a world raises in a lookup that is not a failure of the database. -/
inductive Raises (w : World) : Failure → Prop
  /-- It strikes a lookup. -/
  | struck {name : String} {n : Nat} {failure : Failure} :
      (w.schedule .lookup name n).failure = some failure → failure.isOfDatabase = false →
      Raises w failure
  /-- It is raised by every attempt to connect. -/
  | refused {failure : Failure} : w.registry.refused = some failure →
      failure.isOfDatabase = false → Raises w failure
  /-- The table has no name. -/
  | unnamed : w.registry.tableName = "" → Raises w Registry.unnamedTable

/-- An answer that can come from a world that raises nothing out of the ordinary. -/
def Tells (w : World) : (call : Call) → call.Reply → Prop
  | .stopping, _       => True
  | .scroll _ _, reply => ∀ failure, reply = .error failure → failure.isInterrupt = false
  | .lookup _, reply   => ∀ failure, reply = .error failure →
      (∃ reason, failure = .transient (.text "point lookup") reason .null) ∨ w.Raises failure
  | .delete _, reply   => ∀ failure, reply = .error failure → failure.isInterrupt = false

/-- A world in which whatever is raised comes from elsewhere, and is no interrupt. -/
structure Ordinary (w : World) : Prop where
  strikes : ∀ kind name n failure, (w.schedule kind name n).failure = some failure →
    failure.Ordinary
  refused : ∀ failure, w.registry.refused = some failure → failure.Ordinary
  answers : ∀ name, (w.collection name).contents.Ordinary

variable {w : World} {stop : Nat}

/-- What a world tells depends on its schedule and its registry only. -/
theorem Tells.of_same {v : World} (hschedule : v.schedule = w.schedule)
    (hregistry : v.registry = w.registry) {call : Call} {reply : call.Reply}
    (h : v.Tells call reply) : w.Tells call reply := by
  cases call with
  | stopping => trivial
  | scroll cursor limit => exact h
  | delete ids => exact h
  | lookup ids =>
      intro failure hfailure
      refine (h failure hfailure).imp_right fun hraised => ?_
      cases hraised with
      | struck hstrike hother => exact .struck (hschedule ▸ hstrike) hother
      | refused hrefused hother => exact .refused (hregistry ▸ hrefused) hother
      | unnamed hunnamed => exact .unnamed (hregistry ▸ hunnamed)

theorem Raises.ordinary {failure : Failure} (hw : w.Ordinary) (h : w.Raises failure) :
    failure.Ordinary ∧ failure.isOfDatabase = false := by
  cases h with
  | struck hstrike hother => exact ⟨hw.strikes _ _ _ _ hstrike, hother⟩
  | refused hrefused hother => exact ⟨hw.refused _ hrefused, hother⟩
  | unnamed _ => exact ⟨⟨.outOfRange, _, rfl, nofun⟩, rfl⟩

theorem Ordinary.strike (h : w.Ordinary) (c : Collection) (name : String) (call : Call) :
    ∀ failure, (c.strike w.schedule name call).failure = some failure →
      failure.isInterrupt = false := by
  intro failure hfailure
  cases call with
  | stopping => cases hfailure
  | scroll cursor limit => exact (h.strikes _ _ _ _ hfailure).isInterrupt
  | lookup ids => exact (h.strikes _ _ _ _ hfailure).isInterrupt
  | delete ids => exact (h.strikes _ _ _ _ hfailure).isInterrupt

/-- What a world answers, and what it leaves to be answered, is nothing out of the ordinary. -/
theorem Ordinary.collection_answer (h : w.Ordinary) (name : String) (call : Call) (b : Bool) :
    let made := (w.collection name).answer w.registry name b
      ((w.collection name).strike w.schedule name call) call
    w.Tells call made.1 ∧ made.2.contents.Ordinary := by
  have hstrike := h.strike (w.collection name) name call
  have hcontents := h.answers name
  cases call with
  | stopping => exact ⟨trivial, hcontents⟩
  | scroll cursor limit =>
      obtain ⟨hnext, hreply⟩ := Strike.ordinary_around hstrike hcontents
        (Contents.ordinary_scroll hcontents (cursor.getD .nil) limit)
      exact ⟨hreply, hnext⟩
  | delete ids =>
      obtain ⟨hnext, hreply⟩ := Strike.ordinary_around hstrike hcontents
        (Contents.ordinary_delete hcontents ids)
      exact ⟨hreply, hnext⟩
  | lookup ids =>
      refine ⟨fun failure hfailure => ?_, hcontents⟩
      rcases Registry.lookup_error hfailure with hpasses | ⟨hrefused, hother⟩ | ⟨hunnamed, rfl⟩
      · exact Or.inl hpasses
      · refine Or.inr ?_
        rcases Option.or_eq_some_iff.mp hrefused with hstruck | ⟨-, hregistry⟩
        · exact .struck hstruck hother
        · exact .refused hregistry hother
      · exact Or.inr (.unnamed hunnamed)

/-- A call leaves an ordinary world, and its answer is told by it. -/
theorem Ordinary.answer (h : w.Ordinary) (name : String) (call : Call) :
    (World.answer stop name call w).state.Ordinary ∧
      w.Tells call (World.answer stop name call w).result := by
  obtain ⟨htells, hnext⟩ := h.collection_answer name call (w.stopping stop)
  refine ⟨⟨?_, ?_, ?_⟩, ?_⟩
  · rw [schedule_answer]
    exact h.strikes
  · rw [registry_answer]
    exact h.refused
  · intro other
    by_cases hother : other = name
    · subst hother
      rw [World.collection_answer]
      exact hnext
    · rw [collection_answer_of_ne _ _ _ _ hother]
      exact h.answers other
  · rw [result_answer]
    exact htells

end World

/-! ## Worlds that tell no scan to stop -/

/-- Nudges none of which sets an event leave it unset. -/
theorem Strike.unset_nudgeAll {stop : Nat} {ns : List Nudge} :
    ∀ {p : Signals}, p.isSet stop = false →
      (∀ nudge ∈ ns, target p.handlers nudge ≠ some stop) →
      (nudgeAll p ns).2.isSet stop = false := by
  induction ns with
  | nil => intro p h _; exact h
  | cons n ns ih =>
      intro p h hspared
      obtain ⟨hfirst, hrest⟩ := List.forall_mem_cons.mp hspared
      refine ih ?_ ?_
      · rw [nudge_eq]
        cases htarget : target p.handlers n with
        | none => exact h
        | some event =>
            rw [htarget] at hfirst
            have hother : (event == stop) = false := by simpa using hfirst
            rw [Option.map_some, Option.getD_some, Signals.isSet_set, h, hother]
            rfl
      · rw [(onward_nudge p n).handlers]
        exact hrest

namespace World

/-- The stop event is not set, nothing that the schedule holds sets it, and no scan is aborted. -/
structure Unstopped (stop : Nat) (w : World) : Prop where
  unset   : w.signals.isSet stop = false
  spared  : ∀ kind name n, ∀ nudge ∈ (w.schedule kind name n).nudges,
    Strike.target w.signals.handlers nudge ≠ some stop
  aborted : w.aborted = false

variable {w : World} {stop : Nat}

theorem Unstopped.stopping (h : w.Unstopped stop) : w.stopping stop = false := by
  rw [World.stopping, h.unset, h.aborted]
  rfl

theorem Unstopped.answer (h : w.Unstopped stop) (name : String) (call : Call) :
    (World.answer stop name call w).state.Unstopped stop := by
  have hspared : ∀ nudge ∈ ((w.collection name).strike w.schedule name call).nudges,
      Strike.target w.signals.handlers nudge ≠ some stop := by
    cases call with
    | stopping => exact List.forall_mem_nil _
    | scroll cursor limit => exact h.spared _ _ _
    | lookup ids => exact h.spared _ _ _
    | delete ids => exact h.spared _ _ _
  refine ⟨?_, ?_, ?_⟩
  · rw [signals_answer]
    exact Strike.unset_nudgeAll h.unset hspared
  · rw [schedule_answer, (onward_answer stop name call w).handlers]
    exact h.spared
  · rw [aborted_answer]
    exact h.aborted

theorem Unstopped.run {α : Type} (h : w.Unstopped stop) (name : String) (talk : Talk α) :
    (talk.run (World.answer stop name) w).state.Unstopped stop := by
  have hanswer : ∀ call v, Unstopped stop v → (World.answer stop name call v).state.Unstopped stop :=
    fun call v hv => hv.answer name call
  exact Dialogue.run_preserves hanswer talk h

theorem Unstopped.hosts (h : w.Unstopped stop) : (World.hosts () w).state.Unstopped stop where
  unset   := Strike.unset_nudgeAll h.unset (h.spared _ _ _)
  spared  := by
    rw [(listed_hosts w).signals.handlers]
    exact h.spared
  aborted := h.aborted

/-- What a listing leaves of an ordinary world is ordinary. -/
theorem Ordinary.listed {v : World} (h : w.Ordinary) (hlisted : w.Listed v) : v.Ordinary where
  strikes := hlisted.schedule ▸ h.strikes
  refused := hlisted.registry ▸ h.refused
  answers := fun name => by rw [hlisted.collection]; exact h.answers name

/-- An attempt to list raises no interrupt, and leaves an ordinary world. -/
theorem Ordinary.hosts (h : w.Ordinary) :
    (∀ failure, (World.hosts () w).result = .error failure → failure.isInterrupt = false) ∧
      (World.hosts () w).state.Ordinary := by
  refine ⟨fun failure hfailure => ?_, h.listed (listed_hosts w)⟩
  simp only [World.hosts] at hfailure
  split at hfailure
  · cases hfailure
  · rename_i raised hraised
    cases hfailure
    exact (h.strikes _ _ _ _ hraised).isInterrupt

end World

/-! ## What a scan fails with -/

/-- A failure that is no interrupt becomes one of the store. -/
theorem VectorStore.refusal_of_ordinary {failure : Failure} (h : failure.isInterrupt = false)
    (operation : String) (collection : Value) :
    refusal operation collection failure =
      .transient (.text operation) (.told (.text failure.message)) collection := by
  rw [refusal, h]
  rfl

/-- What the answers of a world fail with that raises nothing out of the ordinary. -/
inductive Call.Fails (w : World) (name : String) : Answered Call Call.Reply → Failure → Prop
  /-- The scan is told to stop. -/
  | stopped : Fails w name ⟨.stopping, true⟩ (.cancelled (.text name))
  /-- A page cannot be got. -/
  | scroll {cursor : Option PointId} {limit : Int} {raised : Failure} :
      Fails w name ⟨.scroll cursor limit, .error raised⟩
        (.transient (.text "scroll") (.told (.text raised.message)) (.text name))
  /-- A page holds a value that cannot be used. -/
  | page {cursor : Option PointId} {limit : Int} {raw : RawPage} {value : Value} {detail : String} :
      Page.ofRaw name raw = .error (.malformed (.text name) value (.text detail)) →
      Fails w name ⟨.scroll cursor limit, .ok raw⟩ (.malformed (.text name) value (.text detail))
  /-- A page cannot be looked up for the moment. -/
  | lookup {ids : PointSet} {reason : Reason} :
      Fails w name ⟨.lookup ids, .error (.transient (.text "point lookup") reason .null)⟩
        (.transient (.text "point lookup") reason .null)
  /-- A lookup raises. -/
  | raised {ids : PointSet} {failure : Failure} : w.Raises failure →
      Fails w name ⟨.lookup ids, .error failure⟩ failure
  /-- Points cannot be deleted. -/
  | delete {ids : PointSet} {raised : Failure} :
      Fails w name ⟨.delete ids, .error raised⟩
        (.transient (.text "delete points") (.told (.text raised.message)) (.text name))

theorem Call.fails_of_tells {w : World} {name : String} {call : Call} {reply : call.Reply}
    {failure : Failure} (htells : w.Tells call reply)
    (h : Call.failure? name call reply = some failure) :
    Call.Fails w name ⟨call, reply⟩ failure := by
  cases call with
  | stopping =>
      cases reply with
      | false => cases h
      | true => cases h; exact .stopped
  | scroll cursor limit =>
      cases reply with
      | error raised =>
          simp only [failure?, VectorStore.scrolled,
            VectorStore.refusal_of_ordinary (htells raised rfl)] at h
          cases h
          exact .scroll
      | ok raw =>
          simp only [failure?, VectorStore.scrolled] at h
          cases hpage : Page.ofRaw name raw with
          | ok page => rw [hpage] at h; cases h
          | error refused =>
              rw [hpage] at h
              cases h
              obtain ⟨value, detail, rfl⟩ := Page.malformed_ofRaw hpage
              exact .page hpage
  | lookup ids =>
      cases reply with
      | ok known => cases h
      | error raised =>
          cases h
          rcases htells failure rfl with ⟨reason, rfl⟩ | hraised
          · exact .lookup
          · exact .raised hraised
  | delete ids =>
      cases reply with
      | ok _ => cases h
      | error raised =>
          simp only [failure?, VectorStore.deleted,
            VectorStore.refusal_of_ordinary (htells raised rfl)] at h
          cases h
          exact .delete

/-- **The failures of a scan** in a world that raises nothing out of the ordinary: one of its own, a
    cancellation only if it was told to stop; or what its last call, a lookup, has raised; or the
    refusal of a wait, where there are too many retries. -/
theorem Scan.failure_of_explained {plan : Plan} {name : String} {w : World} {said : Said}
    {failure : Failure} (htold : ∀ a ∈ said, w.Tells a.1 a.2)
    (h : Explained plan name said failure) :
    (failure.isOwn = true ∧ ∀ c, failure = .cancelled c → ⟨.stopping, true⟩ ∈ said) ∨
      (w.Raises failure ∧ ∃ ids, said.getLast? = some ⟨.lookup ids, .error failure⟩) ∨
      Retry.writableRetries < plan.maxRetries ∧ failure = Retry.unwritable := by
  cases h with
  | stuck next => exact Or.inl ⟨rfl, nofun⟩
  | unwritable hmany => exact Or.inr (Or.inr ⟨hmany, rfl⟩)
  | @answered a _ hlast hfailure =>
      obtain ⟨call, reply⟩ := a
      have hmem := List.mem_of_getLast? hlast
      cases Call.fails_of_tells (htold _ hmem) hfailure with
      | stopped => exact Or.inl ⟨rfl, fun _ _ => hmem⟩
      | raised hraised => exact Or.inr (Or.inl ⟨hraised, _, hlast⟩)
      | scroll => exact Or.inl ⟨rfl, nofun⟩
      | page _ => exact Or.inl ⟨rfl, nofun⟩
      | lookup => exact Or.inl ⟨rfl, nofun⟩
      | delete => exact Or.inl ⟨rfl, nofun⟩

/-! ## Every answer of a sweep -/

/-- Watches what the scans of a sweep are told; if it is `calm`, none is told to stop. -/
def tellingWatch (s : Sweeper) (calm : Prop) (w : World) : Watch s.stop Said where
  stable v := v.Ordinary ∧ v.schedule = w.schedule ∧ v.registry = w.registry ∧
    (calm → v.Unstopped s.stop)
  view _ said _ := said
  inv _ said := ∀ a ∈ said, w.Tells a.1 a.2 ∧ (calm → a ≠ ⟨.stopping, true⟩)
  may _ _ _ := True
  rule _ := Dialogue.Adds
  post := Scan.Explains s.plan
  answer := by
    rintro name call said v ⟨hordinary, hschedule, hregistry, hcalm⟩ hsaid -
    obtain ⟨hnext, htells⟩ := hordinary.answer name call
    refine ⟨⟨hnext, ?_, ?_, fun hc => (hcalm hc).answer name call⟩, ?_, rfl⟩
    · rw [World.schedule_answer, hschedule]
    · rw [World.registry_answer, hregistry]
    · refine List.forall_mem_append.mpr ⟨hsaid, List.forall_mem_singleton.mpr ⟨?_, fun hc => ?_⟩⟩
      · exact World.Tells.of_same hschedule hregistry htells
      · cases call with
        | stopping =>
            show (⟨.stopping, v.stopping s.stop⟩ : Answered Call Call.Reply) ≠ _
            rw [(hcalm hc).stopping]
            exact nofun
        | scroll cursor limit => exact nofun
        | lookup ids => exact nofun
        | delete ids => exact nofun

namespace Sweeper

variable (s : Sweeper) {calm : Prop} {w : World}

/-- Every scan keeps to the watch: nothing has been said in it before it begins. -/
theorem ready_tellingWatch (names : List String) (v : World) :
    ∀ name ∈ names, (tellingWatch s calm w).Ready s.plan name
      ((tellingWatch s calm w).view name [] v) :=
  fun _ _ _ _ _ => ⟨List.forall_mem_nil _, Scan.explains_scan _⟩

theorem pairwise_tellingWatch (names : List String) :
    names.Pairwise fun a b =>
      (tellingWatch s calm w).Apart a b ∧ (tellingWatch s calm w).Apart b a :=
  List.pairwise_of_forall fun _ _ => ⟨fun _ _ _ _ => rfl, fun _ _ _ _ => rfl⟩

/-- Scans may be aborted, whatever they are told. -/
theorem abortable_tellingWatch : (tellingWatch s False w).Abortable := by
  rintro v ⟨hordinary, hschedule, hregistry, -⟩ -
  exact ⟨⟨⟨hordinary.strikes, hordinary.refused, hordinary.answers⟩, hschedule, hregistry,
    False.elim⟩, fun _ _ => rfl⟩

/-- **The failures of a sweep** in a world that raises nothing out of the ordinary are those of one
    of its scans. -/
theorem failure_scanAll (turns : List Nat) (names : List String) (hw : w.Ordinary)
    {failure : Failure} (h : (s.scanAll turns names w).result = .error failure) :
    ∃ r ∈ (s.scanAll turns names w).records,
      (failure.isOwn = true ∧ ∀ c, failure = .cancelled c → ⟨.stopping, true⟩ ∈ r.said) ∨
        (w.Raises failure ∧ ∃ ids, r.said.getLast? = some ⟨.lookup ids, .error failure⟩) ∨
        Retry.writableRetries < s.plan.maxRetries ∧ failure = Retry.unwritable := by
  have hstable : (tellingWatch s False w).stable w := ⟨hw, rfl, rfl, False.elim⟩
  obtain ⟨r, hr, halt, rfl, hpost⟩ :=
    Watch.failed_scanAll turns s.abortable_tellingWatch hstable
      (s.ready_tellingWatch names w) (s.pairwise_tellingWatch names) h
  obtain ⟨hwatched, -⟩ :=
    Watch.watched_scanAll turns s.abortable_tellingWatch hstable
      (s.ready_tellingWatch names w) (s.pairwise_tellingWatch names)
  exact ⟨r, hr, Scan.failure_of_explained (fun a ha => (hwatched.inv r hr a ha).1)
    (hpost halt rfl)⟩

end Sweeper

end OrphanSweep
