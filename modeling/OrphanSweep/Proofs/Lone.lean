import OrphanSweep.Proofs.SetSweep

/-! # A scan as it is by itself

    As long as nothing tells the scans to stop, what a scan asks and is answered depends on its own
    collection alone.  `Going` is what the worlds of such a sweep have in common; under the rule of
    a lone scan every answer is determined, so a scan keeps to whatever it has once led to, and this
    can be read off a run from its end, one node at a time (`lone_of_step`). -/

namespace OrphanSweep

/-! ## What a nudge sets -/

namespace Signals

/-- Two states of the signals in which the same nudges make the same of an event. -/
structure Alike (event : Nat) (p q : Signals) : Prop where
  handlers : q.handlers = p.handlers
  length   : q.events.length = p.events.length
  isSet    : q.isSet event = p.isSet event

variable {event : Nat} {p q r : Signals}

theorem Alike.set (h : Alike event p q) (other : Nat) :
    Alike event (p.set other) (q.set other) where
  handlers := h.handlers
  length   := by
    show (q.events.set other true).length = (p.events.set other true).length
    rw [List.length_set, List.length_set, h.length]
  isSet    := by rw [isSet_set, isSet_set, h.isSet, h.length]

/-- What has gone onward and has not set an event is as it was for that event. -/
theorem Onward.alike (h : p.Onward q) (hset : q.isSet event = false) : Alike event p q where
  handlers := h.handlers
  length   := h.length
  isSet    := by
    rw [hset]
    cases hp : p.isSet event with
    | false => rfl
    | true => rw [h.isSet event hp] at hset; cases hset

theorem Onward.unset (h : p.Onward q) (hset : q.isSet event = false) : p.isSet event = false :=
  (h.alike hset).isSet ▸ hset

end Signals

namespace Strike

variable {event : Nat} {p q : Signals}

theorem alike_nudge (h : Signals.Alike event p q) (n : Nudge) :
    Signals.Alike event (nudge p n).2 (nudge q n).2 := by
  rw [nudge_eq, nudge_eq, h.handlers]
  cases target p.handlers n with
  | none => exact h
  | some other => exact h.set other

theorem alike_nudgeAll (ns : List Nudge) :
    ∀ p q, Signals.Alike event p q →
      Signals.Alike event (nudgeAll p ns).2 (nudgeAll q ns).2 := by
  induction ns with
  | nil => intro p q h; exact h
  | cons n ns ih => intro p q h; exact ih _ _ (alike_nudge h n)

end Strike

/-! ## Collections in their places -/

namespace Collection

/-- A list of collections comes from another by replacing some of those that are found under their
    names; `seen` are the names that came before. -/
inductive Replaced : List String → List Collection → List Collection → Prop
  | nil {seen : List String} : Replaced seen [] []
  | found {seen : List String} {c c' : Collection} {cs cs' : List Collection} :
      c'.name = c.name → c.name ∉ seen → Replaced (c.name :: seen) cs cs' →
      Replaced seen (c :: cs) (c' :: cs')
  | hidden {seen : List String} {c : Collection} {cs cs' : List Collection} :
      c.name ∈ seen → Replaced seen cs cs' → Replaced seen (c :: cs) (c :: cs')

theorem Replaced.refl (cs : List Collection) : ∀ seen, Replaced seen cs cs := by
  induction cs with
  | nil => intro seen; exact .nil
  | cons c cs ih =>
      intro seen
      by_cases hseen : c.name ∈ seen
      · exact .hidden hseen (ih seen)
      · exact .found rfl hseen (ih _)

/-- To store a collection that is there replaces what is found under its name. -/
theorem Replaced.store {seen : List String} {cs cs' : List Collection}
    (h : Replaced seen cs cs') {d : Collection} (hseen : d.name ∉ seen)
    (hmem : d.name ∈ cs.map name) : Replaced seen cs (d.store cs') := by
  induction h with
  | nil => cases hmem
  | @found seen c c' cs cs' hname hnot hrest ih =>
      rw [Collection.store]
      split
      · rename_i heq
        exact .found (heq.symm.trans hname) hnot hrest
      · rename_i hne
        rw [hname] at hne
        refine .found hname hnot (ih ?_ ?_)
        · intro hmem'
          rcases List.mem_cons.mp hmem' with heq | hold
          · exact hne heq.symm
          · exact hseen hold
        · rcases List.mem_cons.mp hmem with heq | hrest'
          · exact absurd heq.symm hne
          · exact hrest'
  | @hidden seen c cs cs' hold hrest ih =>
      -- its name came before, so it is not the one that is stored
      have hne : c.name ≠ d.name := by
        intro heq
        rw [heq] at hold
        exact hseen hold
      rw [Collection.store, if_neg hne]
      refine .hidden hold (ih hseen ?_)
      rcases List.mem_cons.mp hmem with heq | hrest'
      · exact absurd heq.symm hne
      · exact hrest'

/-- What is found under each name determines the list. -/
theorem Replaced.ext {seen : List String} {cs cs' cs'' : List Collection}
    (h : Replaced seen cs cs') (h' : Replaced seen cs cs'')
    (hfind : ∀ name, name ∉ seen → find name cs' = find name cs'') : cs' = cs'' := by
  induction h generalizing cs'' with
  | nil => cases h'; rfl
  | @found seen c c' cs cs' hname hnot hrest ih =>
      cases h' with
      | hidden hold _ => exact absurd hold hnot
      | @found _ _ c'' _ cs'' hname' _ hrest' =>
          have hhead := hfind c.name hnot
          rw [find, find, if_pos hname, if_pos hname'] at hhead
          subst hhead
          refine congrArg (c' :: ·) (ih hrest' fun name hnew => ?_)
          have hne : c'.name ≠ name := by
            rintro rfl
            exact hnew (hname ▸ List.mem_cons_self)
          have htail := hfind name fun hold => hnew (List.mem_cons_of_mem _ hold)
          rw [find, find, if_neg hne, if_neg hne] at htail
          exact htail
  | @hidden seen c cs cs' hold hrest ih =>
      cases h' with
      | found _ hnot _ => exact absurd hold hnot
      | hidden _ hrest' =>
          refine congrArg (c :: ·) (ih hrest' fun name hnew => ?_)
          have hne : c.name ≠ name := by
            rintro rfl
            exact hnew hold
          have htail := hfind name hnew
          rw [find, find, if_neg hne, if_neg hne] at htail
          exact htail

end Collection

/-! ## Worlds in which nothing tells the scans to stop -/

/-- A world of a sweep that began in another, while nothing tells the scans to stop. -/
structure World.Going (stop : Nat) (base w : World) : Prop where
  registry : w.registry = base.registry
  schedule : w.schedule = base.schedule
  places   : Collection.Replaced [] base.collections w.collections
  onward   : base.signals.Onward w.signals
  unset    : w.signals.isSet stop = false
  aborted  : w.aborted = false

namespace World

variable {stop : Nat} {base w : World} {name : String}

theorem Going.stopping (h : Going stop base w) : w.stopping stop = false := by
  rw [World.stopping, h.unset, h.aborted]
  rfl

/-- Calls for collections that are there go on, if they do not set the stop event. -/
theorem Going.answer (h : Going stop base w) (hname : name ∈ base.collections.map Collection.name)
    (call : Call) (hunset : (World.answer stop name call w).state.signals.isSet stop = false) :
    Going stop base (World.answer stop name call w).state where
  registry := by rw [registry_answer, h.registry]
  schedule := by rw [schedule_answer, h.schedule]
  aborted  := by rw [aborted_answer, h.aborted]
  onward   := h.onward.trans (onward_answer stop name call w)
  unset    := hunset
  places   := by
    cases collections_answer stop name call w with
    | inl hsame => rw [hsame]; exact h.places
    | inr hstore =>
        rw [hstore]
        refine h.places.store List.not_mem_nil ?_
        rw [Collection.name_answer, name_collection]
        exact hname

/-- Whether a call sets the stop event can be told from its collection and from where the sweep
    began. -/
theorem Going.isSet_answer (h : Going stop base w) (call : Call) :
    (World.answer stop name call w).state.signals.isSet stop =
      (Strike.nudgeAll base.signals
        ((w.collection name).strike base.schedule name call).nudges).2.isSet stop := by
  rw [signals_answer, h.schedule]
  exact (Strike.alike_nudgeAll _ _ _ (h.onward.alike h.unset)).isSet

end World

/-! ## The rule of a lone scan -/

/-- What was said in a scan, and its collection. -/
abbrev Sight := Said × Collection

namespace Lone

variable (stop : Nat) (base : World) (name : String)

/-- A lone scan may make the calls that do not set the stop event. -/
def May (call : Call) (v : Sight) : Prop :=
  (Strike.nudgeAll base.signals (v.2.strike base.schedule name call).nudges).2.isSet stop = false

/-- A lone scan is answered as its collection is by itself, and is not told to stop. -/
def Rule (call : Call) (v : Sight) (reply : call.Reply) (next : Sight) : Prop :=
  next.1 = v.1 ++ [⟨call, reply⟩] ∧
    v.2.answer base.registry name false (v.2.strike base.schedule name call) call = (reply, next.2)

/-- What a world shows of a scan. -/
def sight (said : Said) (w : World) : Sight := (said, w.collection name)

variable {stop base name} {α : Type} {post : α → Sight → Prop} {said : Said} {w : World}

/-- A world that goes on answers by the rule. -/
theorem rule_answer (h : World.Going stop base w) (call : Call) :
    Rule base name call (sight name said w) (World.answer stop name call w).result
      (sight name (said ++ [⟨call, (World.answer stop name call w).result⟩])
        (World.answer stop name call w).state) := by
  refine ⟨rfl, ?_⟩
  show (w.collection name).answer _ name false ((w.collection name).strike _ name call) call =
    (_, (World.answer stop name call w).state.collection name)
  rw [World.result_answer, World.collection_answer, h.stopping, h.registry, h.schedule]

/-- **A node can be put back.**  If a scan goes on as it should after a node that has not set the
    stop event, it went on as it should before. -/
theorem lone_of_step {talk : Talk α} (h : World.Going stop base w)
    (hunset : (talk.step (World.answer stop name) w).state.signals.isSet stop = false)
    (hnext : (talk.step (World.answer stop name) w).result.Keeps (May stop base name)
      (Rule base name) post
      (sight name (said ++ Line.answered (talk.step (World.answer stop name) w).transcript)
        (talk.step (World.answer stop name) w).state)) :
    talk.Keeps (May stop base name) (Rule base name) post (sight name said w) := by
  cases talk with
  | ended value =>
      rw [Dialogue.step, Line.answered_nil, List.append_nil] at hnext
      exact hnext
  | shows event rest =>
      rw [Dialogue.step, Line.answered_shown, Line.answered_nil, List.append_nil] at hnext
      exact hnext
  | asks call resume =>
      rw [Dialogue.step, Dialogue.answered_heard] at hnext
      refine ⟨?_, ?_⟩
      · exact (h.isSet_answer call).symm.trans hunset
      · -- the rule leaves one answer, which is the one that was given
        rintro reply ⟨said', c'⟩ ⟨hsaid, hanswer⟩
        have hrule : Rule base name call (sight name said w) _ _ := rule_answer h call
        obtain ⟨-, hgiven⟩ := hrule
        obtain ⟨hreply, hcollection⟩ := Prod.mk.inj (hgiven.symm.trans hanswer)
        subst hreply
        have hsight : (said', c') = sight name
            (said ++ [⟨call, (World.answer stop name call w).result⟩])
            (World.answer stop name call w).state := Prod.ext hsaid hcollection.symm
        rw [hsight]
        exact hnext

/-- A node that has not set the stop event leaves a world that goes on. -/
theorem going_step {talk : Talk α} (h : World.Going stop base w)
    (hname : name ∈ base.collections.map Collection.name)
    (hunset : (talk.step (World.answer stop name) w).state.signals.isSet stop = false) :
    World.Going stop base (talk.step (World.answer stop name) w).state :=
  Dialogue.step_preserves (fun v => v.signals.isSet stop = false → World.Going stop base v) talk
    (fun _ => h) (fun call => h.answer hname call) hunset

/-- A scan ends with a given result, and shows then what was seen. -/
def Ends (result : α) (seen : Sight) (value : α) (last : Sight) : Prop :=
  value = result ∧ last = seen

theorem onward_run (talk : Talk α) (w : World) :
    w.signals.Onward (talk.run (World.answer stop name) w).state.signals := by
  have hanswer : ∀ call v, w.signals.Onward v.signals →
      w.signals.Onward (World.answer stop name call v).state.signals :=
    fun call v h => h.trans (World.onward_answer stop name call v)
  exact Dialogue.run_preserves hanswer talk (Signals.Onward.refl _)

/-- **A whole run can be put back.**  A lone scan ends as it has ended in a run that has not set the
    stop event. -/
theorem lone_of_run (hname : name ∈ base.collections.map Collection.name) (talk : Talk α) :
    ∀ (said : Said) (w : World), World.Going stop base w →
      (talk.run (World.answer stop name) w).state.signals.isSet stop = false →
      talk.Keeps (May stop base name) (Rule base name)
        (Ends (talk.run (World.answer stop name) w).result
          (sight name (said ++ Line.answered (talk.run (World.answer stop name) w).transcript)
            (talk.run (World.answer stop name) w).state))
        (sight name said w) ∧
      World.Going stop base (talk.run (World.answer stop name) w).state := by
  induction talk with
  | ended value =>
      intro said w h hunset
      rw [Dialogue.run, Line.answered_nil, List.append_nil]
      exact ⟨⟨rfl, rfl⟩, h⟩
  | shows event rest ih =>
      intro said w h hunset
      exact ih said w h hunset
  | asks call resume ih =>
      intro said w h hunset
      -- events stay set, so the first answer has not set this one either
      have hfirst : (World.answer stop name call w).state.signals.isSet stop = false :=
        (onward_run _ _).unset hunset
      obtain ⟨hkeeps, hgoing⟩ := ih (World.answer stop name call w).result
        (said ++ [⟨call, (World.answer stop name call w).result⟩])
        (World.answer stop name call w).state (h.answer hname call hfirst) hunset
      refine ⟨lone_of_step h hfirst ?_, hgoing⟩
      rw [Dialogue.run, Dialogue.step, Line.answered_append, Dialogue.answered_heard,
        ← List.append_assoc]
      exact hkeeps

end Lone

end OrphanSweep
