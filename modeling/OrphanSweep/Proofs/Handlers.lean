import Mathlib.Data.List.Infix
import OrphanSweep.Proofs.World

/-! # Handlers that nest

    Installs and restores nest if each restore puts back all that the innermost install in force has
    found (`Nests`).  Then the installs in force tell how the handlers stand: both signals set the
    event of the innermost one, and the handlers that it found are those of the next one
    (`Stands`).  So each restore puts both handlers back to what they were before its install, and
    each signal that arrives sets the event of the innermost install and no other
    (`handlers_nest`). -/

namespace OrphanSweep.Signals

/-! ## Rows of steps -/

namespace Step

/-- Whether the step is an install. -/
def isInstall : Step → Bool
  | install => true
  | _       => false

end Step

/-- The number of installs among some steps, which is the number of the next one. -/
def installs (steps : List Step) : Nat := steps.countP Step.isInstall

/-- The steps nest so far, and these installs are in force, the innermost first. -/
inductive Nests : (past : List Step) → (inForce : List Nat) → Prop
  | start : Nests [] []
  | install {past : List Step} {inForce : List Nat} :
      Nests past inForce → Nests (past ++ [.install]) (installs past :: inForce)
  | fire {past : List Step} {inForce : List Nat} (s : Signal) :
      Nests past inForce → Nests (past ++ [.fire s]) inForce
  | restore {past : List Step} {k : Nat} {inForce : List Nat} :
      Nests past (k :: inForce) → Nests (past ++ [.restore k []]) inForce

/-- The steps nest from the first to the last. -/
def Nested (steps : List Step) : Prop := ∃ inForce, Nests steps inForce

theorem installs_concat (past : List Step) (step : Step) :
    installs (past ++ [step]) = installs past + if step.isInstall then 1 else 0 := by
  rw [installs, List.countP_append, List.countP_singleton]
  rfl

/-- Steps that nest did so before the last one. -/
theorem Nests.init {steps past : List Step} {step : Step} {inForce : List Nat}
    (h : Nests steps inForce) (hsteps : steps = past ++ [step]) : Nested past := by
  cases h with
  | start => exact absurd hsteps.symm (List.append_ne_nil_of_right_ne_nil _ (List.cons_ne_nil _ _))
  | install hpast => exact ⟨_, (List.append_inj' hsteps rfl).1 ▸ hpast⟩
  | fire s hpast => exact ⟨_, (List.append_inj' hsteps rfl).1 ▸ hpast⟩
  | restore hpast => exact ⟨_, (List.append_inj' hsteps rfl).1 ▸ hpast⟩

/-- Steps that nest did so at every moment. -/
theorem Nested.of_append {past future : List Step} (h : Nested (past ++ future)) : Nested past := by
  induction future using List.reverseRecOn with
  | nil => rwa [List.append_nil] at h
  | append_singleton future step ih =>
      obtain ⟨inForce, hnests⟩ := h
      exact ih (hnests.init (List.append_assoc past future [step]).symm)

/-- A restore that nests undoes the innermost install that is in force. -/
theorem Nests.of_restore {steps past : List Step} {k : Nat} {without : List Signal}
    {inForce : List Nat} (h : Nests steps inForce) (hsteps : steps = past ++ [.restore k without]) :
    without = [] ∧ Nests past (k :: inForce) := by
  cases h with
  | start => exact absurd hsteps.symm (List.append_ne_nil_of_right_ne_nil _ (List.cons_ne_nil _ _))
  | install hpast => cases (List.append_inj' hsteps rfl).2
  | fire s hpast => cases (List.append_inj' hsteps rfl).2
  | restore hpast =>
      obtain ⟨rfl, hlast⟩ := List.append_inj' hsteps rfl
      cases hlast
      exact ⟨rfl, hpast⟩

/-- An install that is in force was made, and those behind it in the row were in force before. -/
theorem Nests.exists_install {past : List Step} {inForce : List Nat} (h : Nests past inForce) :
    ∀ {inner outer : List Nat} {k : Nat}, inForce = inner ++ k :: outer →
      ∃ earlier between, past = earlier ++ .install :: between ∧ installs earlier = k ∧
        Nests earlier outer := by
  induction h with
  | start =>
      intro inner outer k hsplit
      exact absurd hsplit.symm (List.append_ne_nil_of_right_ne_nil _ (List.cons_ne_nil _ _))
  | @install past inForce hpast ih =>
      intro inner outer k hsplit
      cases inner with
      | nil =>
          cases hsplit
          exact ⟨past, [], rfl, rfl, hpast⟩
      | cons first inner =>
          obtain ⟨-, hrest⟩ := List.cons.inj hsplit
          obtain ⟨earlier, between, rfl, hk, hearlier⟩ := ih hrest
          exact ⟨earlier, between ++ [.install], by simp, hk, hearlier⟩
  | fire s _ ih =>
      intro inner outer k hsplit
      obtain ⟨earlier, between, rfl, hk, hearlier⟩ := ih hsplit
      exact ⟨earlier, between ++ [.fire s], by simp, hk, hearlier⟩
  | @restore past undone inForce _ ih =>
      intro inner outer k hsplit
      obtain ⟨earlier, between, rfl, hk, hearlier⟩ :=
        @ih (undone :: inner) outer k (by rw [hsplit, List.cons_append])
      exact ⟨earlier, between ++ [.restore undone []], by simp, hk, hearlier⟩

/-! ## How the handlers stand -/

/-- The life that steps leave. -/
def Life.left (l : Life) : List Step → Life
  | []            => l
  | step :: steps => (l.after step).state.left steps

theorem Life.left_append (l : Life) (past future : List Step) :
    l.left (past ++ future) = (l.left past).left future := by
  induction past generalizing l with
  | nil => rfl
  | cons first past ih => exact ih (l.after first).state

theorem Life.left_concat (l : Life) (past : List Step) (step : Step) :
    l.left (past ++ [step]) = ((l.left past).after step).state := l.left_append past [step]

/-- The outcome of a step is that of the step on what the steps before it have left. -/
theorem Life.getElem?_history (l : Life) (past : List Step) (step : Step) (future : List Step) :
    (l.history (past ++ step :: future))[past.length]? = some ((l.left past).after step) := by
  induction past generalizing l with
  | nil => rfl
  | cons first past ih => exact ih (l.after first).state

/-- The stop event that an install makes. -/
def eventOf (start : Signals) (install : Nat) : Nat := start.events.length + install

/-- The handlers while some installs are in force, the innermost first: its event is set by both
    signals, and without any install they are as at the start. -/
def standing (start : Signals) : (inForce : List Nat) → Handlers
  | []     => start.handlers
  | k :: _ => ⟨.stop (eventOf start k), .stop (eventOf start k)⟩

/-- A life stands as its installs in force tell. -/
structure Stands (start : Signals) (past : List Step) (inForce : List Nat) (l : Life) : Prop where
  installs : l.found.length = installs past
  events   : l.signals.events.length = eventOf start (Signals.installs past)
  handlers : l.signals.handlers = standing start inForce
  /-- Each install in force has found what the next one tells. -/
  found    : ∀ k outer, k :: outer <:+ inForce → l.found[k]? = some (standing start outer)

/-- A signal that arrives changes no handler and clears no event. -/
theorem onward_fired (p : Signals) (s : Signal) : p.Onward (p.fired s) :=
  Strike.onward_nudge p (.signal s)

/-- A stop event that was just made is not set, and the others are as before. -/
theorem isSet_newEvent (p : Signals) (event : Nat) : p.newEvent.isSet event = p.isSet event := by
  simp only [isSet, newEvent, List.getD_eq_getElem?_getD]
  rcases Nat.lt_trichotomy event p.events.length with hlt | rfl | hgt
  · rw [List.getElem?_append_left hlt]
  · simp
  · rw [List.getElem?_eq_none (by simp; omega), List.getElem?_eq_none (by omega)]

/-- No step clears an event. -/
theorem Life.isSet_after (l : Life) (step : Step) {event : Nat}
    (h : l.signals.isSet event = true) : (l.after step).state.signals.isSet event = true := by
  cases step with
  | install => exact (l.signals.isSet_newEvent event).trans h
  | fire s => exact (l.signals.onward_fired s).isSet event h
  | restore k without => exact h

/-- An event that is set stays so. -/
theorem Life.isSet_left {event : Nat} (steps : List Step) :
    ∀ {l : Life}, l.signals.isSet event = true → (l.left steps).signals.isSet event = true := by
  induction steps with
  | nil => exact id
  | cons step steps ih => exact fun h => ih (Life.isSet_after _ step h)

theorem Stands.start (start : Signals) : Stands start [] [] { signals := start } where
  installs := rfl
  events   := rfl
  handlers := rfl
  found    := fun _ _ h => absurd (List.suffix_nil.mp h) (List.cons_ne_nil _ _)

section

variable {start : Signals} {past : List Step} {inForce : List Nat} {l : Life}

/-- An install finds the handlers that stand, and is the innermost from then on. -/
theorem Stands.install (h : Stands start past inForce l) :
    Stands start (past ++ [.install]) (Signals.installs past :: inForce)
      (l.after .install).state where
  installs := by
    rw [installs_concat, ← h.installs]
    exact List.length_append
  events := by
    rw [installs_concat, eventOf, ← Nat.add_assoc, ← eventOf, ← h.events]
    exact List.length_append
  handlers := by
    show (⟨.stop l.signals.events.length, .stop l.signals.events.length⟩ : Handlers) = _
    rw [h.events]
    rfl
  found := by
    intro k outer hsuffix
    show (l.found ++ [l.signals.handlers])[k]? = _
    rcases List.suffix_cons_iff.mp hsuffix with heq | hinner
    · cases heq
      rw [← h.installs, List.getElem?_concat_length, h.handlers]
    · have hfound := h.found k outer hinner
      have hlt : k < l.found.length := (List.getElem?_eq_some_iff.mp hfound).1
      rw [List.getElem?_append_left hlt, hfound]

theorem Stands.fire (h : Stands start past inForce l) (s : Signal) :
    Stands start (past ++ [.fire s]) inForce (l.after (.fire s)).state where
  installs := by
    rw [installs_concat]
    exact h.installs
  events := by
    rw [installs_concat]
    exact (l.signals.onward_fired s).length.trans h.events
  handlers := (l.signals.onward_fired s).handlers.trans h.handlers
  found    := h.found

/-- A restore puts back what the innermost install has found. -/
theorem Stands.restore {k : Nat} (h : Stands start past (k :: inForce) l) :
    Stands start (past ++ [.restore k []]) inForce (l.after (.restore k [])).state where
  installs := by
    rw [installs_concat]
    exact h.installs
  events := by
    rw [installs_concat]
    exact h.events
  handlers := by
    have hfound := h.found k inForce List.suffix_rfl
    show (⟨((l.found[k]?).map fun h => h.get .interrupt).getD _,
      ((l.found[k]?).map fun h => h.get .terminate).getD _⟩ : Handlers) = _
    rw [hfound]
    rfl
  found := fun j outer hsuffix => h.found j outer (hsuffix.trans (List.suffix_cons k inForce))

end

/-- **Steps that nest leave the handlers as the installs in force tell.** -/
theorem stands_left (start : Signals) {past : List Step} {inForce : List Nat}
    (h : Nests past inForce) : Stands start past inForce (Life.left { signals := start } past) := by
  induction h with
  | start => exact Stands.start start
  | install _ ih =>
      rw [Life.left_concat]
      exact ih.install
  | fire s _ ih =>
      rw [Life.left_concat]
      exact ih.fire s
  | restore _ ih =>
      rw [Life.left_concat]
      exact ih.restore

/-! ## Signals that arrive -/

theorem fired_of_outside {p : Signals} {s : Signal} (h : p.handlers.get s = .outside) :
    p.fired s = p ∧ p.firedEvents s = [] := by
  rw [fired, firedEvents, h]
  exact ⟨rfl, rfl⟩

theorem fired_of_stop {p : Signals} {s : Signal} {event : Nat}
    (h : p.handlers.get s = .stop event) : p.fired s = p.set event := by
  rw [fired, h]

theorem get_standing_cons (start : Signals) (k : Nat) (outer : List Nat) (s : Signal) :
    (standing start (k :: outer)).get s = .stop (eventOf start k) := by
  cases s <;> rfl

/-- A signal sets the event of the innermost install in force, and no other. -/
theorem Stands.isSet_fire {start : Signals} {past : List Step} {k : Nat} {outer : List Nat} {l : Life}
    (h : Stands start past (k :: outer) l) (s : Signal) (event : Nat) :
    (l.after (.fire s)).state.signals.isSet event = true ↔
      l.signals.isSet event = true ∨ event = eventOf start k := by
  have hmade : k < Signals.installs past := by
    rw [← h.installs]
    exact (List.getElem?_eq_some_iff.mp (h.found k outer List.suffix_rfl)).1
  have hthere : eventOf start k < l.signals.events.length := by
    rw [h.events]
    exact Nat.add_lt_add_left hmade _
  have hhandler : l.signals.handlers.get s = .stop (eventOf start k) := by
    rw [h.handlers]
    exact get_standing_cons start k outer s
  show (l.signals.fired s).isSet event = true ↔ _
  rw [fired_of_stop hhandler, isSet_set, decide_eq_true hthere, Bool.and_true, Bool.or_eq_true,
    beq_iff_eq, eq_comm (a := event)]

/-- **The handlers nest.**  At every moment of a row of steps that nests: a restore puts both
    handlers back to what they were before the install that it undoes; a signal sets the event that
    the innermost install in force has made and no other, or does nothing if there is none; and no
    event is ever cleared. -/
theorem handlers_nest (start : Signals) {past future : List Step} {step : Step}
    (h : Nested (past ++ step :: future)) :
    let before := Life.left { signals := start } past
    let made := before.after step
    (Life.history { signals := start } (past ++ step :: future))[past.length]? = some made ∧
    (∀ k without, step = .restore k without → without = [] ∧
      ∃ earlier between, past = earlier ++ .install :: between ∧ installs earlier = k ∧
        made.state.signals.handlers = (Life.left { signals := start } earlier).signals.handlers) ∧
    (∀ s, step = .fire s → Nested past ∧ ∀ inForce, Nests past inForce →
      made.state.signals.handlers = before.signals.handlers ∧
      (∀ k outer, inForce = k :: outer →
        ∃ earlier between, past = earlier ++ .install :: between ∧ installs earlier = k ∧
          ∀ event, made.state.signals.isSet event = true ↔ before.signals.isSet event = true ∨
            event = (Life.left { signals := start } earlier).signals.events.length) ∧
      (inForce = [] → start.handlers.get s = .outside → made.state = before ∧ made.log = [])) ∧
    ∀ event, before.signals.isSet event = true →
      (Life.left { signals := start } (past ++ step :: future)).signals.isSet event = true := by
  intro before made
  refine ⟨Life.getElem?_history _ past step future, ?_, ?_, ?_⟩
  · rintro k without rfl
    rw [List.append_cons] at h
    obtain ⟨inForce, hnests⟩ := h.of_append
    obtain ⟨rfl, hpast⟩ := hnests.of_restore rfl
    obtain ⟨earlier, between, hsplit, hk, hearlier⟩ :=
      @Nests.exists_install past _ hpast [] inForce k rfl
    refine ⟨rfl, earlier, between, hsplit, hk, ?_⟩
    -- the same installs are in force as before the install that is undone
    have hstands := (stands_left start hpast).restore
    rw [(stands_left start hearlier).handlers]
    exact hstands.handlers
  · rintro s rfl
    refine ⟨h.of_append, fun inForce hpast => ?_⟩
    have hstands := stands_left start hpast
    refine ⟨(before.signals.onward_fired s).handlers, ?_, ?_⟩
    · rintro k outer rfl
      obtain ⟨earlier, between, hsplit, hk, hearlier⟩ :=
        @Nests.exists_install past _ hpast [] outer k rfl
      refine ⟨earlier, between, hsplit, hk, ?_⟩
      intro event
      rw [(stands_left start hearlier).events, hk]
      exact hstands.isSet_fire s event
    · rintro rfl houtside
      have hhandler : before.signals.handlers.get s = .outside := by
        rw [hstands.handlers]
        exact houtside
      obtain ⟨hfired, hlog⟩ := fired_of_outside hhandler
      refine ⟨?_, hlog⟩
      show { before with signals := before.signals.fired s } = before
      rw [hfired]
  · intro event hset
    rw [Life.left_append]
    exact Life.isSet_left (step :: future) hset

/-- Two installs, one within the other: the inner restore puts back the handlers of the outer
    install, and the signal behind it sets the outer event, which no other signal has set. -/
theorem handlers_nest_twice :
    let past : List Step := [.install, .install, .fire .interrupt]
    let life := Life.left {} past
    Nested (past ++ [.restore 1 [], .fire .terminate, .restore 0 []]) ∧
      (life.after (.restore 1 [])).state.signals.handlers = ⟨.stop 0, .stop 0⟩ ∧
      (Life.left {} (past ++ [.restore 1 []])).signals.isSet 0 = false ∧
      (Life.left {} (past ++ [.restore 1 [], .fire .terminate])).signals.isSet 0 = true := by
  intro past life
  have hfirst : Nests (past ++ [.restore 1 []]) [0] := .restore (.fire _ (.install (.install .start)))
  have hnested : Nested (past ++ [.restore 1 [], .fire .terminate, .restore 0 []]) :=
    ⟨[], .restore (.fire _ hfirst)⟩
  refine ⟨hnested, ?_, rfl, ?_⟩
  · obtain ⟨-, hrestores, -⟩ := handlers_nest {} hnested
    obtain ⟨-, earlier, between, hsplit, hk, hhandlers⟩ := hrestores 1 [] rfl
    rcases earlier with _ | ⟨first, _ | ⟨second, earlier⟩⟩
    · cases hk
    · obtain ⟨rfl, -⟩ := List.cons.inj hsplit
      exact hhandlers
    · obtain ⟨rfl, hrest⟩ := List.cons.inj hsplit
      obtain ⟨rfl, -⟩ := List.cons.inj hrest
      rw [installs, List.countP_cons_of_pos rfl, List.countP_cons_of_pos rfl] at hk
      omega
  · obtain ⟨-, -, hfires, -⟩ :=
      @handlers_nest {} (past ++ [.restore 1 []]) [.restore 0 []] (.fire .terminate) hnested
    obtain ⟨-, hfires⟩ := hfires .terminate rfl
    obtain ⟨-, hsets, -⟩ := hfires [0] hfirst
    obtain ⟨earlier, between, hsplit, hk, hset⟩ := hsets 0 [] rfl
    cases earlier with
    | nil => exact (hset 0).mpr (Or.inr rfl)
    | cons first earlier =>
        obtain ⟨rfl, -⟩ := List.cons.inj hsplit
        rw [installs, List.countP_cons_of_pos rfl] at hk
        omega

end OrphanSweep.Signals
