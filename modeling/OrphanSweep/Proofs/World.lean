import Mathlib.Data.List.Basic
import OrphanSweep.Proofs.Dialogue
import OrphanSweep.World.Answer

/-! # What a call changes in a world

    A call for a collection changes that collection, and the signals as far as its strike nudges
    them, and nothing else (`collection_answer_of_ne`).  What it answers and what it makes of the
    collection depend on that collection, on the registry and on the strike alone, so both can be
    computed without the rest of the world (`Collection.answer`).

    Signals only go onward: handlers stay, and an event that is set stays set. -/

namespace OrphanSweep

/-! ## Signals -/

namespace Signals

/-- `q` comes after `p` in a time in which no handler is changed and no event is cleared. -/
structure Onward (p q : Signals) : Prop where
  handlers : q.handlers = p.handlers
  length   : q.events.length = p.events.length
  isSet    : ∀ event, p.isSet event = true → q.isSet event = true

theorem Onward.refl (p : Signals) : p.Onward p := ⟨rfl, rfl, fun _ h => h⟩

theorem Onward.trans {p q r : Signals} (h : p.Onward q) (h' : q.Onward r) : p.Onward r where
  handlers := h'.handlers.trans h.handlers
  length   := h'.length.trans h.length
  isSet    := fun event hp => h'.isSet event (h.isSet event hp)

/-- An event is set if it was set before or is the one being set, and is there. -/
theorem isSet_set (p : Signals) (event other : Nat) :
    (p.set event).isSet other =
      (p.isSet other || (event == other && decide (event < p.events.length))) := by
  simp only [set, isSet, List.getD_eq_getElem?_getD, List.getElem?_set]
  by_cases h : event = other
  · subst h
    by_cases hlt : event < p.events.length
    · simp [hlt]
    · simp [hlt]
  · simp [h]

theorem onward_set (p : Signals) (event : Nat) : p.Onward (p.set event) where
  handlers := rfl
  length   := List.length_set
  isSet    := fun other h => by rw [isSet_set, h, Bool.true_or]

theorem isSet_clear (p : Signals) (event : Nat) : (p.clear event).isSet event = false := by
  simp only [clear, isSet, List.getD_eq_getElem?_getD, List.getElem?_set]
  by_cases hlt : event < p.events.length
  · simp [hlt]
  · simp [hlt]

end Signals

namespace Strike

/-- The event that a nudge sets, if it sets one. -/
def target (handlers : Handlers) : Nudge → Option Nat
  | .cancel event => some event
  | .signal s     =>
      match handlers.get s with
      | .outside    => none
      | .stop event => some event

/-- A nudge sets its target and does nothing else. -/
theorem nudge_eq (p : Signals) (n : Nudge) :
    (nudge p n).2 = ((target p.handlers n).map p.set).getD p := by
  cases n with
  | cancel event => rfl
  | signal s =>
      simp only [nudge, target, Signals.fired]
      cases p.handlers.get s <;> rfl

theorem onward_nudge (p : Signals) (n : Nudge) : p.Onward (nudge p n).2 := by
  rw [nudge_eq]
  cases target p.handlers n with
  | none => exact Signals.Onward.refl p
  | some event => exact Signals.onward_set p event

theorem onward_nudgeAll (p : Signals) (ns : List Nudge) : p.Onward (nudgeAll p ns).2 := by
  induction ns generalizing p with
  | nil => exact Signals.Onward.refl p
  | cons n ns ih => exact (onward_nudge p n).trans (ih (nudge p n).2)

/-- A call under a strike has its whole effect or none. -/
theorem around_state {σ α : Type} (strike : Strike) (act : σ → Except Failure α × σ) (s : σ) :
    (strike.around act s).2 = s ∨ (strike.around act s).2 = (act s).2 := by
  rw [around]
  split
  · exact Or.inr rfl
  · split
    · refine Or.inr ?_
      split <;> rename_i h <;> rw [h]
    · exact Or.inl rfl

/-- A call that answers has its effect, and answers as if it had not been struck. -/
theorem around_ok {σ α : Type} {strike : Strike} {act : σ → Except Failure α × σ} {s : σ}
    {value : α} (h : (strike.around act s).1 = .ok value) : strike.around act s = act s := by
  rw [around] at h ⊢
  split at h
  · rfl
  · split at h
    · split at h <;> cases h
    · cases h

end Strike

/-! ## One collection by itself -/

namespace Collection

/-- What strikes the next call for a collection. -/
def strike (schedule : Schedule) (name : String) (c : Collection) : Call → Strike
  | .stopping   => {}
  | .scroll _ _ => schedule .scroll name (c.scrolls + 1)
  | .lookup _   => schedule .lookup name (c.lookups + 1)
  | .delete _   => schedule .delete name (c.deletions + 1)

/-- The answer to a call under a strike, and the collection after it. -/
def answer (registry : Registry) (name : String) (stop : Bool) (strike : Strike)
    (c : Collection) : (call : Call) → Call.Reply call × Collection
  | .stopping            => (stop, c)
  | .scroll cursor limit =>
      let made := strike.around (Contents.scroll name (cursor.getD .nil) limit) c.contents
      (made.1, { c with contents := made.2, scrolls := c.scrolls + 1 })
  | .lookup ids          =>
      ((registry.refuse (strike.failure.or registry.refused)).lookup ids |>.2,
       { c with lookups := c.lookups + 1 })
  | .delete ids          =>
      let made := strike.around (Contents.delete name ids) c.contents
      (made.1, { c with contents := made.2, deletions := c.deletions + 1 })

theorem name_answer (registry : Registry) (name : String) (stop : Bool) (strike : Strike)
    (c : Collection) (call : Call) :
    (c.answer registry name stop strike call).2.name = c.name := by
  cases call <;> rfl

end Collection

/-! ## Lists of collections -/

namespace Collection

variable {cs : List Collection}

/-- To store a collection under a name that is there leaves the names as they are. -/
theorem names_store {c : Collection} (h : c.name ∈ cs.map name) :
    (c.store cs).map name = cs.map name := by
  induction cs with
  | nil => cases h
  | cons d cs ih =>
      rw [store]
      split
      · rename_i hd
        rw [List.map_cons, List.map_cons, hd]
      · rename_i hd
        rcases List.mem_cons.mp h with heq | hmem
        · exact absurd heq.symm hd
        · rw [List.map_cons, List.map_cons, ih hmem]

/-- Where no name comes twice, each collection is found under its name. -/
theorem find_of_mem (hnames : (cs.map name).Nodup) {c : Collection} (h : c ∈ cs) :
    find c.name cs = c := by
  induction cs with
  | nil => cases h
  | cons d cs ih =>
      obtain ⟨hfirst, hrest⟩ := List.nodup_cons.mp hnames
      rw [find]
      rcases List.mem_cons.mp h with rfl | hmem
      · rw [if_pos rfl]
      · have hne : d.name ≠ c.name := by
          intro heq
          rw [heq] at hfirst
          exact hfirst (List.mem_map_of_mem hmem)
        rw [if_neg hne, ih hrest hmem]

end Collection

/-! ## A call in a world -/

namespace World

@[simp] theorem name_collection (w : World) (name : String) : (w.collection name).name = name :=
  Collection.name_find name w.collections

section Frame

variable (stop : Nat) (name : String) (call : Call) (w : World)

@[simp] theorem registry_answer : (answer stop name call w).state.registry = w.registry := by
  cases call <;> rfl

@[simp] theorem schedule_answer : (answer stop name call w).state.schedule = w.schedule := by
  cases call <;> rfl

@[simp] theorem aborted_answer : (answer stop name call w).state.aborted = w.aborted := by
  cases call <;> rfl

theorem signals_answer :
    (answer stop name call w).state.signals =
      (Strike.nudgeAll w.signals
        ((w.collection name).strike w.schedule name call).nudges).2 := by
  cases call <;> rfl

theorem result_answer :
    (answer stop name call w).result =
      ((w.collection name).answer w.registry name (w.stopping stop)
        ((w.collection name).strike w.schedule name call) call).1 := by
  cases call <;> rfl

theorem collections_answer :
    (answer stop name call w).state.collections = w.collections ∨
      (answer stop name call w).state.collections =
        ((w.collection name).answer w.registry name (w.stopping stop)
          ((w.collection name).strike w.schedule name call) call).2.store w.collections := by
  cases call with
  | stopping => exact Or.inl rfl
  | scroll cursor limit => exact Or.inr rfl
  | lookup ids => exact Or.inr rfl
  | delete ids => exact Or.inr rfl

theorem collection_store (c : Collection) (cs : List Collection) (h : c.name = name) :
    Collection.find name (c.store cs) = c := by
  rw [← h]
  exact Collection.find_store_self c cs

/-- A call makes of its collection what the collection by itself says. -/
theorem collection_answer :
    (answer stop name call w).state.collection name =
      ((w.collection name).answer w.registry name (w.stopping stop)
        ((w.collection name).strike w.schedule name call) call).2 := by
  cases call with
  | stopping => rfl
  | scroll cursor limit => exact collection_store name _ _ (name_collection w name)
  | lookup ids => exact collection_store name _ _ (name_collection w name)
  | delete ids => exact collection_store name _ _ (name_collection w name)

/-- A call for a collection that is there adds none. -/
theorem names_answer (h : name ∈ w.collections.map Collection.name) :
    (answer stop name call w).state.collections.map Collection.name =
      w.collections.map Collection.name := by
  cases collections_answer stop name call w with
  | inl hsame => rw [hsame]
  | inr hstore =>
      rw [hstore]
      refine Collection.names_store ?_
      rw [Collection.name_answer, name_collection]
      exact h

/-- A call leaves every other collection alone. -/
theorem collection_answer_of_ne {other : String} (h : other ≠ name) :
    (answer stop name call w).state.collection other = w.collection other := by
  show Collection.find other _ = Collection.find other _
  cases collections_answer stop name call w with
  | inl hsame => rw [hsame]
  | inr hstore =>
      rw [hstore]
      refine Collection.find_store_of_ne ?_ w.collections
      rw [Collection.name_answer, name_collection]
      exact h

theorem onward_answer : w.signals.Onward (answer stop name call w).state.signals := by
  rw [signals_answer]
  exact Strike.onward_nudgeAll _ _

end Frame

/-! ## What a world holds -/

/-- The points of a collection, none if it does not hold points. -/
def held (w : World) (name : String) : PointSet := (w.collection name).contents.points?.getD ∅

/-- The names of hosted collections are among all names. -/
theorem hosted_sublist (w : World) : w.hosted.Sublist (w.collections.map Collection.name) :=
  List.filter_sublist.map Collection.name

/-- Where no name comes twice, the hosted collections are those found under their names. -/
theorem hosted_eq {w : World} (hnames : (w.collections.map Collection.name).Nodup) :
    w.hosted = (w.collections.map Collection.name).filter fun name =>
      (w.collection name).contents.isHosted := by
  rw [hosted, List.filter_map]
  refine congrArg (List.map Collection.name) (List.filter_congr fun c hc => ?_)
  show _ = (Collection.find c.name w.collections).contents.isHosted
  rw [Collection.find_of_mem hnames hc]

/-- Where no name comes twice, the points of a world are those that are found under its names. -/
theorem points_eq {w : World} (hnames : (w.collections.map Collection.name).Nodup) :
    w.points = (w.collections.map Collection.name).filterMap fun name =>
      (w.collection name).contents.points?.map fun held => (name, held) := by
  rw [points, List.filterMap_map]
  refine List.filterMap_congr fun c hc => ?_
  show _ = (Collection.find c.name w.collections).contents.points?.map _
  rw [Collection.find_of_mem hnames hc]

/-! ## The listing -/

/-- Only the signals and the number of listings differ, and the signals went onward. -/
structure Listed (w w' : World) : Prop where
  collections : w'.collections = w.collections
  registry    : w'.registry = w.registry
  schedule    : w'.schedule = w.schedule
  aborted     : w'.aborted = w.aborted
  signals     : w.signals.Onward w'.signals

theorem Listed.refl (w : World) : w.Listed w := ⟨rfl, rfl, rfl, rfl, Signals.Onward.refl _⟩

theorem Listed.trans {w w' w'' : World} (h : w.Listed w') (h' : w'.Listed w'') : w.Listed w'' where
  collections := h'.collections.trans h.collections
  registry    := h'.registry.trans h.registry
  schedule    := h'.schedule.trans h.schedule
  aborted     := h'.aborted.trans h.aborted
  signals     := h.signals.trans h'.signals

theorem listed_hosts (w : World) : w.Listed (hosts () w).state :=
  ⟨rfl, rfl, rfl, rfl, Strike.onward_nudgeAll _ _⟩

theorem Listed.hosted {w w' : World} (h : w.Listed w') : w'.hosted = w.hosted := by
  rw [World.hosted, World.hosted, h.collections]

theorem Listed.collection {w w' : World} (h : w.Listed w') (name : String) :
    w'.collection name = w.collection name := by
  rw [World.collection, World.collection, h.collections]

end World

end OrphanSweep
