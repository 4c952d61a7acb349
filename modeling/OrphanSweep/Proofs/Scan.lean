import OrphanSweep.Proofs.Registry
import OrphanSweep.Proofs.Retry
import OrphanSweep.Scan

/-! # Invariants of the parts of a scan

    Every call of a scan is retried and then ends the scan or is gone on from, so the parts of a
    scan all end with `Ending`: one relation for a value, and one for every failure. -/

namespace OrphanSweep

/-- Whether a sweep spares a point: it has a row, or nothing is to be deleted. -/
def Plan.spares (plan : Plan) (registry : Registry) (p : PointId) : Bool :=
  plan.dryRun || registry.hasRow p

namespace Scan

open Dialogue

variable {σ α β : Type} {may : Call → σ → Prop}
variable {rule : (call : Call) → σ → call.Reply → σ → Prop}
variable {good : α → σ → Prop} {bad fits : σ → Prop} {s : σ}

/-- A call of a scan ends as its last attempt does. -/
theorem keeps_call {plan : Plan} {name what : String} {reached : Tally}
    {attempt : Talk (Except Failure α)} (hbad : ∀ s, bad s → fits s)
    (hattempt : ∀ s, fits s → attempt.Keeps may rule (Ending good bad) s) (hs : fits s) :
    (call plan name what reached attempt).Keeps may rule (Ending good bad) s := by
  refine keeps_bind.mpr ((Retry.keeps_retry hbad hattempt _ hs).mono ?_)
  intro result last hlast
  cases result with
  | ok value => exact hlast
  | error failure => exact hlast

/-- What follows a part that went through. -/
theorem keeps_andThen {first : Talk (Except Halt α)} {next : α → Talk (Except Halt β)}
    {final : Except Halt β → σ → Prop} (h : first.Keeps may rule (Ending good bad) s)
    (hgood : ∀ value last, good value last → (next value).Keeps may rule final last)
    (hbad : ∀ halt last, bad last → final (.error halt) last) :
    (first.andThen next).Keeps may rule final s :=
  h.andThen hgood hbad

/-- A relation between the end of a scan and a state: `good` for a value, `bad` for a halt. -/
def Halting (good : α → σ → Prop) (bad : Halt → σ → Prop) : Except Halt α → σ → Prop
  | .ok value, s   => good value s
  | .error halt, s => bad halt s

/-- A call whose failed attempts leave the state as it was halts the scan there, with the tally that
    it was given. -/
theorem keeps_call_still {plan : Plan} {name what : String} {reached : Tally}
    {attempt : Talk (Except Failure α)} (h : attempt.Keeps may rule (Ending good (· = s)) s) :
    (call plan name what reached attempt).Keeps may rule
      (Halting good fun halt last => halt.reached = reached ∧ last = s) s := by
  have hattempt : ∀ s', s' = s → attempt.Keeps may rule (Ending good (· = s)) s' := by
    rintro s' rfl
    exact h
  refine keeps_bind.mpr ((Retry.keeps_retry (fun _ h => h) hattempt _ rfl).mono ?_)
  intro result last hlast
  cases result with
  | ok value => exact hlast
  | error failure => exact ⟨rfl, hlast⟩

/-! ## Whose tally it is -/

section Names

variable (plan : Plan) (name : String)

/-- A part of a scan ends with a tally of the collection, if with any, whatever it is answered. -/
abbrev Tallies (talk : Talk (Except Halt Tally)) : Prop :=
  talk.Keeps (fun _ _ => True) (fun _ _ _ _ => True)
    (Ending (fun t _ => t.collection = name) fun _ => True) ()

theorem tallies_call {what : String} {reached : Tally} {attempt : Talk (Except Failure α)}
    {next : α → Talk (Except Halt Tally)}
    (hattempt : attempt.Keeps (fun _ _ => True) (fun _ _ _ _ => True)
      (Ending (fun _ _ => True) fun _ => True) ())
    (hnext : ∀ value, Tallies name (next value)) :
    Tallies name ((call plan name what reached attempt).andThen next) :=
  keeps_andThen (keeps_call (fun _ h => h) (fun _ _ => hattempt) trivial)
    (fun value _ _ => hnext value) (fun _ _ h => h)

theorem tallies_prune {t : Tally} (h : t.collection = name) (orphans : PointSet) :
    Tallies name (prune plan name t orphans) := by
  rw [prune]
  split
  · exact h
  · refine tallies_call plan name ⟨trivial, fun reply _ _ => ?_⟩ fun _ => h
    rw [keeps_showAll, keeps_ended]
    cases reply <;> trivial

theorem tallies_work {t : Tally} (h : t.collection = name) (ids : List PointId) :
    Tallies name (work plan name t ids) := by
  rw [work]
  split
  · exact h
  · refine tallies_call plan name ⟨trivial, fun reply _ _ => ?_⟩ fun known => ?_
    · cases reply <;> trivial
    · dsimp only
      split
      · exact h
      · refine keeps_shows.mpr (tallies_prune plan name ?_ _)
        exact h

theorem tallies_pages (bound : Nat) :
    ∀ (t : Tally) (cursor : Option PointId), t.collection = name →
      Tallies name (pages plan name bound t cursor) := by
  induction bound with
  | zero => intro t cursor _; trivial
  | succ bound ih =>
      intro t cursor h
      refine ⟨trivial, fun stop _ _ => ?_⟩
      dsimp only
      split
      · trivial
      · refine tallies_call plan name ⟨trivial, fun reply _ _ => ?_⟩ fun page => ?_
        · show Ending _ _ (VectorStore.scrolled name reply) _
          cases VectorStore.scrolled name reply <;> trivial
        · have hcounted : (counted { t with phase := .scanning } page).collection = name := h
          refine (tallies_work plan name hcounted page.ids).andThen ?_ (fun _ _ h => h)
          intro t' _ ht'
          split
          · exact ht'
          · split
            · trivial
            · exact ih _ _ ht'

/-- A scan ends with the tally of its collection, if with any. -/
theorem tallies_scan (bound : Nat) : Tallies name (scan plan name bound) :=
  keeps_shows.mpr ((tallies_pages plan name bound _ none rfl).andThen
    (fun _ _ ht => ht) (fun _ _ h => h))

theorem collection_of_run {τ : Type} (answer : Answering Call Call.Reply τ) (bound : Nat) (w : τ)
    {tally : Tally} (h : ((scan plan name bound).run answer w).result = .ok tally) :
    tally.collection = name := by
  have hend := (tallies_scan plan name bound).run_any answer w
  rw [h] at hend
  exact hend

end Names

end Scan

end OrphanSweep
