import OrphanSweep.Proofs.Dialogue
import OrphanSweep.Retry

/-! # Invariants of retried calls

    A call that is made again starts from the state that the failed attempt left.  So what an
    attempt needs (`fits`) has to hold again after it has failed (`bad`); then a call ends as its
    last attempt does, however many attempts there are. -/

namespace OrphanSweep

variable {σ α ε : Type}

/-- A relation between an end and a state: `good` for a value, `bad` after an error. -/
def Ending (good : α → σ → Prop) (bad : σ → Prop) : Except ε α → σ → Prop
  | .ok value, s => good value s
  | .error _, s  => bad s

namespace Retry

open Dialogue

variable {Ask : Type} {Reply : Ask → Type}
variable {may : Ask → σ → Prop} {rule : (ask : Ask) → σ → Reply ask → σ → Prop}
variable {good : α → σ → Prop} {bad fits : σ → Prop}

/-- A wait is announced and made, or the call ends because it cannot be announced. -/
theorem pause_cases (label : String) (made allowed : Nat) (failure : Failure)
    (next : Dialogue Ask Reply (Except Failure α)) :
    pause label made allowed failure next = .ended (.error unwritable) ∨
      pause label made allowed failure next =
        .shows (.print (line label made allowed failure))
          (.shows (.sleep (wait made)) next) := by
  rw [pause]
  cases isUnwritable made || isUnwritable allowed || isUnwritable (wait made) with
  | true => exact Or.inl rfl
  | false => exact Or.inr rfl

/-- What an attempt ends with: after a failure that may pass it can be made again. -/
def Tried (good : α → σ → Prop) (bad fits : σ → Prop) : Except Failure α → σ → Prop
  | .ok value, s      => good value s
  | .error failure, s => bad s ∧ (isTransient failure = true → fits s)

theorem keeps_attempts {label : String} {attempt : Dialogue Ask Reply (Except Failure α)}
    (hattempt : ∀ s, fits s → attempt.Keeps may rule (Tried good bad fits) s) (left : Nat) :
    ∀ (made : Nat) (s : σ), fits s →
      (attempts label attempt left made).Keeps may rule (Ending good bad) s := by
  induction left with
  | zero =>
      intro made s hs
      refine (hattempt s hs).mono ?_
      intro result last hlast
      cases result with
      | ok value => exact hlast
      | error failure => exact hlast.1
  | succ left ih =>
      intro made s hs
      rw [attempts]
      refine keeps_bind.mpr ((hattempt s hs).mono ?_)
      intro result last hlast
      cases result with
      | ok value => exact hlast
      | error failure =>
          obtain ⟨hbad, hagain⟩ : bad last ∧ (isTransient failure = true → fits last) := hlast
          dsimp only
          split
          · rename_i htransient
            cases pause_cases label (made + 1) (made + left + 2) failure
                (attempts label attempt left (made + 1)) with
            | inl h =>
                rw [h]
                exact hbad
            | inr h =>
                rw [h]
                -- the next attempt begins where the failed one has left off
                exact ih (made + 1) last (hagain htransient)
          · exact hbad

/-- A call ends as its last attempt does, if each failure that may pass leaves a state that fits. -/
theorem keeps_retry_tried {label : String} {attempt : Dialogue Ask Reply (Except Failure α)}
    (hattempt : ∀ s, fits s → attempt.Keeps may rule (Tried good bad fits) s)
    (bound : Nat) {s : σ} (hs : fits s) :
    (retry bound label attempt).Keeps may rule (Ending good bad) s := by
  rw [retry, if_neg (by omega)]
  exact keeps_attempts hattempt _ 0 s hs

/-- **A call ends as its last attempt does.** -/
theorem keeps_retry {label : String} {attempt : Dialogue Ask Reply (Except Failure α)}
    (hbad : ∀ s, bad s → fits s)
    (hattempt : ∀ s, fits s → attempt.Keeps may rule (Ending good bad) s)
    (bound : Nat) {s : σ} (hs : fits s) :
    (retry bound label attempt).Keeps may rule (Ending good bad) s := by
  refine keeps_retry_tried (fun s hs => (hattempt s hs).mono ?_) bound hs
  intro result last hlast
  cases result with
  | ok value => exact hlast
  | error failure => exact ⟨hlast, fun _ => hbad last hlast⟩

/-- A call with its retries asks its question at least once. -/
theorem retry_asks (bound : Nat) (label : String) (ask : Ask)
    (resume : Reply ask → Dialogue Ask Reply (Except Failure α)) :
    ∃ resume', retry bound label (.asks ask resume) = .asks ask resume' := by
  rw [retry, if_neg (by omega), Int.toNat_natCast]
  cases bound with
  | zero => exact ⟨resume, rfl⟩
  | succ left => exact ⟨_, rfl⟩

end Retry

end OrphanSweep
