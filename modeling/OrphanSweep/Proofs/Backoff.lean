import Mathlib.Data.ENat.Lattice
import Mathlib.Order.ConditionallyCompleteLattice.Basic
import OrphanSweep.Proofs.Attempts

/-! # The law of retries

    The outcomes of a call are a tape without an end: the first attempt has the first outcome, and
    each further attempt the next one.  Only a failure that may pass is followed by another attempt,
    so what matters of a tape is the place of its first other outcome (`firstLasting`), which need
    not exist.  A call goes on up to that place or up to its bound, whichever comes first, and waits
    1, 2, 4, … seconds on the way there. -/

namespace OrphanSweep

theorem Event.waited_append (first second : List Event) :
    waited (first ++ second) = waited first + waited second := by
  induction first with
  | nil => exact (Nat.zero_add _).symm
  | cons event first ih =>
      cases event <;> simp [waited] at ih ⊢ <;> omega

namespace Retry

open Dialogue

variable {α : Type}

/-- Answers each attempt with the next outcome of a tape; the state counts the attempts. -/
def hearing (outcomes : Nat → Except Failure α) :
    Answering Unit (fun _ => Except Failure α) Nat :=
  fun _ made => ⟨[], outcomes made, made + 1⟩

/-- An attempt that is nothing but its outcome. -/
def plain : Dialogue Unit (fun _ => Except Failure α) (Except Failure α) := .asks () .ended

/-- Whether an outcome is a failure that may pass. -/
def mayPass : Except Failure α → Bool
  | .ok _          => false
  | .error failure => isTransient failure

theorem exists_of_mayPass {outcome : Except Failure α} (h : mayPass outcome = true) :
    ∃ failure, outcome = .error failure ∧ isTransient failure = true := by
  cases outcome with
  | ok value => cases h
  | error failure => exact ⟨failure, rfl, h⟩

/-! ## The first outcome that ends a call -/

/-- The place of the first outcome that is not a failure that may pass; infinite without one. -/
noncomputable def firstLasting (outcomes : Nat → Except Failure α) : ℕ∞ :=
  sInf (Nat.cast '' {n | mayPass (outcomes n) = false})

section FirstLasting

variable {outcomes : Nat → Except Failure α} {n : Nat}

theorem firstLasting_le (h : mayPass (outcomes n) = false) : firstLasting outcomes ≤ n :=
  sInf_le ⟨n, h, rfl⟩

/-- Every outcome before the first lasting one may pass. -/
theorem mayPass_of_lt (h : (n : ℕ∞) < firstLasting outcomes) : mayPass (outcomes n) = true := by
  by_contra hlasting
  exact absurd h (not_lt.mpr (firstLasting_le (Bool.eq_false_iff.mpr hlasting)))

/-- The first lasting outcome is one. -/
theorem lasting_of_eq (h : firstLasting outcomes = n) : mayPass (outcomes n) = false := by
  have hsome : (Nat.cast '' {n | mayPass (outcomes n) = false} : Set ℕ∞).Nonempty := by
    by_contra hnone
    rw [firstLasting, Set.not_nonempty_iff_eq_empty.mp hnone, sInf_empty] at h
    exact ENat.top_ne_natCast n h
  obtain ⟨first, hfirst, heq⟩ := csInf_mem hsome
  have hn : (first : ℕ∞) = n := heq.trans h
  rwa [← Nat.cast_inj.mp hn]

theorem firstLasting_eq (hbefore : ∀ i < n, mayPass (outcomes i) = true)
    (h : mayPass (outcomes n) = false) : firstLasting outcomes = n := by
  refine le_antisymm (firstLasting_le h) (le_sInf ?_)
  rintro _ ⟨i, hi, rfl⟩
  by_contra hlt
  have hpass := hbefore i (Nat.cast_lt.mp (not_le.mp hlt))
  exact Bool.false_ne_true (hi.symm.trans hpass)

/-- How many attempts of a call are followed by another one: those before the first lasting outcome,
    and no more than the bound. -/
noncomputable def vain (bound : Nat) (outcomes : Nat → Except Failure α) : Nat :=
  (min (firstLasting outcomes) bound).toNat

variable {bound : Nat}

theorem natCast_vain : (vain bound outcomes : ℕ∞) = min (firstLasting outcomes) bound :=
  ENat.natCast_toNat (ne_top_of_le_ne_top (ENat.natCast_ne_top bound) (min_le_right _ _))

theorem vain_le : vain bound outcomes ≤ bound := by
  rw [← Nat.cast_le (α := ℕ∞), natCast_vain]
  exact min_le_right _ _

theorem mayPass_of_lt_vain (h : n < vain bound outcomes) : mayPass (outcomes n) = true := by
  rw [← Nat.cast_lt (α := ℕ∞), natCast_vain] at h
  exact mayPass_of_lt (h.trans_le (min_le_left _ _))

theorem vain_eq_of_le (h : firstLasting outcomes ≤ bound) :
    firstLasting outcomes = vain bound outcomes := by
  rw [natCast_vain, min_eq_left h]

theorem vain_eq_of_lt (h : bound < firstLasting outcomes) : vain bound outcomes = bound := by
  rw [← Nat.cast_inj (R := ℕ∞), natCast_vain, min_eq_right h.le]

end FirstLasting

/-! ## The run of a call -/

/-- The lines of a failed attempt, the wait before the next one included. -/
def tried (label : String) (allowed : Nat) (outcomes : Nat → Except Failure α)
    (failures : Nat → Failure) (n : Nat) : List (Line Unit fun _ => Except Failure α) :=
  [.asked () (outcomes n), .shown (.print (line label (n + 1) allowed (failures n))),
    .shown (.sleep (2 ^ n))]

section Run

variable {outcomes : Nat → Except Failure α} {failures : Nat → Failure}

/-- A call that is not made again is its attempt. -/
theorem run_attempts_last (label : String) {left made : Nat}
    (h : left = 0 ∨ mayPass (outcomes made) = false) :
    (attempts label plain left made).run (hearing outcomes) made =
      ⟨[.asked () (outcomes made)], outcomes made, made + 1⟩ := by
  cases left with
  | zero => rfl
  | succ left =>
      have hlasting := h.resolve_left (Nat.succ_ne_zero left)
      rw [attempts, run_bind]
      cases houtcome : outcomes made with
      | ok value => simp [plain, hearing, heard, run, houtcome]
      | error failure =>
          rw [houtcome] at hlasting
          have hfinal : isTransient failure = false := hlasting
          simp [plain, hearing, heard, run, houtcome, hfinal]

/-- **The attempts of a call from any of them on**: the next `vain` ones fail for the moment, and
    the one behind them is the last. -/
theorem run_attempts (label : String) (vain : Nat) :
    ∀ left made, vain ≤ left →
      (∀ n, made ≤ n → n < made + vain →
        outcomes n = .error (failures n) ∧ isTransient (failures n) = true) →
      (vain = left ∨ mayPass (outcomes (made + vain)) = false) →
      (∀ n, made ≤ n → n < made + vain → Announceable (n + 1) (made + left + 1)) →
      (attempts label plain left made).run (hearing outcomes) made =
        ⟨(List.range' made vain).flatMap (tried label (made + left + 1) outcomes failures) ++
            [.asked () (outcomes (made + vain))],
          outcomes (made + vain), made + vain + 1⟩ := by
  induction vain with
  | zero =>
      intro left made _ _ hlast _
      exact run_attempts_last label (hlast.imp_left Eq.symm)
  | succ vain ih =>
      intro left made hleft hfailed hlast hlines
      obtain ⟨left, rfl⟩ : ∃ fewer, left = fewer + 1 := ⟨left - 1, by omega⟩
      obtain ⟨houtcome, htransient⟩ := hfailed made le_rfl (by omega)
      have hline : Announceable (made + 1) (made + left + 2) := hlines made le_rfl (by omega)
      have hplace : made + 1 + vain = made + (vain + 1) := by omega
      have hallowed : made + 1 + left + 1 = made + (left + 1) + 1 := by omega
      have hrest := ih left (made + 1) (by omega)
        (fun n hn hlt => hfailed n (by omega) (by omega))
        (by rw [hplace]; exact hlast.imp_left Nat.succ.inj)
        (fun n hn hlt => hallowed ▸ hlines n (by omega) (by omega))
      rw [hplace, hallowed] at hrest
      have htried : plain.run (hearing outcomes) made =
          ⟨[.asked () (outcomes made)], outcomes made, made + 1⟩ := rfl
      rw [run_attempts_of_failed label hline (by rw [htried, houtcome]) htransient, htried]
      dsimp only
      rw [hrest, List.range'_succ, List.flatMap_cons, tried]
      rfl

/-- Waiting 1, 2, 4, … seconds takes one second less than the next wait would. -/
theorem waited_tried (label : String) (allowed : Nat) (outcomes : Nat → Except Failure α)
    (failures : Nat → Failure) (m : Nat) :
    Event.waited (Line.events (fun _ => none)
      ((List.range m).flatMap (tried label allowed outcomes failures))) + 1 = 2 ^ m := by
  induction m with
  | zero => rfl
  | succ m ih =>
      have hone : Event.waited (Line.events (fun _ => none)
          (tried label allowed outcomes failures m)) = 2 ^ m := by
        simp [tried, Line.events, Event.waited]
      rw [List.range_succ, List.flatMap_append, List.flatMap_singleton, Line.events_append,
        Event.waited_append, hone, pow_succ]
      omega

end Run

/-! ## The law -/

/-- **The law of retries.**  A bound below zero is refused before any attempt.  Otherwise, as long as
    the numbers on the lines can be written, every outcome before the first lasting one is followed
    by a line, a wait of twice the seconds of the one before and another attempt, as often as the
    bound allows; the call ends as its last attempt does, with the first lasting outcome if that is
    within the bound, and else with the failure of the last attempt. -/
theorem retry_law (maxRetries : Int) (label : String) (outcomes : Nat → Except Failure α) :
    let played := (retry maxRetries label plain).run (hearing outcomes) 0
    let bound := maxRetries.toNat
    let vain := vain bound outcomes
    (maxRetries < 0 → played = ⟨[], .error (negativeBound maxRetries), 0⟩) ∧
    (0 ≤ maxRetries → (∀ n < vain, Announceable (n + 1) (bound + 1)) →
      played.state = vain + 1 ∧
      (∃ failures : Nat → Failure,
        (∀ n < vain, outcomes n = .error (failures n) ∧ isTransient (failures n) = true) ∧
        played.transcript =
          (List.range vain).flatMap (tried label (bound + 1) outcomes failures) ++
            [.asked () (outcomes vain)]) ∧
      Event.waited (Line.events (fun _ => none) played.transcript) = 2 ^ vain - 1 ∧
      (∀ k : Nat, firstLasting outcomes = k → k ≤ bound → played.result = outcomes k) ∧
      (bound < firstLasting outcomes → ∃ failure, outcomes bound = .error failure ∧
        isTransient failure = true ∧ played.result = .error failure)) := by
  intro played bound m
  constructor
  · intro hneg
    show (retry maxRetries label plain).run (hearing outcomes) 0 = _
    rw [retry, if_pos hneg]
    rfl
  · intro hbound hlines
    have hpass : ∀ n, ∃ failure, n < m → outcomes n = .error failure ∧
        isTransient failure = true := by
      intro n
      by_cases hn : n < m
      · obtain ⟨failure, hfailure⟩ := exists_of_mayPass (mayPass_of_lt_vain hn)
        exact ⟨failure, fun _ => hfailure⟩
      · exact ⟨unwritable, fun h => absurd h hn⟩
    choose failures hfailures using hpass
    have hlast : m = bound ∨ mayPass (outcomes (0 + m)) = false := by
      rw [Nat.zero_add]
      rcases le_or_gt (firstLasting outcomes) bound with hle | hlt
      · exact Or.inr (lasting_of_eq (vain_eq_of_le hle))
      · exact Or.inl (vain_eq_of_lt hlt)
    have hrun : played = ⟨(List.range m).flatMap (tried label (bound + 1) outcomes failures) ++
        [.asked () (outcomes m)], outcomes m, m + 1⟩ := by
      show (retry maxRetries label plain).run (hearing outcomes) 0 = _
      rw [retry, if_neg (by omega), run_attempts label m bound 0 vain_le
        (fun n _ hn => hfailures n (by omega)) hlast
        (fun n _ hn => (Nat.zero_add bound).symm ▸ hlines n (by omega))]
      simp only [Nat.zero_add, List.range_eq_range']
    rw [hrun]
    refine ⟨rfl, ⟨failures, hfailures, rfl⟩, ?_, ?_, ?_⟩
    · have hwaited := waited_tried label (bound + 1) outcomes failures m
      rw [Line.events_append, Event.waited_append]
      exact Nat.eq_sub_of_add_eq hwaited
    · intro k hk hkbound
      have hm := vain_eq_of_le (hk ▸ Nat.cast_le.mpr hkbound)
      rw [hk, Nat.cast_inj] at hm
      rw [hm]
    · intro hlt
      have hm : m = bound := vain_eq_of_lt hlt
      obtain ⟨failure, hfailure, htransient⟩ := exists_of_mayPass (mayPass_of_lt hlt)
      exact ⟨failure, hfailure, htransient, by rw [hm]; exact hfailure⟩

/-- Two failures that may pass are waited for one and two seconds, and a third attempt succeeds where
    the bound allows it; where it does not, the second one is the last. -/
theorem retry_law_two :
    let outcomes : Nat → Except Failure Nat := fun n =>
      if n < 2 then .error (.transient (.text "scroll") (.told (.text "busy")) (.text "a"))
      else .ok 7
    let played (maxRetries : Int) := (retry maxRetries "call" plain).run (hearing outcomes) 0
    (played 3).result = .ok 7 ∧ (played 3).state = 3 ∧
      Event.waited (Line.events (fun _ => none) (played 3).transcript) = 3 ∧
      (∃ failure, isTransient failure = true ∧ (played 1).result = .error failure) ∧
      (played (-1)).state = 0 := by
  intro outcomes played
  have hfirst : firstLasting outcomes = (2 : Nat) := firstLasting_eq (by decide) rfl
  have hvain : vain (Int.toNat 3) outcomes = 2 := by
    rw [vain, hfirst]
    rfl
  have hfew {allowed n : Nat} (hallowed : allowed < 9) (hn : n < allowed) :
      Announceable (n + 1) (allowed + 1) := by
    have hcount : n + (allowed - n - 1) < writableRetries := by
      unfold writableRetries
      omega
    have hplace : n + (allowed - n - 1) + 2 = allowed + 1 := by omega
    exact hplace ▸ announceable_of_few hcount
  obtain ⟨hstate, -, hwaited, hresult, -⟩ := (retry_law 3 "call" outcomes).2 (by decide)
    fun n hn => hfew (by decide) (hn.trans_le vain_le)
  obtain ⟨-, -, -, -, hexhausted⟩ := (retry_law 1 "call" outcomes).2 (by decide)
    fun n hn => hfew (by decide) (hn.trans_le vain_le)
  have hone : ((Int.toNat 1 : Nat) : ℕ∞) < firstLasting outcomes := by
    rw [hfirst]
    exact Nat.cast_lt.mpr (by decide)
  obtain ⟨failure, -, htransient, hfailed⟩ := hexhausted hone
  have hrefused := (retry_law (-1) "call" outcomes).1 (by decide)
  rw [hvain] at hstate hwaited
  exact ⟨hresult 2 hfirst (by decide), hstate, hwaited, ⟨failure, htransient, hfailed⟩,
    congrArg Played.state hrefused⟩

end Retry

end OrphanSweep
