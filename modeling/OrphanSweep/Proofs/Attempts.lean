import OrphanSweep.Proofs.Comparison
import OrphanSweep.Proofs.Retry
import OrphanSweep.World.Schedule

/-! # Failed attempts leave no trace

    A wait in a log ends a failed attempt, which began with the request before it.  A log is settled
    by dropping every such attempt with its wait (`Event.settled`).  A call that gets through after
    some failed attempts then looks like a call that gets through at once: it has the same end, and
    its settled events are the events of the other (`pairs_retry`). -/

namespace OrphanSweep

/-! ## Settled logs -/

namespace Event

/-- Whether the event is a request that is answered. -/
def isRequest : Event → Bool
  | list     => true
  | scroll _ => true
  | lookup _ => true
  | delete _ => true
  | _        => false

/-- Whether the event is a wait. -/
def isWait : Event → Bool
  | sleep _ => true
  | _       => false

/-- Puts an event before a settled log; the flag tells that the log begins in the middle of a failed
    attempt.  A wait ends one, and what comes before it is dropped up to the request. -/
def settleOne (event : Event) (later : Bool × List Event) : Bool × List Event :=
  if event.isWait then (true, later.2)
  else if later.1 then (!event.isRequest, later.2)
  else (false, event :: later.2)

/-- Drops the failed attempts of a log, each from its request to its wait. -/
def settle (log : List Event) : Bool × List Event := log.foldr settleOne (false, [])

/-- A log without its failed attempts. -/
def settled (log : List Event) : List Event := (settle log).2

theorem settle_append {first second : List Event} (h : (settle second).1 = false) :
    settle (first ++ second) = ((settle first).1, (settle first).2 ++ (settle second).2) := by
  induction first with
  | nil => exact Prod.ext h rfl
  | cons event first ih =>
      show settleOne event (settle (first ++ second)) = ((settleOne event (settle first)).1,
        (settleOne event (settle first)).2 ++ (settle second).2)
      rw [ih, settleOne, settleOne]
      cases event.isWait with
      | true => rfl
      | false => cases (settle first).1 <;> rfl

/-- A log without waits has no failed attempts. -/
theorem settle_of_unwaited {log : List Event} (h : ∀ event ∈ log, event.isWait = false) :
    settle log = (false, log) := by
  induction log with
  | nil => rfl
  | cons event log ih =>
      show settleOne event (settle log) = _
      rw [ih fun other hother => h other (List.mem_cons_of_mem _ hother), settleOne,
        h event List.mem_cons_self]
      rfl

theorem settle_flatMap {names : List String} {log log' : String → List Event}
    (h : ∀ name ∈ names, settle (log name) = (false, log' name)) :
    settle (names.flatMap log) = (false, names.flatMap log') := by
  induction names with
  | nil => rfl
  | cons name names ih =>
      have hrest := ih fun other hother => h other (List.mem_cons_of_mem _ hother)
      rw [List.flatMap_cons, List.flatMap_cons, settle_append (by rw [hrest]), hrest,
        h name List.mem_cons_self]

/-- What stands between the request of a failed attempt and its wait is dropped. -/
theorem settle_prints {prints later : List Event}
    (hprints : ∀ event ∈ prints, event.isRequest = false) (hlater : (settle later).1 = true) :
    settle (prints ++ later) = (true, (settle later).2) := by
  induction prints with
  | nil => exact Prod.ext hlater rfl
  | cons event prints ih =>
      show settleOne event (settle (prints ++ later)) = _
      rw [ih fun other h => hprints other (List.mem_cons_of_mem _ h), settleOne,
        hprints event List.mem_cons_self]
      cases event.isWait <;> rfl

theorem isWait_of_isRequest {event : Event} (h : event.isRequest = true) :
    event.isWait = false := by
  cases event <;> first | rfl | cases h

/-- **A failed attempt leaves no trace.** -/
theorem settle_failed {request : Event} {prints : List Event} (seconds : Nat) (later : List Event)
    (hrequest : request.isRequest = true) (hprints : ∀ event ∈ prints, event.isRequest = false) :
    settle (request :: prints ++ .sleep seconds :: later) = (false, (settle later).2) := by
  have hrest : settle (prints ++ .sleep seconds :: later) = (true, (settle later).2) :=
    settle_prints hprints rfl
  show settleOne request (settle (prints ++ .sleep seconds :: later)) = _
  rw [hrest, settleOne, isWait_of_isRequest hrequest, hrequest]
  rfl

end Event

namespace Line

variable {Ask : Type} {Reply : Ask → Type} (request : Ask → Option Event)

@[simp] theorem events_append (first second : List (Line Ask Reply)) :
    events request (first ++ second) = events request first ++ events request second :=
  List.filterMap_append

end Line

/-! ## Calls that get through -/

/-- The failures of a call of some kind that may pass: any of the store but an interrupt, and any of
    the database. -/
def CallKind.MayPass : CallKind → Failure → Prop
  | lookup, failure => failure.isOfDatabase = true
  | _, failure      => failure.isInterrupt = false

/-- After `made` attempts the next `vain` ones fail for the moment and the one after them does
    not. -/
def GetsThrough (kind : CallKind) (strikes : Nat → Strike) : (vain made : Nat) → Prop
  | 0, made        => (strikes (made + 1)).failure = none
  | vain + 1, made =>
      (∃ failure, (strikes (made + 1)).failure = some failure ∧ kind.MayPass failure) ∧
        GetsThrough kind strikes vain (made + 1)

/-- After `made` attempts each of the next `calls` calls gets through, with at most `bound` failed
    attempts. -/
def Bearable (kind : CallKind) (bound : Nat) (strikes : Nat → Strike) : (calls made : Nat) → Prop
  | 0, _            => True
  | calls + 1, made => ∃ vain ≤ bound, GetsThrough kind strikes vain made ∧
      Bearable kind bound strikes calls (made + vain + 1)

/-- Calls that no strike makes fail are bearable. -/
theorem bearable_of_none (kind : CallKind) (bound : Nat) {strikes : Nat → Strike} (calls : Nat) :
    ∀ made, (∀ n, made < n → (strikes n).failure = none) →
      Bearable kind bound strikes calls made := by
  induction calls with
  | zero => intro made _; trivial
  | succ calls ih =>
      intro made h
      exact ⟨0, Nat.zero_le _, h _ (Nat.lt_succ_self _), ih _ fun n hn => h n (by omega)⟩

namespace Retry

open Dialogue

variable {Ask : Type} {Reply : Ask → Type} {σ τ α : Type}

/-- The greatest number of retries with which every wait can be written. -/
def writableRetries : Nat := 14285

theorem wait_mono {made other : Nat} (h : made ≤ other) : wait made ≤ wait other :=
  Nat.pow_le_pow_right (by decide) (Nat.sub_le_sub_right h 1)

/-- What does not exceed the last of these waits can be written. -/
theorem writable_of_le {n : Nat} (h : n ≤ wait writableRetries) : isUnwritable n = false := by
  have hlimit : wait writableRetries < Nat.pow 10 Numeral.digitLimit := by decide +kernel
  rw [isUnwritable, decide_eq_false_iff_not]
  exact Nat.not_le_of_lt (Nat.lt_of_le_of_lt h hlimit)

/-- Every number on the line that announces another attempt can be written. -/
structure Announceable (made allowed : Nat) : Prop where
  ofMade    : isUnwritable made = false
  ofAllowed : isUnwritable allowed = false
  ofWait    : isUnwritable (wait made) = false

/-- With few enough retries every attempt can be announced. -/
theorem announceable_of_few {made left : Nat} (h : made + left < writableRetries) :
    Announceable (made + 1) (made + left + 2) := by
  have hcount : writableRetries + 1 ≤ wait writableRetries := by decide +kernel
  have hwait : wait (made + 1) ≤ wait writableRetries := wait_mono (by omega)
  exact ⟨writable_of_le (by omega), writable_of_le (by omega), writable_of_le hwait⟩

/-- A failed attempt is announced and waited for, if the line can be written. -/
theorem pause_of_announceable {label : String} {made allowed : Nat} (h : Announceable made allowed)
    (failure : Failure) (next : Dialogue Ask Reply (Except Failure α)) :
    pause label made allowed failure next =
      .shows (.print (line label made allowed failure)) (.shows (.sleep (wait made)) next) := by
  rw [pause, h.ofMade, h.ofAllowed, h.ofWait]
  rfl

variable {answer : Answering Ask Reply σ} {attempt : Dialogue Ask Reply (Except Failure α)}

/-- A call whose first attempt succeeds is that attempt. -/
theorem run_attempts_of_ok {value : α} {s : σ} (label : String) (left made : Nat)
    (h : (attempt.run answer s).result = .ok value) :
    (attempts label attempt left made).run answer s = attempt.run answer s := by
  cases left with
  | zero => rfl
  | succ left =>
      rw [attempts, run_bind]
      simp only [h, run, List.append_nil]
      rw [← h]

/-- A call whose first attempt fails for the moment waits and goes on with the next one. -/
theorem run_attempts_of_failed {failure : Failure} {s : σ} (label : String) {left made : Nat}
    (hline : Announceable (made + 1) (made + left + 2))
    (h : (attempt.run answer s).result = .error failure) (htransient : isTransient failure = true) :
    (attempts label attempt (left + 1) made).run answer s =
      let tried := attempt.run answer s
      let rest := (attempts label attempt left (made + 1)).run answer tried.state
      ⟨tried.transcript ++ (.shown (.print (line label (made + 1) (made + left + 2) failure)) ::
          .shown (.sleep (wait (made + 1))) :: rest.transcript), rest.result, rest.state⟩ := by
  rw [attempts, run_bind]
  simp only [h, if_pos htransient, pause_of_announceable hline]
  rfl

end Retry

/-! ## Calls with and without failed attempts -/

/-- The comparison of a run whose failed attempts are dropped with a run that has none. -/
def settling {Ask : Type} {Reply : Ask → Type} {σ τ : Type} (request : Ask → Option Event)
    (here : Answering Ask Reply σ) (there : Answering Ask Reply τ) (within : τ → Prop)
    (hwithin : ∀ ask t, within (there ask t).state → within t) : Comparison Ask Reply σ τ where
  here          := here
  there         := there
  agree lines lines' :=
    Event.settle (Line.events request lines) = (false, Line.events request lines')
  within        := within
  agree_nil     := rfl
  agree_append  := by
    intro first first' second second' hfirst hsecond
    rw [Line.events_append, Line.events_append, Event.settle_append (by rw [hsecond]), hfirst,
      hsecond]
  within_answer := hwithin

section Settling

variable {Ask : Type} {Reply : Ask → Type} {σ τ α β : Type}
variable {request : Ask → Option Event} {here : Answering Ask Reply σ}
variable {there : Answering Ask Reply τ} {within : τ → Prop}
variable {hwithin : ∀ ask t, within (there ask t).state → within t}

theorem pairs_settling {post : α → β → σ → τ → Prop} {d : Dialogue Ask Reply α}
    {d' : Dialogue Ask Reply β} {s : σ} {t : τ} :
    (settling request here there within hwithin).Pairs post d d' s t ↔
      (within (d'.run there t).state →
        Event.settle (Line.events request (d.run here s).transcript) =
          (false, Line.events request (d'.run there t).transcript) ∧
        post (d.run here s).result (d'.run there t).result (d.run here s).state
          (d'.run there t).state) :=
  Iff.rfl

end Settling

/-- An attempt fails for the moment: it sends a request and shows the failure, and leaves a state
    that satisfies `after`. -/
structure FailsOnce {Ask : Type} {Reply : Ask → Type} {σ α : Type} (request : Ask → Option Event)
    (answer : Answering Ask Reply σ) (attempt : Dialogue Ask Reply (Except Failure α)) (s : σ)
    (after : σ → Prop) : Prop where
  failed : ∃ failure, (attempt.run answer s).result = .error failure ∧
    Retry.isTransient failure = true
  shown  : ∃ sent prints, Line.events request (attempt.run answer s).transcript = sent :: prints ∧
    sent.isRequest = true ∧ ∀ event ∈ prints, event.isRequest = false
  after  : after (attempt.run answer s).state

/-- Both calls have ended with the same value, in states that are related. -/
def Both {σ τ α ε : Type} (good : α → σ → τ → Prop) (result result' : Except ε α) (s : σ) (t : τ) :
    Prop :=
  ∃ value, result = .ok value ∧ result' = .ok value ∧ good value s t

namespace Retry

open Dialogue

variable {Ask : Type} {Reply : Ask → Type} {σ τ α : Type}
variable {request : Ask → Option Event} {here : Answering Ask Reply σ}
variable {there : Answering Ask Reply τ} {within : τ → Prop}
variable {hwithin : ∀ ask t, within (there ask t).state → within t}
variable {attempt attempt' : Dialogue Ask Reply (Except Failure α)}
variable (fits : Nat → σ → Prop) {good : α → σ → τ → Prop} {t : τ}

/-- A call that has ended within the bound has made its first attempt within it. -/
theorem within_attempts (hwithin : ∀ ask t, within (there ask t).state → within t) {label : String}
    {left made : Nat} (h : within ((attempts label attempt' left made).run there t).state) :
    within (attempt'.run there t).state := by
  cases left with
  | zero => exact h
  | succ left =>
      rw [attempts, run_bind] at h
      exact run_reflects hwithin _ _ h

theorem pairs_attempts (label : String)
    (hfail : ∀ vain s, fits (vain + 1) s → FailsOnce request here attempt s (fits vain))
    (hlast : ∀ s, fits 0 s →
      (settling request here there within hwithin).Pairs (Both good) attempt attempt' s t)
    (vain : Nat) :
    ∀ (left made left' made' : Nat) (s : σ), vain ≤ left → made + left ≤ writableRetries →
      fits vain s →
      (settling request here there within hwithin).Pairs (Both good)
        (attempts label attempt left made) (attempts label attempt' left' made') s t := by
  induction vain with
  | zero =>
      intro left made left' made' s _ _ hs
      rw [pairs_settling]
      intro hend
      obtain ⟨hagree, value, hok, hok', hgood⟩ :=
        pairs_settling.mp (hlast s hs) (within_attempts hwithin hend)
      rw [run_attempts_of_ok label left made hok, run_attempts_of_ok label left' made' hok']
      exact ⟨hagree, value, hok, hok', hgood⟩
  | succ vain ih =>
      intro left made left' made' s hleft hfew hs
      obtain ⟨left, rfl⟩ : ∃ fewer, left = fewer + 1 := ⟨left - 1, by omega⟩
      obtain ⟨⟨failure, hfailed, htransient⟩, ⟨sent, prints, hshown, hsent, hprints⟩, hafter⟩ :=
        hfail vain s hs
      rw [pairs_settling]
      intro hend
      -- the rest of the call is compared by itself, and the failed attempt is dropped before it
      obtain ⟨hagree, hboth⟩ := pairs_settling.mp
        (ih left (made + 1) left' made' _ (by omega) (by omega) hafter) hend
      rw [run_attempts_of_failed label (announceable_of_few (by omega)) hfailed htransient]
      refine ⟨?_, hboth⟩
      let announced : Event := .print (line label (made + 1) (made + left + 2) failure)
      have hdropped : ∀ event ∈ prints ++ [announced], event.isRequest = false := by
        intro event hevent
        rcases List.mem_append.mp hevent with hmem | hmem
        · exact hprints event hmem
        · rw [List.mem_singleton.mp hmem]
          rfl
      have hsettled := Event.settle_failed (wait (made + 1))
        (Line.events request ((attempts label attempt left (made + 1)).run here
          (attempt.run here s).state).transcript) hsent hdropped
      rw [hagree] at hsettled
      rw [Line.events_append, hshown, ← hsettled]
      simp [announced, Line.events]

/-- **A call that gets through looks like one that gets through at once**, however many attempts it
    takes. -/
theorem pairs_retry (label : String) {bound vain : Nat} (hfew : bound ≤ writableRetries)
    (hfail : ∀ vain s, fits (vain + 1) s → FailsOnce request here attempt s (fits vain))
    (hlast : ∀ s, fits 0 s →
      (settling request here there within hwithin).Pairs (Both good) attempt attempt' s t)
    (hvain : vain ≤ bound) {s : σ} (hs : fits vain s) :
    (settling request here there within hwithin).Pairs (Both good)
      (retry bound label attempt) (retry bound label attempt') s t := by
  have hnat : ¬ (bound : Int) < 0 := by omega
  rw [retry, retry, if_neg hnat, if_neg hnat, Int.toNat_natCast]
  exact pairs_attempts fits label hfail hlast vain bound 0 bound 0 s hvain (by omega) hs

end Retry

end OrphanSweep
