import OrphanSweep.Proofs.Efforts

/-! # Failures that cannot pass

    A dialogue ends on a failure if it ends at once where an answer comes to one that cannot pass:
    nothing is shown and nothing is asked behind that answer (`EndsOn`).  An attempt does, so a call
    with its retries does, and so does a scan, for all of its parts give a failure on
    (`endsOn_scan`).  So such an answer is the last thing in a run (`EndsOn.run`). -/

namespace OrphanSweep

namespace Dialogue

variable {Ask : Type} {Reply : Ask → Type} {σ α β : Type}

/-- Wherever an answer comes to a failure that cannot pass, the dialogue has ended, with a value that
    `fails` with it. -/
def EndsOn (failure? : (ask : Ask) → Reply ask → Option Failure) (fails : Failure → α → Prop) :
    Dialogue Ask Reply α → Prop
  | ended _         => True
  | shows _ rest    => rest.EndsOn failure? fails
  | asks ask resume => ∀ reply, (resume reply).EndsOn failure? fails ∧
      ∀ failure, failure? ask reply = some failure → Retry.isTransient failure = false →
        ∃ value, resume reply = ended value ∧ fails failure value

variable {failure? : (ask : Ask) → Reply ask → Option Failure} {fails : Failure → α → Prop}

theorem endsOn_showAll {events : List Event} {rest : Dialogue Ask Reply α}
    (h : rest.EndsOn failure? fails) : (showAll events rest).EndsOn failure? fails := by
  induction events with
  | nil => exact h
  | cons event events ih => exact ih

/-- What goes on behind a failure has to end with it. -/
theorem EndsOn.bind {fails' : Failure → β → Prop} {next : α → Dialogue Ask Reply β}
    {d : Dialogue Ask Reply α} (h : d.EndsOn failure? fails)
    (hfails : ∀ failure value, Retry.isTransient failure = false → fails failure value →
      ∃ value', next value = ended value' ∧ fails' failure value')
    (hnext : ∀ value, (next value).EndsOn failure? fails') :
    (d.bind next).EndsOn failure? fails' := by
  induction d with
  | ended value => exact hnext value
  | shows event rest ih => exact ih h
  | asks ask resume ih =>
      intro reply
      obtain ⟨hrest, hfailed⟩ := h reply
      refine ⟨ih reply hrest, ?_⟩
      intro failure hfailure hlasting
      obtain ⟨value, hended, hvalue⟩ := hfailed failure hfailure hlasting
      obtain ⟨value', hnext', hvalue'⟩ := hfails failure value hlasting hvalue
      refine ⟨value', ?_, hvalue'⟩
      show (resume reply).bind next = _
      rw [hended]
      exact hnext'

/-- **The answer is the last thing in a run**: nothing is asked behind it, and nothing shown but
    what it brings with it. -/
theorem EndsOn.run {answer : Answering Ask Reply σ} {d : Dialogue Ask Reply α}
    (h : d.EndsOn failure? fails) {m : Moment Ask Reply σ} {failure : Failure}
    (hfailure : failure? m.ask m.reply = some failure)
    (hlasting : Retry.isTransient failure = false) :
    ∀ {s : σ} {earlier later : List (Moment Ask Reply σ)},
      d.moments answer s = earlier ++ m :: later →
      later = [] ∧ fails failure (d.run answer s).result ∧
        answer m.ask m.before = ⟨(answer m.ask m.before).log, m.reply, m.after⟩ ∧
        (d.run answer s).state = m.after ∧
        ∃ lines, (d.run answer s).transcript = lines ++ heard m.ask (answer m.ask m.before) := by
  induction d with
  | ended value =>
      intro s earlier later hm
      cases earlier <;> cases hm
  | shows event rest ih =>
      intro s earlier later hm
      obtain ⟨hlater, hresult, hanswer, hstate, lines, hlines⟩ := ih h hm
      exact ⟨hlater, hresult, hanswer, hstate, .shown event :: lines,
        congrArg (Line.shown event :: ·) hlines⟩
  | asks ask resume ih =>
      intro s earlier later hm
      obtain ⟨hrest, hfailed⟩ := h (answer ask s).result
      cases earlier with
      | nil =>
          obtain ⟨rfl, hlater⟩ := List.cons.inj hm
          obtain ⟨value, hended, hvalue⟩ := hfailed failure hfailure hlasting
          rw [hended] at hlater
          rw [Dialogue.run, hended]
          exact ⟨hlater.symm, hvalue, rfl, rfl, [], List.append_nil _⟩
      | cons first earlier =>
          obtain ⟨-, hbehind⟩ := List.cons.inj hm
          obtain ⟨hlater, hresult, hanswer, hstate, lines, hlines⟩ :=
            ih (answer ask s).result hrest hbehind
          refine ⟨hlater, hresult, hanswer, hstate, heard ask (answer ask s) ++ lines, ?_⟩
          rw [Dialogue.run, hlines, List.append_assoc]

end Dialogue

open Dialogue

/-! ## Retried calls -/

/-- The failure is the end. -/
abbrev Raised {α : Type} (failure : Failure) (result : Except Failure α) : Prop :=
  result = .error failure

theorem Failure.raised_of? {α : Type} {result : Except Failure α} {failure : Failure}
    (h : Failure.of? result = some failure) : Raised failure result := by
  cases result with
  | ok value => cases h
  | error other => exact congrArg Except.error (Option.some.inj h)

namespace Retry

variable {Ask : Type} {Reply : Ask → Type} {α : Type}
variable {failure? : (ask : Ask) → Reply ask → Option Failure}
variable {attempt : Dialogue Ask Reply (Except Failure α)}

/-- No attempt is made behind a failure that cannot pass. -/
theorem endsOn_attempts (label : String) (hattempt : attempt.EndsOn failure? Raised) (left : Nat) :
    ∀ made, (attempts label attempt left made).EndsOn failure? Raised := by
  induction left with
  | zero => intro made; exact hattempt
  | succ left ih =>
      intro made
      rw [attempts]
      refine hattempt.bind ?_ ?_
      · rintro failure _ hlasting rfl
        refine ⟨.error failure, ?_, rfl⟩
        dsimp only
        rw [hlasting, if_neg Bool.false_ne_true]
      · intro result
        cases result with
        | ok value => trivial
        | error failure =>
            dsimp only
            split
            · cases pause_cases label (made + 1) (made + left + 2) failure
                  (attempts label attempt left (made + 1)) with
              | inl hpause =>
                  rw [hpause]
                  exact True.intro
              | inr hpause =>
                  rw [hpause]
                  exact ih (made + 1)
            · trivial

theorem endsOn_retry (maxRetries : Int) (label : String)
    (hattempt : attempt.EndsOn failure? Raised) :
    (retry maxRetries label attempt).EndsOn failure? Raised := by
  rw [retry]
  split
  · trivial
  · exact endsOn_attempts label hattempt _ 0

end Retry

/-! ## Scans -/

/-- A part of a scan has halted with a failure. -/
def Halted {α : Type} (failure : Failure) (result : Except Halt α) : Prop :=
  ∃ reached, result = .error ⟨failure, reached⟩

namespace Scan

variable (plan : Plan) (name : String) {α β : Type}

variable {name} in
/-- A part of a scan gives a failure on. -/
theorem EndsOn.andThen {first : Talk (Except Halt α)} {next : α → Talk (Except Halt β)}
    (h : first.EndsOn (Call.failure? name) Halted)
    (hnext : ∀ value, (next value).EndsOn (Call.failure? name) Halted) :
    (first.andThen next).EndsOn (Call.failure? name) Halted := by
  refine h.bind ?_ ?_
  · rintro failure _ - ⟨reached, rfl⟩
    exact ⟨_, rfl, reached, rfl⟩
  · intro result
    cases result with
    | ok value => exact hnext value
    | error halt => trivial

theorem endsOn_call {what : String} {reached : Tally} {attempt : Talk (Except Failure α)}
    (hattempt : attempt.EndsOn (Call.failure? name) Raised) :
    (call plan name what reached attempt).EndsOn (Call.failure? name) Halted := by
  refine (Retry.endsOn_retry _ _ hattempt).bind ?_ fun _ => trivial
  rintro failure _ - rfl
  exact ⟨_, rfl, reached, rfl⟩

theorem endsOn_fetch (cursor : Option PointId) :
    (fetch plan name cursor).EndsOn (Call.failure? name) Raised :=
  fun _ => ⟨trivial, fun _ hfailure _ => ⟨_, rfl, Failure.raised_of? hfailure⟩⟩

theorem endsOn_lookup (ids : PointSet) :
    (lookup ids).EndsOn (Call.failure? name) Raised :=
  fun reply => ⟨trivial, fun _ hfailure _ => ⟨reply, rfl, Failure.raised_of? hfailure⟩⟩

/-- A failed deletion is shown, unless the program was interrupted; any other failure may pass. -/
theorem endsOn_delete (ids : PointSet) :
    (delete name ids).EndsOn (Call.failure? name) Raised := by
  intro reply
  refine ⟨endsOn_showAll trivial, fun failure hfailure hlasting => ?_⟩
  have hraised : Raised failure (VectorStore.deleted name ids.size reply) :=
    Failure.raised_of? hfailure
  refine ⟨_, ?_, hraised⟩
  cases reply with
  | ok _ => rfl
  | error raised =>
      obtain rfl : VectorStore.refusal "delete points" (.text name) raised = failure :=
        Except.error.inj hraised
      cases hinterrupt : raised.isInterrupt with
      | true =>
          have hquiet : VectorStore.deletionEvents name ids.size (.error raised) = [] := by
            simp only [VectorStore.deletionEvents, hinterrupt, if_true]
          dsimp only
          rw [hquiet]
          rfl
      | false =>
          rw [VectorStore.refusal, hinterrupt, if_neg Bool.false_ne_true] at hlasting
          cases hlasting

theorem endsOn_prune (t : Tally) (orphans : PointSet) :
    (prune plan name t orphans).EndsOn (Call.failure? name) Halted := by
  rw [prune]
  split
  · trivial
  · exact EndsOn.andThen (endsOn_call plan name (endsOn_delete name orphans)) fun _ => trivial

theorem endsOn_work (t : Tally) (ids : List PointId) :
    (work plan name t ids).EndsOn (Call.failure? name) Halted := by
  rw [work]
  split
  · trivial
  · refine EndsOn.andThen (endsOn_call plan name (endsOn_lookup name _)) fun known => ?_
    dsimp only
    split
    · trivial
    · exact endsOn_prune plan name _ _

theorem endsOn_pages (bound : Nat) : ∀ (t : Tally) (cursor : Option PointId),
    (pages plan name bound t cursor).EndsOn (Call.failure? name) Halted := by
  induction bound with
  | zero => intro t cursor; trivial
  | succ bound ih =>
      intro t cursor stop
      cases stop with
      | true =>
          refine ⟨trivial, ?_⟩
          rintro _ ⟨⟩ -
          exact ⟨_, rfl, t, rfl⟩
      | false =>
          refine ⟨?_, nofun⟩
          refine EndsOn.andThen (endsOn_call plan name (endsOn_fetch plan name cursor)) fun page => ?_
          refine EndsOn.andThen (endsOn_work plan name _ page.ids) fun t => ?_
          split
          · trivial
          · split
            · trivial
            · exact ih _ _

/-- **A scan ends on every failure that cannot pass.** -/
theorem endsOn_scan (bound : Nat) :
    (scan plan name bound).EndsOn (Call.failure? name) Halted :=
  EndsOn.andThen (endsOn_pages plan name bound _ none) fun _ => trivial

end Scan

end OrphanSweep
