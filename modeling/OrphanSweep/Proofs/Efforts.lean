import OrphanSweep.Proofs.Attempts
import OrphanSweep.Proofs.Cancellation

/-! # Calls with all their attempts

    What is said in a scan falls apart into efforts: the attempts of one call, of which all but the
    last have failed for the moment.  A call makes one effort (`makes_retry`), and ends as the last
    attempt of it does.  So a visit makes one effort to get its page, and then at most one to look
    it up and one to delete; and if it fails, it fails with the last of them (`makes_visit`).

    Efforts are found in what is said whatever the answers are, so nothing is assumed of a world. -/

namespace OrphanSweep

open Dialogue

/-! ## Efforts -/

/-- The attempts of one call: the answers to those after which it was made again, and the answer to
    the last one. -/
structure Effort (Ask : Type) (Reply : Ask → Type) where
  ask    : Ask
  failed : List (Reply ask)
  last   : Reply ask

namespace Effort

variable {Ask : Type} {Reply : Ask → Type}

/-- What is said in an effort. -/
def said (e : Effort Ask Reply) : List (Answered Ask Reply) :=
  (e.failed ++ [e.last]).map fun reply => ⟨e.ask, reply⟩

variable (failure? : (ask : Ask) → Reply ask → Option Failure) (bound : Nat)

/-- There is at most one attempt more than the bound, and each but the last has ended with a failure
    that may pass. -/
structure Within (e : Effort Ask Reply) : Prop where
  few     : e.failed.length ≤ bound
  passing : ∀ reply ∈ e.failed, ∃ failure,
    failure? e.ask reply = some failure ∧ Retry.isTransient failure = true

/-- The last attempt has not failed. -/
def Succeeded (e : Effort Ask Reply) : Prop := failure? e.ask e.last = none

/-- The last attempt has failed, for good or with no further attempt left. -/
structure FailedWith (e : Effort Ask Reply) (failure : Failure) : Prop where
  last   : failure? e.ask e.last = some failure
  usedUp : Retry.isTransient failure = true → e.failed.length = bound

/-- How an effort ends: as its last attempt, unless there are so many retries that a wait cannot be
    announced. -/
def Ends (e : Effort Ask Reply) : Option Failure → Prop
  | none         => e.Succeeded failure?
  | some failure => e.FailedWith failure? bound failure ∨
      Retry.writableRetries < bound ∧ failure = Retry.unwritable

/-- How a row of efforts ends: each has succeeded, up to one that ends it. -/
def RowEnds (efforts : List (Effort Ask Reply)) : Option Failure → Prop
  | none         => ∀ e ∈ efforts, e.Succeeded failure?
  | some failure => ∃ before last, efforts = before ++ [last] ∧
      (∀ e ∈ before, e.Succeeded failure?) ∧ last.Ends failure? bound (some failure)

variable {failure? bound} {efforts more : List (Effort Ask Reply)}

theorem rowEnds_singleton {e : Effort Ask Reply} {ends : Option Failure}
    (h : e.Ends failure? bound ends) : RowEnds failure? bound [e] ends := by
  cases ends with
  | none => exact List.forall_mem_singleton.mpr h
  | some failure => exact ⟨[], e, rfl, List.forall_mem_nil _, h⟩

/-- Behind efforts that have all succeeded a row ends as it does by itself. -/
theorem RowEnds.append {ends : Option Failure} (h : RowEnds failure? bound efforts none)
    (h' : RowEnds failure? bound more ends) : RowEnds failure? bound (efforts ++ more) ends := by
  cases ends with
  | none => exact List.forall_mem_append.mpr ⟨h, h'⟩
  | some failure =>
      obtain ⟨before, last, rfl, hbefore, hlast⟩ := h'
      exact ⟨efforts ++ before, last, (List.append_assoc _ _ _).symm,
        List.forall_mem_append.mpr ⟨h, hbefore⟩, hlast⟩

end Effort

/-! ## One call -/

namespace Retry

variable {Ask : Type} {Reply : Ask → Type} {α : Type}
variable (failure? : (ask : Ask) → Reply ask → Option Failure)

/-- What is known after one question: its answer, and that the result is the failure of that answer
    or a value that is `good` for it. -/
def Answers (ask : Ask) (good : Reply ask → α → Prop) (said : List (Answered Ask Reply))
    (result : Except Failure α) (now : List (Answered Ask Reply)) : Prop :=
  ∃ reply, now = said ++ [⟨ask, reply⟩] ∧ Failure.of? result = failure? ask reply ∧
    ∀ value, result = .ok value → good reply value

/-- What is known after an effort. -/
def Makes (bound : Nat) (ask : Ask) (good : Reply ask → α → Prop)
    (said : List (Answered Ask Reply)) (result : Except Failure α)
    (now : List (Answered Ask Reply)) : Prop :=
  ∃ failed last, let e : Effort Ask Reply := ⟨ask, failed, last⟩
    now = said ++ e.said ∧ e.Within failure? bound ∧
      e.Ends failure? bound (Failure.of? result) ∧ ∀ value, result = .ok value → good last value

variable {failure?} {ask : Ask} {good : Reply ask → α → Prop}
variable {attempt : Dialogue Ask Reply (Except Failure α)}

/-- The attempts that are left belong to the effort that the failed ones have begun. -/
theorem makes_attempts (label : String) {bound : Nat} (said : List (Answered Ask Reply))
    (hattempt : ∀ now, attempt.Keeps (fun _ _ => True) Adds (Answers failure? ask good now) now)
    (left : Nat) :
    ∀ failed : List (Reply ask), failed.length + left = bound →
      (∀ reply ∈ failed, ∃ failure, failure? ask reply = some failure ∧
        isTransient failure = true) →
      (attempts label attempt left failed.length).Keeps (fun _ _ => True) Adds
        (Makes failure? bound ask good said)
        (said ++ failed.map fun reply => ⟨ask, reply⟩) := by
  have hsaid : ∀ (failed : List (Reply ask)) (reply : Reply ask),
      said ++ (failed.map fun reply => ⟨ask, reply⟩) ++ [⟨ask, reply⟩] =
        said ++ (⟨ask, failed, reply⟩ : Effort Ask Reply).said := by
    intro failed reply
    rw [Effort.said, List.map_append, List.append_assoc]
    rfl
  induction left with
  | zero =>
      -- this is the last attempt, so if it fails for the moment all are used up
      intro failed hlength hpassing
      refine (hattempt _).mono ?_
      rintro result now ⟨reply, rfl, hresult, hgood⟩
      refine ⟨failed, reply, hsaid failed reply, ⟨Nat.le_of_eq hlength, hpassing⟩, ?_, hgood⟩
      rw [hresult]
      cases hfailure : failure? ask reply with
      | none => exact hfailure
      | some failure => exact Or.inl ⟨hfailure, fun _ => hlength⟩
  | succ left ih =>
      intro failed hlength hpassing
      have hfew : failed.length ≤ bound := Nat.le.intro hlength
      rw [attempts]
      refine keeps_bind.mpr ((hattempt _).mono ?_)
      rintro result now ⟨reply, rfl, hresult, hgood⟩
      cases result with
      | ok value =>
          exact ⟨failed, reply, hsaid failed reply, ⟨hfew, hpassing⟩, hresult.symm, hgood⟩
      | error failure =>
          have hfailure : failure? ask reply = some failure := hresult.symm
          dsimp only
          split
          · rename_i htransient
            have hpassed : ∀ reply' ∈ failed ++ [reply], ∃ failure,
                failure? ask reply' = some failure ∧ isTransient failure = true :=
              List.forall_mem_append.mpr
                ⟨hpassing, List.forall_mem_singleton.mpr ⟨failure, hfailure, htransient⟩⟩
            cases pause_cases label (failed.length + 1) (failed.length + left + 2) failure
                (attempts label attempt left (failed.length + 1)) with
            | inl hpause =>
                -- only where there are too many retries the wait cannot be announced
                have hmany : writableRetries < bound := by
                  by_contra hbound
                  rw [pause_of_announceable (announceable_of_few (by omega))] at hpause
                  cases hpause
                rw [hpause]
                exact ⟨failed, reply, hsaid failed reply, ⟨hfew, hpassing⟩, Or.inr ⟨hmany, rfl⟩,
                  fun _ hok => by cases hok⟩
            | inr hpause =>
                rw [hpause, keeps_shows, keeps_shows]
                have hnext := ih (failed ++ [reply])
                  (by rw [List.length_append, List.length_singleton]; omega) hpassed
                rw [List.length_append, List.length_singleton, List.map_append,
                  ← List.append_assoc] at hnext
                exact hnext
          · rename_i hlasting
            exact ⟨failed, reply, hsaid failed reply, ⟨hfew, hpassing⟩,
              Or.inl ⟨hfailure, fun htransient => absurd htransient hlasting⟩,
              fun _ hok => by cases hok⟩

/-- **A call with its retries makes one effort**, and ends as it does. -/
theorem makes_retry {label : String} {bound : Nat} {said : List (Answered Ask Reply)}
    (hattempt : ∀ now, attempt.Keeps (fun _ _ => True) Adds (Answers failure? ask good now) now) :
    (retry bound label attempt).Keeps (fun _ _ => True) Adds (Makes failure? bound ask good said)
      said := by
  rw [retry, if_neg (by omega), Int.toNat_natCast]
  have hall := makes_attempts label said hattempt bound [] (Nat.zero_add bound)
    (List.forall_mem_nil _)
  rw [List.map_nil, List.append_nil] at hall
  exact hall

end Retry

/-! ## The efforts of a visit -/

namespace Call

/-- The failure that an answer to a question of a scan comes to. -/
def failure? (name : String) : (call : Call) → call.Reply → Option Failure
  | .stopping, stop     => if stop then some (.cancelled (.text name)) else none
  | .scroll _ _, reply  => Failure.of? (VectorStore.scrolled name reply)
  | .lookup _, reply    => Failure.of? reply
  | .delete ids, reply  => Failure.of? (VectorStore.deleted name ids.size reply)

/-- Whether a call works on the ids of a page. -/
def isWork : Call → Bool
  | .stopping | .scroll _ _ => false
  | .lookup _ | .delete _   => true

end Call

/-- An effort that has brought a page: the cursor that it was asked for with, and where the next one
    begins. -/
def Effort.Brings (name : String) (e : Effort Call Call.Reply) (cursor next : Option PointId) :
    Prop :=
  ∃ limit failed raw page, e = ⟨.scroll cursor limit, failed, .ok raw⟩ ∧
    Page.ofRaw name raw = .ok page ∧ page.next = next

namespace Scan

variable (plan : Plan) (name : String) {α β : Type} {said : List (Answered Call Call.Reply)}

/-- What is known after a part of a scan: what it said falls apart into efforts that end as it does,
    and that have some shape. -/
def Spends (shape : Except Halt α → List (Effort Call Call.Reply) → Prop)
    (said : List (Answered Call Call.Reply)) (result : Except Halt α)
    (now : List (Answered Call Call.Reply)) : Prop :=
  ∃ efforts, now = said ++ efforts.flatMap Effort.said ∧
    (∀ e ∈ efforts, e.Within (Call.failure? name) plan.maxRetries) ∧
    Effort.RowEnds (Call.failure? name) plan.maxRetries efforts (Halt.of? result) ∧
    shape result efforts

/-- A part of a scan that spends efforts of some shape, whatever it is answered. -/
abbrev Spending (shape : Except Halt α → List (Effort Call Call.Reply) → Prop)
    (talk : Talk (Except Halt α)) (said : List (Answered Call Call.Reply)) : Prop :=
  talk.Keeps (fun _ _ => True) Adds (Spends plan name shape said) said

variable {plan name}

theorem spending_ended {shape : Except Halt α → List (Effort Call Call.Reply) → Prop} {value : α}
    (h : shape (.ok value) []) : Spending plan name shape (.ended (.ok value)) said :=
  ⟨[], (List.append_nil said).symm, List.forall_mem_nil _, List.forall_mem_nil _, h⟩

/-- The efforts of two parts in a row. -/
theorem spending_andThen {shape : Except Halt α → List (Effort Call Call.Reply) → Prop}
    {final : Except Halt β → List (Effort Call Call.Reply) → Prop}
    {first : Talk (Except Halt α)} {next : α → Talk (Except Halt β)}
    (h : Spending plan name shape first said)
    (hnext : ∀ value efforts now, shape (.ok value) efforts →
      Spending plan name (fun result more => final result (efforts ++ more)) (next value) now)
    (herror : ∀ halt efforts, shape (.error halt) efforts → final (.error halt) efforts) :
    Spending plan name final (first.andThen next) said := by
  refine h.andThen ?_ ?_
  · rintro value now ⟨efforts, rfl, hwithin, hends, hshape⟩
    refine (hnext value efforts _ hshape).mono ?_
    rintro result now ⟨more, rfl, hwithin', hends', hfinal⟩
    refine ⟨efforts ++ more, ?_, List.forall_mem_append.mpr ⟨hwithin, hwithin'⟩,
      hends.append hends', hfinal⟩
    rw [List.flatMap_append, List.append_assoc]
  · rintro halt now ⟨efforts, hnow, hwithin, hends, hshape⟩
    exact ⟨efforts, hnow, hwithin, hends, herror halt efforts hshape⟩

/-- A call is one effort. -/
theorem spending_call {what : String} {reached : Tally} {attempt : Talk (Except Failure α)}
    {ask : Call} {good : ask.Reply → α → Prop}
    (hattempt : ∀ now, attempt.Keeps (fun _ _ => True) Adds
      (Retry.Answers (Call.failure? name) ask good now) now) :
    Spending plan name
      (fun result efforts => ∃ failed last, efforts = [⟨ask, failed, last⟩] ∧
        ∀ value, result = .ok value → good last value)
      (call plan name what reached attempt) said := by
  refine keeps_bind.mpr ((Retry.makes_retry hattempt).mono ?_)
  rintro result now ⟨failed, last, rfl, hwithin, hends, hgood⟩
  refine ⟨[⟨ask, failed, last⟩], ?_, List.forall_mem_singleton.mpr hwithin, ?_, failed, last, rfl, ?_⟩
  · rw [List.flatMap_singleton]
  · refine Effort.rowEnds_singleton ?_
    cases result with
    | ok value => exact hends
    | error failure => exact hends
  · cases result with
    | ok value => rintro other ⟨⟩; exact hgood value rfl
    | error failure => exact nofun

theorem answers_fetch (cursor : Option PointId) :
    (fetch plan name cursor).Keeps (fun _ _ => True) Adds
      (Retry.Answers (Call.failure? name) (.scroll cursor plan.pageSize)
        (fun reply page => ∃ raw, reply = .ok raw ∧ Page.ofRaw name raw = .ok page) said) said := by
  refine ⟨trivial, ?_⟩
  rintro reply now rfl
  refine ⟨reply, rfl, rfl, fun page hpage => ?_⟩
  cases reply with
  | error failure => cases hpage
  | ok raw => exact ⟨raw, rfl, hpage⟩

theorem answers_lookup (ids : PointSet) :
    (lookup ids).Keeps (fun _ _ => True) Adds
      (Retry.Answers (Call.failure? name) (.lookup ids) (fun _ _ => True) said) said := by
  refine ⟨trivial, ?_⟩
  rintro reply now rfl
  exact ⟨reply, rfl, rfl, fun _ _ => trivial⟩

theorem answers_delete (ids : PointSet) :
    (delete name ids).Keeps (fun _ _ => True) Adds
      (Retry.Answers (Call.failure? name) (.delete ids) (fun _ _ => True) said) said := by
  refine ⟨trivial, ?_⟩
  rintro reply now rfl
  rw [keeps_showAll, keeps_ended]
  exact ⟨reply, rfl, rfl, fun _ _ => trivial⟩

/-- Efforts that work on the ids of a page. -/
abbrev OnPage (efforts : List (Effort Call Call.Reply)) : Prop := ∀ e ∈ efforts, e.ask.isWork = true

theorem onPage_of_call {ask : Call} {good : ask.Reply → α → Prop} {result : Except Halt α}
    {efforts : List (Effort Call Call.Reply)} (hask : ask.isWork = true)
    (h : ∃ failed last, efforts = [⟨ask, failed, last⟩] ∧
      ∀ value, result = .ok value → good last value) : OnPage efforts := by
  obtain ⟨failed, last, rfl, -⟩ := h
  exact List.forall_mem_singleton.mpr hask

theorem spending_prune (t : Tally) (orphans : PointSet) :
    Spending plan name (fun _ => OnPage) (prune plan name t orphans) said := by
  rw [prune]
  split
  · exact spending_ended (List.forall_mem_nil _)
  · refine spending_andThen (spending_call fun _ => answers_delete orphans) ?_ ?_
    · intro count efforts now hdelete
      refine spending_ended ?_
      rw [List.append_nil]
      exact onPage_of_call rfl hdelete
    · exact fun halt efforts hdelete => onPage_of_call rfl hdelete

theorem spending_work (t : Tally) (ids : List PointId) :
    Spending plan name (fun _ => OnPage) (work plan name t ids) said := by
  rw [work]
  split
  · exact spending_ended (List.forall_mem_nil _)
  · refine spending_andThen (spending_call fun _ => answers_lookup (PointSet.ofList ids)) ?_ ?_
    · intro known efforts now hlookup
      have honPage := onPage_of_call rfl hlookup
      dsimp only
      split
      · refine spending_ended ?_
        rw [List.append_nil]
        exact honPage
      · refine keeps_shows.mpr ((spending_prune _ _).mono ?_)
        rintro result now ⟨more, hnow, hwithin, hends, hmore⟩
        exact ⟨more, hnow, hwithin, hends, List.forall_mem_append.mpr ⟨honPage, hmore⟩⟩
    · exact fun halt efforts hlookup => onPage_of_call rfl hlookup

/-- A visit is spent on its page: first to get it, then on its ids. -/
def OnVisit (name : String) (cursor : Option PointId) (result : Except Halt (Tally × Option PointId))
    (efforts : List (Effort Call Call.Reply)) : Prop :=
  ∃ first own, efforts = first :: own ∧ OnPage own ∧
    ∀ ends, result = .ok ends → first.Brings name cursor ends.2

/-- **The efforts of a visit**: one to get the page, and those that work on its ids. -/
theorem spending_visit (t : Tally) (cursor : Option PointId) :
    Spending plan name (OnVisit name cursor) (visit plan name t cursor) said := by
  refine spending_andThen (spending_call fun _ => answers_fetch cursor) ?_ ?_
  · rintro page efforts now ⟨failed, last, rfl, hgood⟩
    obtain ⟨raw, rfl, hpage⟩ := hgood page rfl
    refine spending_andThen (spending_work _ page.ids) ?_ ?_
    · intro t own now hown
      refine spending_ended ⟨_, own ++ [], rfl, by rw [List.append_nil]; exact hown, ?_⟩
      rintro ends ⟨⟩
      exact ⟨plan.pageSize, failed, raw, page, rfl, hpage, rfl⟩
    · exact fun halt own hown => ⟨_, own, rfl, hown, nofun⟩
  · rintro halt efforts ⟨failed, last, rfl, -⟩
    exact ⟨_, [], rfl, List.forall_mem_nil _, nofun⟩

/-! ## What a scan fails with -/

/-- Why a scan has failed that has said something: its last answer came to the failure, or its cursor
    does not move, or there are too many retries. -/
inductive Explained (plan : Plan) (name : String) (said : List (Answered Call Call.Reply)) :
    Failure → Prop
  | answered {a : Answered Call Call.Reply} {failure : Failure} :
      said.getLast? = some a → Call.failure? name a.1 a.2 = some failure →
      Explained plan name said failure
  | stuck (next : PointId) : Explained plan name said (stuck name next)
  | unwritable : Retry.writableRetries < plan.maxRetries →
      Explained plan name said Retry.unwritable

/-- The failure of a row is that of its last answer, unless there are too many retries. -/
theorem last_of_row {efforts : List (Effort Call Call.Reply)} {failure : Failure}
    (h : Effort.RowEnds (Call.failure? name) plan.maxRetries efforts (some failure)) :
    (∃ a, (said ++ efforts.flatMap Effort.said).getLast? = some a ∧
      Call.failure? name a.1 a.2 = some failure) ∨
    Retry.writableRetries < plan.maxRetries ∧ failure = Retry.unwritable := by
  obtain ⟨before, last, rfl, -, hlast | hmany⟩ := h
  · refine Or.inl ⟨⟨last.ask, last.last⟩, ?_, hlast.last⟩
    rw [List.flatMap_append, List.flatMap_singleton, Effort.said, List.map_append,
      ← List.append_assoc, ← List.append_assoc]
    exact List.getLast?_concat
  · exact Or.inr hmany

/-- What is known at the end of a scan. -/
abbrev Explains (plan : Plan) (name : String) (result : Except Halt α)
    (now : List (Answered Call Call.Reply)) : Prop :=
  ∀ halt, result = .error halt → Explained plan name now halt.failure

end Scan

end OrphanSweep
