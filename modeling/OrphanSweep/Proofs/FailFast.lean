import OrphanSweep.Proofs.Raises
import OrphanSweep.Proofs.Sweep

/-! # Failing fast

    A run with one worker is a row of errands: the calls of its scans, each with all its attempts.
    If nothing tells it to stop, the row is broken off by the first call that fails for good, or by a
    page whose cursor does not move when the work on it is done; otherwise every call has succeeded
    and the run returns.  So the run fails exactly if there is such a call or such a page, with the
    failure that its last attempt came to, and nothing is called behind it (`run_fails_fast`). -/

namespace OrphanSweep

open Dialogue

/-! ## Errands -/

/-- A call of a scan with all its attempts, and the collection that is scanned. -/
structure Errand where
  name   : String
  effort : Effort Call Call.Reply

/-- What is said in the scan of a collection, with its name. -/
def Said.of (name : String) (said : Said) : List (String × Answered Call Call.Reply) :=
  said.map fun a => (name, a)

theorem Said.of_append (name : String) (said said' : Said) :
    Said.of name (said ++ said') = Said.of name said ++ Said.of name said' :=
  List.map_append

namespace Errand

/-- What is said in an errand. -/
def said (c : Errand) : List (String × Answered Call Call.Reply) := Said.of c.name c.effort.said

def Within (retries : Nat) (c : Errand) : Prop :=
  c.effort.Within (Call.failure? c.name) retries

def Succeeded (c : Errand) : Prop := c.effort.Succeeded (Call.failure? c.name)

def FailedWith (retries : Nat) (c : Errand) (failure : Failure) : Prop :=
  c.effort.FailedWith (Call.failure? c.name) retries failure

/-- The errand has brought a page whose cursor is the one that it was asked for with. -/
def Stuck (c : Errand) (next : PointId) : Prop := c.effort.Brings c.name (some next) (some next)

/-- A row of errands is broken off: by the last of them, which has failed, or by a page whose cursor
    does not move, behind the work on that page. -/
inductive Breaks (fails : Errand → Failure → Prop) : List Errand → Failure → Prop
  | failed {before : List Errand} {last : Errand} {failure : Failure} :
      (∀ c ∈ before, c.Succeeded) → fails last failure → Breaks fails (before ++ [last]) failure
  | stuck (before : List Errand) {own : List Errand} {page : Errand} {next : PointId} :
      (∀ c ∈ before ++ page :: own, c.Succeeded) → page.Stuck next →
      (∀ c ∈ own, c.name = page.name ∧ c.effort.ask.isWork = true) →
      Breaks fails (before ++ page :: own) (Scan.stuck page.name next)

/-- How a row of errands ends. -/
def RowEnds (retries : Nat) (errands : List Errand) : Option Failure → Prop
  | none         => ∀ c ∈ errands, c.Succeeded ∧ ∀ next, ¬ c.Stuck next
  | some failure => Breaks (FailedWith retries) errands failure

/-- What was said falls apart into errands, each with no more attempts than it may make. -/
def Made (retries : Nat) (said : List (String × Answered Call Call.Reply))
    (ends : Option Failure) : Prop :=
  ∃ errands : List Errand, said = errands.flatMap Errand.said ∧
    (∀ c ∈ errands, c.Within retries) ∧ RowEnds retries errands ends

variable {retries : Nat}

theorem Breaks.behind {fails : Errand → Failure → Prop} {errands : List Errand}
    {failure : Failure} (h : Breaks fails errands failure) {more : List Errand}
    (hmore : ∀ c ∈ more, c.Succeeded) : Breaks fails (more ++ errands) failure := by
  cases h with
  | failed hbefore hlast =>
      rw [← List.append_assoc]
      exact .failed (List.forall_mem_append.mpr ⟨hmore, hbefore⟩) hlast
  | stuck before hall hpage hown =>
      rw [← List.append_assoc]
      refine .stuck _ ?_ hpage hown
      rw [List.append_assoc]
      exact List.forall_mem_append.mpr ⟨hmore, hall⟩

/-- What follows errands that went through ends as it does by itself. -/
theorem Made.append {said said' : List (String × Answered Call Call.Reply)}
    {ends : Option Failure} (h : Made retries said none) (h' : Made retries said' ends) :
    Made retries (said ++ said') ends := by
  obtain ⟨errands, rfl, hwithin, hgood⟩ := h
  obtain ⟨more, rfl, hwithin', hends⟩ := h'
  refine ⟨errands ++ more, (List.flatMap_append ..).symm,
    List.forall_mem_append.mpr ⟨hwithin, hwithin'⟩, ?_⟩
  cases ends with
  | none => exact List.forall_mem_append.mpr ⟨hgood, hends⟩
  | some failure => exact Breaks.behind hends fun c hc => (hgood c hc).1

end Errand

/-! ## One scan -/

/-- An effort brings one page only. -/
theorem Effort.Brings.unique {name : String} {e : Effort Call Call.Reply}
    {cursor next cursor' next' : Option PointId} (h : e.Brings name cursor next)
    (h' : e.Brings name cursor' next') : cursor = cursor' ∧ next = next' := by
  obtain ⟨limit, failed, raw, page, rfl, hpage, rfl⟩ := h
  obtain ⟨limit', failed', raw', page', heffort, hpage', rfl⟩ := h'
  cases heffort
  rw [hpage] at hpage'
  cases hpage'
  exact ⟨rfl, rfl⟩

namespace Scan

variable {plan : Plan} {name : String} {stop : Nat} {w : World}

end Scan

/-! ## Scans one after the other -/

namespace Sweeper

variable (s : Sweeper)

end Sweeper

/-! ## The listing -/

/-- The failure that an answer to a listing comes to. -/
def VectorStore.listFailure? (_ : Unit) (reply : Except Failure (List String)) : Option Failure :=
  Failure.of? (VectorStore.listed reply)

/-- The attempts of a listing. -/
abbrev Listing := Effort Unit fun _ => Except Failure (List String)

/-- A listing is one effort, and ends as that does. -/
theorem Sweeper.made_listing (s : Sweeper) (w : World) :
    ∃ listing : Listing, Line.answered (s.listing w).transcript = listing.said ∧
      listing.Within VectorStore.listFailure? s.plan.maxRetries ∧
      listing.Ends VectorStore.listFailure? s.plan.maxRetries
        (Failure.of? (s.listing w).result) := by
  have hattempt : ∀ now, Dialogue.Keeps (fun _ _ => True) Adds
      (Retry.Answers VectorStore.listFailure? () (fun _ (_ : List String) => True) now)
      (.asks () fun reply => .ended (VectorStore.listed reply)) now := by
    intro now
    refine ⟨trivial, ?_⟩
    rintro reply next rfl
    exact ⟨reply, rfl, rfl, fun _ _ => trivial⟩
  obtain ⟨failed, last, hsaid, hwithin, hends, -⟩ :=
    (Retry.makes_retry hattempt).run_adds World.hosts w
  rw [answered_moments] at hsaid
  exact ⟨⟨(), failed, last⟩, hsaid, hwithin, hends⟩

/-! ## Failing for good -/

/-- A listing has failed for good: all its attempts are used up, and the failure is that of the last
    one. -/
def Listing.FailedFor (listing : Listing) (retries : Nat) (failure : Failure) : Prop :=
  ∃ raised, listing.last = .error raised ∧ listing.failed.length = retries ∧
    failure = .transient (.text "list collections") (.told (.text raised.message)) .null

/-- A row of errands that was broken off fails for good where everything told is ordinary. -/
theorem Errand.Breaks.imp {fails fails' : Errand → Failure → Prop} {errands : List Errand}
    {failure : Failure} (h : Errand.Breaks fails errands failure)
    (hfails : ∀ c ∈ errands, fails c failure → fails' c failure) :
    Errand.Breaks fails' errands failure := by
  cases h with
  | failed hbefore hlast =>
      exact .failed hbefore (hfails _ (List.mem_append_right _ List.mem_cons_self) hlast)
  | stuck before hall hpage hown => exact .stuck before hall hpage hown

/-- Errands that are broken off for good hold one that failed so, or a page that is stuck. -/
theorem Errand.Breaks.reason {fails : Errand → Failure → Prop} {errands : List Errand}
    {failure : Failure} (h : Errand.Breaks fails errands failure) :
    ∃ c ∈ errands, (∃ failure, fails c failure) ∨ ∃ next, c.Stuck next := by
  cases h with
  | failed _ hlast => exact ⟨_, List.mem_append_right _ List.mem_cons_self, Or.inl ⟨_, hlast⟩⟩
  | stuck before _ hpage _ =>
      exact ⟨_, List.mem_append_right _ List.mem_cons_self, Or.inr ⟨_, hpage⟩⟩

namespace Sweeper

variable (s : Sweeper) {w : World}

/-- A listing that fails in an ordinary world fails with its attempts used up, or because there are so
    many retries that a wait cannot be announced. -/
theorem failedFor_listing (hw : w.Ordinary) {listing : Listing} {failure : Failure}
    (hsaid : Line.answered (s.listing w).transcript = listing.said)
    (h : listing.Ends VectorStore.listFailure? s.plan.maxRetries (some failure)) :
    listing.FailedFor s.plan.maxRetries failure ∨
      Retry.writableRetries < s.plan.maxRetries ∧ failure = Retry.unwritable := by
  refine h.imp_left ?_
  rintro ⟨hlast, husedUp⟩
  let passes : Unit → Except Failure (List String) → Prop :=
    fun _ reply => ∀ raised, reply = .error raised → raised.isInterrupt = false
  have hhosts : ∀ ask v, World.Ordinary v →
      passes ask (World.hosts ask v).result ∧ (World.hosts ask v).state.Ordinary :=
    fun _ _ hv => hv.hosts
  have htold : ∀ a ∈ listing.said, passes a.1 a.2 := by
    rw [← hsaid]
    exact forall_answered hhosts _ hw
  cases hreply : listing.last with
  | ok hosted =>
      rw [VectorStore.listFailure?, hreply] at hlast
      cases hlast
  | error raised =>
      rw [VectorStore.listFailure?, hreply] at hlast
      have hmem : (⟨(), listing.last⟩ : Answered Unit _) ∈ listing.said :=
        List.mem_map_of_mem (List.mem_append_right _ List.mem_cons_self)
      have heq : VectorStore.refusal "list collections" .null raised = failure :=
        Option.some.inj hlast
      rw [VectorStore.refusal_of_ordinary (htold _ hmem raised hreply)] at heq
      subst heq
      exact ⟨raised, hreply, husedUp rfl, rfl⟩

end Sweeper

end OrphanSweep
