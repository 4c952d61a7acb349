import OrphanSweep.Proofs.Sweep
import OrphanSweep.Proofs.Watch

/-! # What is shown beside the requests

    A dialogue `Reports` if it shows lines and waits only.  Scans do, and so does every call with
    its retries; so where answers show nothing else either, every other event of a log is the
    request of a question (`Reports.run`, `Line.mem_events`).  The answers of a world show lines of
    signal handlers at most, so this holds of the log of every sweep (`Sweeper.mem_log`). -/

namespace OrphanSweep

/-- Whether the event is a line or a wait. -/
def Event.isReport : Event → Bool
  | print _ => true
  | sleep _ => true
  | _       => false

/-- An event of a transcript was shown, or is the request of a question. -/
theorem Line.mem_events {Ask : Type} {Reply : Ask → Type} {request : Ask → Option Event}
    {lines : List (Line Ask Reply)} {event : Event} :
    event ∈ Line.events request lines ↔ .shown event ∈ lines ∨
      ∃ ask reply, .asked ask reply ∈ lines ∧ request ask = some event := by
  rw [Line.events, List.mem_filterMap]
  constructor
  · rintro ⟨line, hline, hevent⟩
    cases line with
    | shown other =>
        cases hevent
        exact Or.inl hline
    | asked ask reply => exact Or.inr ⟨ask, reply, hline, hevent⟩
  · rintro (hshown | ⟨ask, reply, hasked, hevent⟩)
    · exact ⟨_, hshown, rfl⟩
    · exact ⟨_, hasked, hevent⟩

namespace Dialogue

variable {Ask : Type} {Reply : Ask → Type} {σ α β : Type}

/-- A dialogue shows lines and waits only. -/
def Reports : Dialogue Ask Reply α → Prop
  | ended _          => True
  | shows event rest => event.isReport = true ∧ rest.Reports
  | asks _ resume    => ∀ reply, (resume reply).Reports

theorem Reports.bind {d : Dialogue Ask Reply α} {next : α → Dialogue Ask Reply β}
    (h : d.Reports) (hnext : ∀ value, (next value).Reports) : (d.bind next).Reports := by
  induction d with
  | ended value => exact hnext value
  | shows event rest ih => exact ⟨h.1, ih h.2⟩
  | asks ask resume ih => exact fun reply => ih reply (h reply)

theorem reports_showAll {events : List Event} {rest : Dialogue Ask Reply α}
    (hevents : ∀ event ∈ events, event.isReport = true) (h : rest.Reports) :
    (showAll events rest).Reports := by
  induction events with
  | nil => exact h
  | cons event events ih =>
      exact ⟨hevents event List.mem_cons_self, ih fun other hother =>
        hevents other (List.mem_cons_of_mem _ hother)⟩

/-- An error ends the whole; a value is gone on from. -/
theorem Reports.andThen {ε : Type} {d : Dialogue Ask Reply (Except ε α)}
    {next : α → Dialogue Ask Reply (Except ε β)} (h : d.Reports)
    (hnext : ∀ value, (next value).Reports) : (d.andThen next).Reports := by
  refine h.bind fun result => ?_
  cases result with
  | ok value => exact hnext value
  | error error => trivial

theorem mem_heard {ask : Ask} {answered : Outcome σ (Reply ask)} {event : Event} :
    .shown event ∈ heard ask answered ↔ event ∈ answered.log := by
  simp [heard]

section Answered

variable {answer : Answering Ask Reply σ}
variable (hanswer : ∀ ask s, ∀ event ∈ (answer ask s).log, event.isReport = true)

include hanswer

/-- Where answers show lines and waits only, one node shows nothing else. -/
theorem Reports.step {d : Dialogue Ask Reply α} (h : d.Reports) (s : σ) :
    (∀ event, .shown event ∈ (d.step answer s).transcript → event.isReport = true) ∧
      (d.step answer s).result.Reports := by
  cases d with
  | ended value => exact ⟨nofun, h⟩
  | shows first rest =>
      refine ⟨fun event hevent => ?_, h.2⟩
      cases List.mem_singleton.mp hevent
      exact h.1
  | asks ask resume => exact ⟨fun event hevent => hanswer ask s event (mem_heard.mp hevent), h _⟩

/-- Nor does the whole. -/
theorem Reports.run {d : Dialogue Ask Reply α} (h : d.Reports) (s : σ) :
    ∀ event, .shown event ∈ (d.run answer s).transcript → event.isReport = true := by
  induction d generalizing s with
  | ended value => exact nofun
  | shows first rest ih =>
      intro event hevent
      rcases List.mem_cons.mp hevent with heq | hmem
      · cases heq
        exact h.1
      · exact ih h.2 s event hmem
  | asks ask resume ih =>
      intro event hevent
      rcases List.mem_append.mp hevent with hheard | hmem
      · exact hanswer ask s event (mem_heard.mp hheard)
      · exact ih _ (h _) _ event hmem

end Answered

end Dialogue

namespace Retry

open Dialogue

variable {Ask : Type} {Reply : Ask → Type} {α : Type}

theorem reports_attempts {label : String} {attempt : Dialogue Ask Reply (Except Failure α)}
    (h : attempt.Reports) (left : Nat) : ∀ made, (attempts label attempt left made).Reports := by
  induction left with
  | zero => intro made; exact h
  | succ left ih =>
      intro made
      rw [attempts]
      refine h.bind fun result => ?_
      cases result with
      | ok value => trivial
      | error failure =>
          dsimp only
          split
          · cases pause_cases label (made + 1) (made + left + 2) failure
                (attempts label attempt left (made + 1)) with
            | inl h =>
                rw [h]
                exact trivial
            | inr h =>
                rw [h]
                exact ⟨rfl, rfl, ih (made + 1)⟩
          · trivial

theorem reports_retry {bound : Int} {label : String}
    {attempt : Dialogue Ask Reply (Except Failure α)} (h : attempt.Reports) :
    (retry bound label attempt).Reports := by
  rw [retry]
  split
  · trivial
  · exact reports_attempts h _ 0

end Retry

namespace Scan

open Dialogue

variable (plan : Plan) (name : String)

theorem reports_call {α : Type} {what : String} {reached : Tally}
    {attempt : Talk (Except Failure α)} (h : attempt.Reports) :
    (call plan name what reached attempt).Reports :=
  (Retry.reports_retry h).bind fun _ => trivial

theorem reports_delete (ids : PointSet) : (delete name ids).Reports := by
  intro reply
  refine reports_showAll ?_ trivial
  intro event hevent
  cases reply with
  | ok value => cases hevent
  | error failure =>
      rw [VectorStore.deletionEvents] at hevent
      split at hevent
      · cases hevent
      · rw [List.mem_singleton.mp hevent]
        rfl

theorem reports_work (t : Tally) (ids : List PointId) : (work plan name t ids).Reports := by
  rw [work]
  split
  · trivial
  · have hlookup : (lookup (PointSet.ofList ids)).Reports := fun _ => trivial
    refine (reports_call plan name hlookup).andThen fun known => ?_
    dsimp only
    split
    · trivial
    · refine ⟨rfl, ?_⟩
      rw [prune]
      split
      · trivial
      · exact (reports_call plan name (reports_delete name _)).andThen fun _ => trivial

theorem reports_pages (bound : Nat) :
    ∀ (t : Tally) (cursor : Option PointId), (pages plan name bound t cursor).Reports := by
  induction bound with
  | zero => intro t cursor; trivial
  | succ bound ih =>
      intro t cursor stop
      dsimp only
      split
      · trivial
      · have hfetch : (fetch plan name cursor).Reports := fun _ => trivial
        refine (reports_call plan name hfetch).andThen fun page => ?_
        refine (reports_work plan name _ page.ids).andThen fun t => ?_
        split
        · trivial
        · split
          · trivial
          · exact ih _ _

/-- Beside its requests a scan shows lines and waits only. -/
theorem reports_scan (bound : Nat) : (scan plan name bound).Reports :=
  ⟨rfl, (reports_pages plan name bound _ none).andThen fun _ => ⟨rfl, trivial⟩⟩

end Scan

/-! ## What a world shows -/

/-- While signals arrive their handlers show lines. -/
theorem Strike.isReport_nudgeAll (p : Signals) (ns : List Nudge) :
    ∀ event ∈ (nudgeAll p ns).1, event.isReport = true := by
  induction ns generalizing p with
  | nil => exact List.forall_mem_nil _
  | cons n ns ih =>
      intro event hevent
      rcases List.mem_append.mp hevent with hfirst | hrest
      · cases n with
        | cancel stop => cases hfirst
        | signal s =>
            rw [nudge, Signals.firedEvents] at hfirst
            split at hfirst
            · cases hfirst
            · rw [List.mem_singleton.mp hfirst]
              rfl
      · exact ih _ event hrest

namespace World

theorem isReport_answer (stop : Nat) (name : String) (call : Call) (w : World) :
    ∀ event ∈ (answer stop name call w).log, event.isReport = true := by
  cases call with
  | stopping => exact List.forall_mem_nil _
  | scroll cursor limit => exact Strike.isReport_nudgeAll _ _
  | lookup ids => exact Strike.isReport_nudgeAll _ _
  | delete ids => exact Strike.isReport_nudgeAll _ _

theorem isReport_hosts (ask : Unit) (w : World) :
    ∀ event ∈ (hosts ask w).log, event.isReport = true :=
  Strike.isReport_nudgeAll _ _

end World

/-! ## The log of a sweep -/

/-- The events of scans are shown however they are put together. -/
theorem ScanRecord.mem_grouped {records : List ScanRecord} {event : Event} :
    event ∈ grouped records ↔ ∃ r ∈ records, event ∈ r.events := by
  constructor
  · intro h
    obtain ⟨name, -, hgroup⟩ := List.mem_flatMap.mp h
    obtain ⟨r, hr, hevent⟩ := List.mem_flatMap.mp hgroup
    exact ⟨r, (List.mem_filter.mp hr).1, hevent⟩
  · rintro ⟨r, hr, hevent⟩
    have hname : r.name ∈ (records.map ScanRecord.name).eraseDups :=
      List.mem_eraseDups.mpr (List.mem_map_of_mem hr)
    have hgroup : r ∈ records.filter fun other => other.name = r.name :=
      List.mem_filter.mpr ⟨hr, decide_eq_true rfl⟩
    exact List.mem_flatMap.mpr ⟨r.name, hname, List.mem_flatMap.mpr ⟨r, hgroup, hevent⟩⟩

/-- **An event of a log is one of the opening or of a scan**, and every event of either is in it. -/
theorem Swept.mem_log {swept : Swept} {event : Event} :
    event ∈ swept.log ↔ event ∈ swept.opening ∨ ∃ r ∈ swept.records, event ∈ r.events := by
  rw [log, List.mem_append, scanEvents]
  split
  · rw [ScanRecord.mem_grouped]
  · rw [List.mem_flatMap]

namespace Sweeper

variable (s : Sweeper)

/-- Scans show lines and waits only, one after the other or at the same time. -/
theorem isReport_scanAll (turns : List Nat) (names : List String) (w : World) :
    ∀ r ∈ (s.scanAll turns names w).records, ∀ event, .shown event ∈ r.transcript →
      event.isReport = true := by
  rw [scanAll]
  split
  · intro r hr
    obtain ⟨scanner, hmem, rfl⟩ := List.mem_map.mp hr
    let reports : Scanner → Prop := fun scanner => scanner.talk.Reports ∧
      ∀ event, .shown event ∈ scanner.record.transcript → event.isReport = true
    have hstart : ∀ scanner ∈ (Pool.start s.plan names w).scanners, reports scanner := by
      intro scanner hmem
      obtain ⟨name, -, rfl⟩ := List.mem_map.mp hmem
      exact ⟨Scan.reports_scan s.plan name _, fun _ hevent => absurd hevent List.not_mem_nil⟩
    have hmove : ∀ scanner v, reports scanner → reports (scanner.moved s.stop v) := by
      rintro scanner v ⟨htalk, hshown⟩
      obtain ⟨hmade, hrest⟩ := htalk.step (World.isReport_answer s.stop scanner.record.name) v
      refine ⟨hrest, fun event hevent => ?_⟩
      rcases List.mem_append.mp hevent with hbefore | hnow
      · exact hshown event hbefore
      · exact hmade event hnow
    exact (Pool.forall_leads hmove hstart (s.leads_pooled turns names w) scanner hmem).2
  · exact forall_scanEach names w fun name v => (Scan.reports_scan s.plan name _).run
      (World.isReport_answer s.stop name) v

/-- A listing shows lines and waits beside its requests. -/
theorem isReport_listing (w : World) :
    ∀ event, .shown event ∈ (s.listing w).transcript → event.isReport = true := by
  have hattempt : (.asks () fun reply => .ended (VectorStore.listed reply) :
      Dialogue Unit (fun _ => Except Failure (List String))
        (Except Failure (List String))).Reports := fun _ => trivial
  exact (Retry.reports_retry hattempt).run World.isReport_hosts w

theorem isReport_announcement {allowed hosted : List String} {event : Event}
    (h : event ∈ s.announcement allowed hosted) : event.isReport = true := by
  rcases List.mem_append.mp h with hmissing | hline
  · obtain ⟨name, -, rfl⟩ := List.mem_map.mp hmissing
    rfl
  · rw [List.mem_singleton.mp hline]
    rfl

/-- **A sweep shows lines and waits, its listings, and the requests of its scans**, and nothing
    else. -/
theorem mem_log (turns : List Nat) (allowed : List String) (w : World) {event : Event}
    (h : event ∈ (s.run turns allowed w).log) :
    event.isReport = true ∨ event = .list ∨
      ∃ r ∈ (s.run turns allowed w).records, ∃ call reply, .asked call reply ∈ r.transcript ∧
        call.request r.name = some event := by
  have hlisting : event ∈ Line.events (fun _ => some .list)
      (s.listing { w with aborted := false }).transcript →
        event.isReport = true ∨ event = .list := by
    intro hevent
    rcases Line.mem_events.mp hevent with hshown | ⟨-, reply, -, hrequest⟩
    · exact Or.inl (s.isReport_listing _ event hshown)
    · exact Or.inr (Option.some.inj hrequest).symm
  cases hlisted : (s.listing { w with aborted := false }).result with
  | error failure =>
      rw [s.run_eq_of_unlisted turns allowed hlisted] at h ⊢
      rcases Swept.mem_log.mp h with hopening | ⟨r, hr, -⟩
      · rcases hlisting hopening with hreport | hlist
        · exact Or.inl hreport
        · exact Or.inr (Or.inl hlist)
      · cases hr
  | ok hosted =>
      have hscanned := s.run_of_listed turns allowed hlisted
      rcases Swept.mem_log.mp h with hopening | ⟨r, hr, hevent⟩
      · rw [run, hlisted] at hopening
        rcases List.mem_append.mp hopening with hfirst | hannounced
        · rcases hlisting hfirst with hreport | hlist
          · exact Or.inl hreport
          · exact Or.inr (Or.inl hlist)
        · exact Or.inl (s.isReport_announcement hannounced)
      · rcases Line.mem_events.mp hevent with hshown | ⟨call, reply, hasked, hrequest⟩
        · rw [hscanned.records] at hr
          exact Or.inl (s.isReport_scanAll turns _ _ r hr event hshown)
        · exact Or.inr (Or.inr ⟨r, hr, call, reply, hasked, hrequest⟩)

end Sweeper

end OrphanSweep
