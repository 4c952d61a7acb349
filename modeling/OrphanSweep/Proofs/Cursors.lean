import Mathlib.Data.List.Chain
import Mathlib.Data.List.Perm.Subperm
import OrphanSweep.Proofs.Efforts
import OrphanSweep.Proofs.Moments

/-! # The way of the cursors

    A scan goes where its pages send it: it scrolls at no cursor first and then at the next cursor of
    each page (`InCourse`), so the store decides how it goes on.  The only page that it does not
    follow is one that sends it to the cursor that it was scrolled at itself (`Delivery.Stuck`).  So
    no two pages in a row come from one cursor, but a cursor may come back later.

    Scripted pages are used up one by one, so a scan of them ends.  Against a store that goes on for
    ever the comparison of neighbours is enough if the store does not go back: then no cursor comes
    twice, and there are no more pages than cursors. -/

namespace OrphanSweep

/-! ## Deliveries -/

/-- A page that was delivered, with the cursor that it was scrolled at. -/
structure Delivery where
  cursor : Option PointId
  page   : Page PointId

namespace Delivery

/-- Where the scroll began. -/
def offset (d : Delivery) : PointId := d.cursor.getD .nil

/-- The page sends the scan on to a cursor, which is not its own. -/
structure Sends (d : Delivery) (cursor : Option PointId) : Prop where
  next  : d.page.next = cursor
  given : cursor ≠ none
  moved : d.cursor ≠ cursor

/-- The page sends the scan to its own cursor. -/
structure Stuck (d : Delivery) (cursor : PointId) : Prop where
  own  : d.cursor = some cursor
  next : d.page.next = some cursor

theorem Stuck.not_sends {d : Delivery} {p : PointId} (h : d.Stuck p) (cursor : Option PointId) :
    ¬ d.Sends cursor := by
  intro hsends
  apply hsends.moved
  rw [h.own, ← hsends.next, h.next]

end Delivery

namespace Said

/-- What an answer has delivered. -/
def delivery? (name : String) : Answered Call Call.Reply → Option Delivery
  | ⟨.scroll cursor _, .ok raw⟩ => (Page.ofRaw name raw).toOption.map fun page => { cursor, page }
  | _                           => none

/-- The pages that were delivered, in order. -/
def deliveries (name : String) (said : Said) : List Delivery := said.filterMap (delivery? name)

end Said

/-- The deliveries with that of one more answer. -/
def Delivery.enter (name : String) (ds : List Delivery) (a : Answered Call Call.Reply) :
    List Delivery :=
  match Said.delivery? name a with
  | some d => ds ++ [d]
  | none   => ds

theorem Said.deliveries_concat (name : String) (said : Said) (a : Answered Call Call.Reply) :
    deliveries name (said ++ [a]) = Delivery.enter name (deliveries name said) a := by
  rw [deliveries, List.filterMap_append, Delivery.enter]
  cases h : delivery? name a <;> simp [deliveries, h]

/-- The cursor that is due after some deliveries: none at first, then that which the last page sends
    the scan on to. -/
structure Due (ds : List Delivery) (cursor : Option PointId) : Prop where
  first : ds = [] → cursor = none
  after : ∀ d ∈ ds.getLast?, d.Sends cursor

/-- Every page was scrolled at the cursor that was due. -/
structure InCourse (ds : List Delivery) : Prop where
  first  : ∀ d ∈ ds.head?, d.cursor = none
  onward : ds.IsChain fun d e => d.Sends e.cursor

section Course

variable {ds : List Delivery} {d : Delivery}

theorem due_nil : Due [] none := ⟨fun _ => rfl, fun _ h => by cases h⟩

theorem due_concat {cursor : Option PointId} (h : d.Sends cursor) : Due (ds ++ [d]) cursor := by
  constructor
  · intro hnil
    simp at hnil
  · intro e he
    rw [List.getLast?_concat] at he
    cases he
    exact h

theorem inCourse_nil : InCourse [] where
  first _ h := by cases h
  onward    := List.isChain_nil

theorem InCourse.concat (h : InCourse ds) (hdue : Due ds d.cursor) : InCourse (ds ++ [d]) := by
  constructor
  · intro e he
    cases ds with
    | nil =>
        cases he
        exact hdue.first rfl
    | cons first rest => exact h.first e he
  · rw [List.isChain_append]
    refine ⟨h.onward, List.isChain_singleton d, ?_⟩
    intro e he e' he'
    cases he'
    exact hdue.after e he

/-- Behind a page that sends the scan to its own cursor there is no other one. -/
theorem InCourse.last_of_stuck {earlier later : List Delivery} {p : PointId}
    (h : InCourse (earlier ++ d :: later)) (hstuck : d.Stuck p) : later = [] := by
  cases later with
  | nil => rfl
  | cons e later =>
      obtain ⟨-, htail, -⟩ := List.isChain_append.mp h.onward
      exact absurd (List.isChain_cons_cons.mp htail).1 (hstuck.not_sends e.cursor)

/-! ## A store that does not go back -/

/-- The cursors that pages send a scan to are among some, and advance in some order unless a page
    sends the scan to its own. -/
def Advancing (r : PointId → PointId → Prop) (cursors : List PointId) (ds : List Delivery) : Prop :=
  ∀ d ∈ ds, ∀ next, d.page.next = some next →
    next ∈ cursors ∧ ∀ p, d.cursor = some p → next = p ∨ r p next

section Advancing

variable {r : PointId → PointId → Prop} {cursors : List PointId}

/-- The cursors behind a page are as many as the pages behind it, and stand in order behind its
    own. -/
theorem Advancing.behind (htrans : ∀ p q t, r p q → r q t → r p t) {rest : List Delivery} :
    ∀ d : Delivery, (d :: rest).IsChain (fun d e => d.Sends e.cursor) →
      Advancing r cursors (d :: rest) →
      let places := rest.filterMap Delivery.cursor
      places.length = rest.length ∧ places ⊆ cursors ∧ places.Pairwise r ∧
        ∀ p, d.cursor = some p → ∀ q ∈ places, r p q := by
  induction rest with
  | nil =>
      intro d _ _
      exact ⟨rfl, List.nil_subset cursors, .nil, fun _ _ => List.forall_mem_nil _⟩
  | cons e rest ih =>
      intro d hchain hadvancing
      obtain ⟨hsends, hrest⟩ := List.isChain_cons_cons.mp hchain
      obtain ⟨q, hq⟩ := Option.ne_none_iff_exists'.mp hsends.given
      obtain ⟨hmem, hafter⟩ := hadvancing d List.mem_cons_self q (hsends.next.trans hq)
      obtain ⟨hlength, hsubset, hpairwise, hbehind⟩ :=
        ih e hrest fun e' he' => hadvancing e' (List.mem_cons_of_mem d he')
      rw [List.filterMap_cons_some hq]
      refine ⟨congrArg (· + 1) hlength, List.cons_subset.mpr ⟨hmem, hsubset⟩,
        List.pairwise_cons.mpr ⟨hbehind q hq, hpairwise⟩, fun p hp => ?_⟩
      -- the page does not send the scan to its own cursor, so it sends it on in the order
      have hpq : r p q := by
        rcases hafter p hp with rfl | hlater
        · exact absurd (hp.trans hq.symm) hsends.moved
        · exact hlater
      exact List.forall_mem_cons.mpr ⟨hpq, fun t ht => htrans p q t hpq (hbehind q hq t ht)⟩

/-- **No cursor comes twice if the store does not go back**, so there are no more pages than cursors
    and a first one. -/
theorem InCourse.advances (h : InCourse ds) (hirrefl : ∀ p, ¬ r p p)
    (htrans : ∀ p q t, r p q → r q t → r p t) (hadvancing : Advancing r cursors ds) :
    (ds.filterMap Delivery.cursor).Nodup ∧ ds.length ≤ cursors.length + 1 := by
  cases ds with
  | nil => exact ⟨List.nodup_nil, Nat.zero_le _⟩
  | cons d rest =>
      obtain ⟨hlength, hsubset, hpairwise, -⟩ := Advancing.behind htrans d h.onward hadvancing
      have hnodup : (rest.filterMap Delivery.cursor).Nodup := by
        refine hpairwise.imp ?_
        rintro p _ hp rfl
        exact hirrefl p hp
      rw [List.filterMap_cons_none (h.first d rfl), List.length_cons, ← hlength]
      exact ⟨hnodup, Nat.succ_le_succ (hnodup.subperm hsubset).length_le⟩

end Advancing

end Course

/-! ## What a scan asks for -/

/-- The questions that may be asked after some deliveries: a scroll only at the cursor that is due,
    and a look at the stop event only if one is. -/
def Awaits : Call → List Delivery → Prop
  | .stopping, ds        => ∃ cursor, Due ds cursor
  | .scroll cursor _, ds => Due ds cursor
  | .lookup _, _         => True
  | .delete _, _         => True

/-- What an answer delivers is entered. -/
def Delivers (name : String) (call : Call) (ds : List Delivery) (reply : call.Reply)
    (next : List Delivery) : Prop :=
  next = Delivery.enter name ds ⟨call, reply⟩

namespace Scan

open Dialogue

variable (plan : Plan) (name : String) {ds : List Delivery}

/-- A dialogue that scrolls only at cursors that are due. -/
abbrev GoesOn {α : Type} (post : α → List Delivery → Prop) (talk : Talk α) (ds : List Delivery) :
    Prop :=
  talk.Keeps Awaits (Delivers name) post ds

/-- A scroll delivers a page or nothing. -/
theorem goesOn_fetch {cursor : Option PointId} (hdue : Due ds cursor) :
    GoesOn name (Ending (fun page next => next = ds ++ [⟨cursor, page⟩]) (· = ds))
      (fetch plan name cursor) ds := by
  refine ⟨hdue, ?_⟩
  rintro reply next rfl
  cases reply with
  | error failure => rfl
  | ok raw =>
      show Ending _ _ (Page.ofRaw name raw) _
      rw [Delivery.enter, Said.delivery?]
      cases Page.ofRaw name raw with
      | error failure => rfl
      | ok page => rfl

theorem goesOn_lookup (ids : PointSet) :
    GoesOn name (Ending (fun _ next => next = ds) (· = ds)) (lookup ids) ds := by
  refine ⟨trivial, ?_⟩
  rintro reply next rfl
  cases reply with
  | error failure => rfl
  | ok known => rfl

theorem goesOn_delete (ids : PointSet) :
    GoesOn name (Ending (fun _ next => next = ds) (· = ds)) (delete name ids) ds := by
  refine ⟨trivial, ?_⟩
  rintro reply next rfl
  rw [keeps_showAll, keeps_ended]
  cases reply with
  | error failure => rfl
  | ok _ => rfl

/-- The work on a page delivers nothing. -/
theorem goesOn_work (t : Tally) (ids : List PointId) :
    GoesOn name (fun _ next => next = ds) (work plan name t ids) ds := by
  rw [work]
  split
  · rfl
  · refine (keeps_call_still (goesOn_lookup name (.ofList ids))).andThen ?_ (fun _ _ h => h.2)
    rintro known next rfl
    dsimp only
    split
    · rfl
    · refine keeps_shows.mpr ?_
      rw [prune]
      split
      · rfl
      · exact (keeps_call_still (goesOn_delete name _)).andThen (fun _ _ h => h) (fun _ _ h => h.2)

/-- A scan goes on from a cursor that is due. -/
theorem goesOn_pages (bound : Nat) :
    ∀ (t : Tally) (cursor : Option PointId) (ds : List Delivery), InCourse ds → Due ds cursor →
      GoesOn name
        (Halting (fun _ last => InCourse last ∧ ∃ d ∈ last.getLast?, d.page.next = none)
          fun _ last => InCourse last)
        (pages plan name bound t cursor) ds := by
  induction bound with
  | zero => intro t cursor ds h _; exact h
  | succ bound ih =>
      intro t cursor ds h hdue
      refine ⟨⟨cursor, hdue⟩, ?_⟩
      intro stop next hnext
      rw [show next = ds from hnext]
      dsimp only
      split
      · exact h
      refine (keeps_call_still (goesOn_fetch plan name hdue)).andThen ?_ ?_
      · rintro page _ rfl
        have hnow : InCourse (ds ++ [⟨cursor, page⟩]) := h.concat hdue
        refine Keeps.andThen (goesOn_work plan name _ page.ids) ?_ (fun _ _ h => h ▸ hnow)
        rintro t _ rfl
        split
        · rename_i hend
          exact ⟨hnow, ⟨cursor, page⟩, List.getLast?_concat, hend⟩
        · rename_i q hq
          split
          · exact hnow
          · rename_i hmoved
            exact ih t (some q) _ hnow (due_concat ⟨hq, Option.some_ne_none q, hmoved⟩)
      · rintro halt last ⟨-, rfl⟩
        exact h

/-- **A scan goes where its pages send it**, and ends at one that has none behind it, if it does not
    fail. -/
theorem goesOn_scan (bound : Nat) :
    GoesOn name
      (Halting (fun _ last => InCourse last ∧ ∃ d ∈ last.getLast?, d.page.next = none)
        fun _ last => InCourse last)
      (scan plan name bound) [] :=
  keeps_shows.mpr ((goesOn_pages plan name bound _ none [] inCourse_nil due_nil).andThen
    (fun _ _ h => h) (fun _ _ h => h))

end Scan

/-! ## What a scan fails with -/

namespace Said

variable {name : String} {call : Call} {reply : call.Reply}

theorem deliveries_append (said now : Said) :
    deliveries name (said ++ now) = deliveries name said ++ deliveries name now :=
  List.filterMap_append

theorem length_deliveries_concat (said : Said) (a : Answered Call Call.Reply) :
    (deliveries name (said ++ [a])).length =
      (deliveries name said).length + (delivery? name a).toList.length := by
  rw [deliveries_append, List.length_append]
  cases h : delivery? name a <;> simp [deliveries, h]

/-- An answer that comes to a failure delivers nothing. -/
theorem delivery?_of_failure {failure : Failure}
    (h : Call.failure? name call reply = some failure) : delivery? name ⟨call, reply⟩ = none := by
  cases call with
  | stopping => rfl
  | lookup ids => rfl
  | delete ids => rfl
  | scroll cursor limit =>
      cases reply with
      | error other => rfl
      | ok raw =>
          rw [delivery?]
          cases hpage : Page.ofRaw name raw with
          | error other => rfl
          | ok page =>
              rw [Call.failure?, VectorStore.scrolled, hpage] at h
              cases h

/-- The work on a page delivers nothing. -/
theorem delivery?_of_isWork (h : call.isWork = true) : delivery? name ⟨call, reply⟩ = none := by
  cases call with
  | stopping => cases h
  | scroll cursor limit => cases h
  | lookup ids => rfl
  | delete ids => rfl

/-- An effort delivers what its last answer does. -/
theorem deliveries_effort {e : Effort Call Call.Reply} {bound : Nat}
    (h : e.Within (Call.failure? name) bound) :
    deliveries name e.said = (delivery? name ⟨e.ask, e.last⟩).toList := by
  have hfailed : (e.failed.map fun reply => (⟨e.ask, reply⟩ : Answered Call Call.Reply)).filterMap
      (delivery? name) = [] := by
    rw [List.filterMap_eq_nil_iff, List.forall_mem_map]
    intro reply hreply
    obtain ⟨failure, hfailure, -⟩ := h.passing reply hreply
    exact delivery?_of_failure hfailure
  rw [deliveries, Effort.said, List.map_append, List.filterMap_append, hfailed]
  cases hlast : delivery? name ⟨e.ask, e.last⟩ <;> simp [hlast]

theorem deliveries_onPage {own : List (Effort Call Call.Reply)} (h : Scan.OnPage own) :
    deliveries name (own.flatMap Effort.said) = [] := by
  rw [deliveries, List.filterMap_eq_nil_iff]
  intro a ha
  obtain ⟨e, he, hae⟩ := List.mem_flatMap.mp ha
  obtain ⟨reply, -, rfl⟩ := List.mem_map.mp hae
  exact delivery?_of_isWork (h e he)

/-- A visit that goes through delivers its page. -/
theorem deliveries_visit {cursor next : Option PointId} {t : Tally} {bound : Nat}
    {efforts : List (Effort Call Call.Reply)} (h : Scan.OnVisit name cursor (.ok (t, next)) efforts)
    (hwithin : ∀ e ∈ efforts, e.Within (Call.failure? name) bound) :
    ∃ page, page.next = next ∧
      deliveries name (efforts.flatMap Effort.said) = [⟨cursor, page⟩] := by
  obtain ⟨first, own, rfl, honPage, hbrings⟩ := h
  obtain ⟨limit, failed, raw, page, rfl, hpage, hnext⟩ := hbrings _ rfl
  refine ⟨page, hnext, ?_⟩
  rw [List.flatMap_cons, deliveries_append, deliveries_onPage honPage,
    deliveries_effort (hwithin _ List.mem_cons_self), delivery?, hpage]
  rfl

end Said

/-- Why a scan of at most `bound` pages has failed: its last answer came to the failure, or there are
    too many retries, or its last page sent it to its own cursor, or it was cut off. -/
inductive Halts (plan : Plan) (name : String) (bound : Nat) (said : Said) : Failure → Prop
  | answered {a : Answered Call Call.Reply} {failure : Failure} : said.getLast? = some a →
      Call.failure? name a.1 a.2 = some failure → Halts plan name bound said failure
  | unwritable : Retry.writableRetries < plan.maxRetries →
      Halts plan name bound said Retry.unwritable
  | stuck {d : Delivery} {p : PointId} : (Said.deliveries name said).getLast? = some d →
      d.Stuck p → Halts plan name bound said (Scan.stuck name p)
  | cut (p : PointId) : (Said.deliveries name said).length = bound →
      Halts plan name bound said (Scan.stuck name p)

theorem Halts.explained {plan : Plan} {name : String} {bound : Nat} {said : Said} {failure : Failure}
    (h : Halts plan name bound said failure) : Scan.Explained plan name said failure := by
  cases h with
  | answered hlast hfailure => exact .answered hlast hfailure
  | unwritable hmany => exact .unwritable hmany
  | stuck _ _ => exact .stuck _
  | cut p _ => exact .stuck p

namespace Scan

open Dialogue

variable {plan : Plan} {name : String}

/-- What is known of the end of a scan of at most `bound` pages. -/
abbrev EndsHalted (plan : Plan) (name : String) (bound : Nat) (result : Except Halt Tally)
    (now : Said) : Prop :=
  ∀ halt, result = .error halt → Halts plan name bound now halt.failure

theorem halts_pages (left : Nat) {bound : Nat} :
    ∀ (t : Tally) (cursor : Option PointId) (said : Said),
      (Said.deliveries name said).length + left = bound →
      (pages plan name left t cursor).Keeps (fun _ _ => True) Adds (EndsHalted plan name bound)
        said := by
  induction left with
  | zero =>
      rintro t cursor said hcount halt ⟨⟩
      exact .cut _ hcount
  | succ left ih =>
      intro t cursor said hcount
      rw [pages_succ]
      refine ⟨trivial, ?_⟩
      rintro stop now rfl
      have hstop : Said.deliveries name (said ++ [⟨.stopping, stop⟩]) = Said.deliveries name said := by
        rw [Said.deliveries_append]
        exact List.append_nil _
      cases stop with
      | true =>
          rintro halt ⟨⟩
          exact .answered List.getLast?_concat rfl
      | false =>
          refine (spending_visit t cursor).andThen ?_ ?_
          · rintro ⟨t, next⟩ now ⟨efforts, rfl, hwithin, -, hvisit⟩
            obtain ⟨page, rfl, hpage⟩ := Said.deliveries_visit hvisit hwithin
            have hnow : Said.deliveries name
                (said ++ [⟨.stopping, false⟩] ++ efforts.flatMap Effort.said) =
                  Said.deliveries name said ++ [⟨cursor, page⟩] := by
              rw [Said.deliveries_append, hstop, hpage]
            cases hnext : page.next with
            | none =>
                rintro halt h
                cases h
            | some p =>
                rw [onward]
                split
                · rename_i hown
                  rintro halt ⟨⟩
                  refine .stuck ?_ (⟨hown, hnext⟩ : Delivery.Stuck ⟨cursor, page⟩ p)
                  rw [hnow, List.getLast?_concat]
                · refine ih t (some p) _ ?_
                  rw [hnow, List.length_append, List.length_singleton, ← hcount]
                  omega
          · rintro halt now ⟨efforts, rfl, -, hends, -⟩ other ⟨⟩
            rcases last_of_row hends with ⟨a, hlast, hfailure⟩ | ⟨hmany, hfailure⟩
            · exact .answered hlast hfailure
            · exact hfailure ▸ .unwritable hmany

/-- **A scan that fails**, fails with its last answer or at a page that sends it nowhere else, unless
    its bound cuts it off. -/
theorem halts_scan (bound : Nat) (said : Said) :
    (scan plan name bound).Keeps (fun _ _ => True) Adds
      (EndsHalted plan name ((Said.deliveries name said).length + bound)) said := by
  refine keeps_shows.mpr ((halts_pages bound _ none said rfl).andThen ?_ ?_)
  · rintro t now - halt h
    cases h
  · rintro halt now hends other ⟨⟩
    exact hends halt rfl

/-- So every failure has an explanation. -/
theorem explains_scan (bound : Nat) {said : Said} :
    (scan plan name bound).Keeps (fun _ _ => True) Adds (Explains plan name) said :=
  (halts_scan bound said).mono fun _ _ hends halt hhalt => (hends halt hhalt).explained

end Scan

/-! ## Runs -/

section Runs

variable (plan : Plan) {name : String} {τ : Type} (answer : Answering Call Call.Reply τ)

/-- A run goes where its pages send it; what its answers keep holds at the end. -/
theorem Scan.run_follows (holds : Said → τ → Prop)
    (hanswer : ∀ call said v, holds said v →
      holds (said ++ [⟨call, (answer call v).result⟩]) (answer call v).state)
    (bound : Nat) {v : τ} (hv : holds [] v) :
    let played := (scan plan name bound).run answer v
    let said := Line.answered played.transcript
    let ds := Said.deliveries name said
    holds said played.state ∧ Dialogue.Asked (Said.deliveries name) Awaits said ∧ InCourse ds ∧
      ∀ t, played.result = .ok t → ∃ d ∈ ds.getLast?, d.page.next = none := by
  intro played said ds
  obtain ⟨hholds, hasked, hend⟩ : holds said played.state ∧
      Dialogue.Asked (Said.deliveries name) Awaits said ∧
      Scan.Halting (fun _ last => InCourse last ∧ ∃ d ∈ last.getLast?, d.page.next = none)
        (fun _ last => InCourse last) played.result ds :=
    Dialogue.Keeps.run_asked holds
      (fun call said v h => ⟨hanswer call said v h, Said.deliveries_concat name said _⟩) hv
      (Scan.goesOn_scan plan name bound)
  refine ⟨hholds, hasked, ?_⟩
  cases hresult : played.result with
  | ok t =>
      rw [hresult] at hend
      exact ⟨hend.1, fun _ _ => hend.2⟩
  | error halt =>
      rw [hresult] at hend
      exact ⟨hend, fun t ht => by cases ht⟩

/-- A run that fails, fails in one of the ways that there are. -/
theorem Scan.run_halts (bound : Nat) (v : τ) :
    let played := (scan plan name bound).run answer v
    EndsHalted plan name bound played.result (Line.answered played.transcript) := by
  intro played
  have hrun : EndsHalted plan name (0 + bound) played.result
      (((scan plan name bound).moments answer v).map Moment.answered) :=
    (Scan.halts_scan bound []).run_adds answer v
  rwa [Nat.zero_add, Dialogue.answered_moments] at hrun

/-- Behind a page that sends the scan to its own cursor there is nothing but the work on it. -/
theorem Scan.work_behind_stuck {said earlier later : Said} {a : Answered Call Call.Reply}
    {d : Delivery} {p : PointId} (hasked : Dialogue.Asked (Said.deliveries name) Awaits said)
    (hcourse : InCourse (Said.deliveries name said)) (heq : said = earlier ++ a :: later)
    (hd : Said.delivery? name a = some d) (hstuck : d.Stuck p) :
    (Said.deliveries name said).getLast? = some d ∧ ∀ b ∈ later, b.1.isWork = true := by
  subst heq
  have hsplit : ∀ now : Said, Said.deliveries name (earlier ++ a :: now) =
      Said.deliveries name earlier ++ d :: Said.deliveries name now := by
    intro now
    rw [Said.deliveries_append]
    exact congrArg _ (List.filterMap_cons_some hd)
  rw [hsplit] at hcourse ⊢
  have hlast : Said.deliveries name later = [] := hcourse.last_of_stuck hstuck
  refine ⟨by rw [hlast, List.getLast?_concat], ?_⟩
  intro b hb
  obtain ⟨now, rest, rfl⟩ := List.append_of_mem hb
  have hnow : Said.deliveries name now = [] := by
    rw [Said.deliveries_append] at hlast
    exact (List.append_eq_nil_iff.mp hlast).1
  have hawaits : Awaits b.1 (Said.deliveries name earlier ++ [d]) := by
    rw [← hnow, ← hsplit]
    exact hasked (earlier ++ a :: now) b rest (by rw [List.append_assoc]; rfl)
  -- neither a look at the stop event nor a scroll may come now, for no cursor is due
  have hnone : ∀ cursor, ¬ Due (Said.deliveries name earlier ++ [d]) cursor := fun cursor hdue =>
    hstuck.not_sends cursor (hdue.after d List.getLast?_concat)
  rcases b with ⟨call, reply⟩
  cases call with
  | stopping =>
      obtain ⟨cursor, hdue⟩ := hawaits
      exact absurd hdue (hnone cursor)
  | scroll cursor limit => exact absurd hawaits (hnone cursor)
  | lookup ids => rfl
  | delete ids => rfl

end Runs

/-! ## Scripted pages -/

/-- A page that is delivered is used up. -/
theorem World.scripted_answer {stop : Nat} {name : String} {w : World}
    {rest : List (Except Failure RawPage)} (h : (w.collection name).contents = .scripted rest)
    (call : Call) :
    ∃ later, ((answer stop name call w).state.collection name).contents = .scripted later ∧
      (Said.delivery? name ⟨call, (answer stop name call w).result⟩).toList.length + later.length ≤
        rest.length := by
  rw [World.collection_answer, World.result_answer]
  cases call with
  | stopping => exact ⟨rest, h, Nat.le_of_eq (Nat.zero_add _)⟩
  | lookup ids => exact ⟨rest, h, Nat.le_of_eq (Nat.zero_add _)⟩
  | delete ids =>
      refine ⟨rest, ?_, Nat.le_of_eq (Nat.zero_add _)⟩
      show (Strike.around _ _ _).2 = _
      rcases Strike.around_state ((w.collection name).strike w.schedule name (.delete ids))
        (Contents.delete name ids) (w.collection name).contents with hsame | hmade
      · rw [hsame, h]
      · rw [hmade, h]
        rfl
  | scroll cursor limit =>
      let strike := (w.collection name).strike w.schedule name (.scroll cursor limit)
      let act := Contents.scroll name (cursor.getD .nil) limit
      show ∃ later, (strike.around act (w.collection name).contents).2 = .scripted later ∧
        (Said.delivery? name ⟨.scroll cursor limit,
          (strike.around act (w.collection name).contents).1⟩).toList.length + later.length ≤ _
      have hscroll : (act (.scripted rest)).2 = .scripted rest.tail := by
        cases rest with
        | nil => rfl
        | cons answer rest => rfl
      rw [h]
      cases hreply : (strike.around act (.scripted rest)).1 with
      | error failure =>
          rcases strike.around_state act (.scripted rest) with hsame | hmade
          · exact ⟨rest, hsame, Nat.le_of_eq (Nat.zero_add _)⟩
          · refine ⟨rest.tail, hmade.trans hscroll, ?_⟩
            simp [Said.delivery?]
      | ok raw =>
          have hmade := Strike.around_ok hreply
          refine ⟨rest.tail, by rw [hmade, hscroll], ?_⟩
          rw [hmade] at hreply
          cases rest with
          | nil => cases hreply
          | cons answer rest =>
              rw [List.tail_cons, List.length_cons, Nat.add_comm]
              refine Nat.add_le_add_left ?_ rest.length
              cases Said.delivery? name ⟨.scroll cursor limit, .ok raw⟩ <;> simp

/-- A world with one collection that sends empty pages: one for each of some cursors, and a last
    one. -/
def World.ofCursors (cursors : List String) : World where
  collections :=
    [{ name := "c"
       contents := .scripted (cursors.map (fun cursor => .ok { next := .text cursor }) ++ [.ok {}]) }]
  registry := { column_named := Registry.defaultColumn_named, rows := some [] }

namespace Sweeper

variable (s : Sweeper)

/-- **A scan follows its pages, and does not stand still.**  It scrolls without a cursor first and
    then at the next cursor of each page; a page that sends it to its own cursor is worked on and not
    followed, and the scan fails, if not with that work then because the cursor does not move.  So a
    scan of scripted pages delivers each at most once, and a scan whose store does not go back comes
    to no cursor twice. -/
theorem scanOne_follows_cursors (name : String) (w : World)
    (answers : List (Except Failure RawPage))
    (h : (w.collection name).contents = .scripted answers) :
    let scanned := s.scanOne name w
    let said := Line.answered scanned.transcript
    let ds := Said.deliveries name said
    InCourse ds ∧ ds.length ≤ answers.length ∧
    (∀ t, scanned.result = .ok t → ∃ d ∈ ds.getLast?, d.page.next = none) ∧
    (∀ earlier a later d p, said = earlier ++ a :: later → Said.delivery? name a = some d →
      d.Stuck p →
      (∀ b ∈ later, b.1.isWork = true) ∧
      ∃ halt, scanned.result = .error halt ∧
        (halt.failure = Scan.stuck name p ∨
          (∃ b ∈ later.getLast?, Call.failure? name b.1 b.2 = some halt.failure) ∨
          Retry.writableRetries < s.plan.maxRetries ∧ halt.failure = Retry.unwritable)) ∧
    ∀ {τ : Type} (answer : Answering Call Call.Reply τ) (bound : Nat) (v : τ)
      (r : PointId → PointId → Prop) (cursors : List PointId),
      (∀ p, ¬ r p p) → (∀ p q t, r p q → r q t → r p t) →
      let ds := Said.deliveries name (Line.answered ((scan s.plan name bound).run answer v).transcript)
      Advancing r cursors ds →
      (ds.filterMap Delivery.cursor).Nodup ∧ ds.length ≤ cursors.length + 1 := by
  intro scanned said ds
  obtain ⟨⟨rest, -, hcount⟩, hasked, hcourse, hend⟩ :=
    Scan.run_follows s.plan (World.answer s.stop name) (fun said v => ∃ rest,
        (v.collection name).contents = .scripted rest ∧
          (Said.deliveries name said).length + rest.length ≤ answers.length)
      (fun call said v hv => by
        obtain ⟨rest, hrest, hcount⟩ := hv
        obtain ⟨later, hlater, hused⟩ := World.scripted_answer hrest call
        refine ⟨later, hlater, ?_⟩
        rw [Said.length_deliveries_concat]
        omega)
      (w.collection name).contents.pageBound ⟨answers, h, Nat.le_of_eq (Nat.zero_add _)⟩
  have hcount : ds.length ≤ answers.length := Nat.le_of_add_right_le hcount
  refine ⟨hcourse, hcount, hend, ?_, ?_⟩
  · intro earlier a later d p heq hd hstuck
    obtain ⟨hds, hwork⟩ : ds.getLast? = some d ∧ _ :=
      Scan.work_behind_stuck hasked hcourse heq hd hstuck
    refine ⟨hwork, ?_⟩
    cases hresult : scanned.result with
    | ok t =>
        obtain ⟨e, he, hnone⟩ := hend t hresult
        cases hds.symm.trans he
        cases hstuck.next.symm.trans hnone
    | error halt =>
        refine ⟨halt, rfl, ?_⟩
        have hhalts := Scan.run_halts s.plan (World.answer s.stop name) _ w halt hresult
        generalize halt.failure = failure at hhalts ⊢
        cases hhalts with
        | unwritable hmany => exact Or.inr (Or.inr ⟨hmany, rfl⟩)
        | stuck hlast' hstuck' =>
            cases hds.symm.trans hlast'
            cases hstuck.own.symm.trans hstuck'.own
            exact Or.inl rfl
        | cut q hcut =>
            have hbound : (w.collection name).contents.pageBound = answers.length + 1 :=
              congrArg Contents.pageBound h
            have hlength : ds.length = answers.length + 1 := hcut.trans hbound
            omega
        | answered hlast' hfailure =>
            rename_i b
            refine Or.inr (Or.inl ⟨b, ?_, hfailure⟩)
            have hsaid : (earlier ++ a :: later).getLast? = some b := heq ▸ hlast'
            rcases List.eq_nil_or_concat later with rfl | ⟨later', c, rfl⟩
            · -- the page itself was delivered, so its answer came to no failure
              rw [List.getLast?_concat] at hsaid
              cases hsaid
              rw [Said.delivery?_of_failure hfailure] at hd
              cases hd
            · rw [List.concat_eq_append, ← List.cons_append, ← List.append_assoc,
                List.getLast?_concat] at hsaid
              rw [List.concat_eq_append, List.getLast?_concat]
              exact hsaid
  · intro τ answer bound v r cursors hirrefl htrans ds hadvancing
    obtain ⟨-, -, hcourse, -⟩ := Scan.run_follows s.plan answer (fun _ _ => True)
      (fun _ _ _ _ => trivial) bound trivial
    exact hcourse.advances hirrefl htrans hadvancing

/-- A page that sends the scan to its own cursor is the last one, and the scan fails there. -/
theorem scanOne_follows_cursors_stuck :
    let s : Sweeper := {}
    let w := World.ofCursors
      ["00000000-0000-0000-0000-000000000001", "00000000-0000-0000-0000-000000000001"]
    let scanned := s.scanOne "c" w
    let ds := Said.deliveries "c" (Line.answered scanned.transcript)
    InCourse ds ∧ (ds.map fun d => d.offset.val) = [0, 1] ∧
      ∃ d ∈ ds.getLast?, ∃ p, d.Stuck p ∧
        ∃ halt, scanned.result = .error halt ∧ halt.failure = Scan.stuck "c" p := by
  intro s w scanned ds
  obtain ⟨hcourse, -, -, hstuck, -⟩ := s.scanOne_follows_cursors "c" w _ rfl
  have hoffsets : (ds.map fun d => d.offset.val) = [0, 1] := by decide +kernel
  let p := (PointId.ofNat? 1).getD .nil
  have hlast : (ds.getLast?.map fun d => (d.cursor, d.page.next)) = some (some p, some p) := by
    decide +kernel
  have hidle : (Line.answered scanned.transcript).all (fun a => !a.1.isWork) = true := by
    decide +kernel
  obtain ⟨d, hd, hown⟩ := Option.map_eq_some_iff.mp hlast
  have hp : d.Stuck p := ⟨(Prod.mk.inj hown).1, (Prod.mk.inj hown).2⟩
  obtain ⟨a, ha, hdelivered⟩ := List.mem_filterMap.mp (List.mem_of_getLast? hd)
  obtain ⟨earlier, later, heq⟩ := List.append_of_mem ha
  obtain ⟨hwork, halt, hresult, hfailure⟩ := hstuck earlier a later d p heq hdelivered hp
  refine ⟨hcourse, hoffsets, d, hd, p, hp, halt, hresult, ?_⟩
  rcases hfailure with hfailure | ⟨b, hb, -⟩ | ⟨hmany, -⟩
  · exact hfailure
  · -- the pages are empty, so there is no work on them
    have hb : b ∈ later := List.mem_of_getLast? hb
    have hsaid : b ∈ Line.answered scanned.transcript := by
      rw [heq]
      exact List.mem_append_right _ (List.mem_cons_of_mem a hb)
    have hnot := List.all_eq_true.mp hidle b hsaid
    rw [hwork b hb] at hnot
    cases hnot
  · exact absurd hmany (Nat.not_lt_zero _)

/-- A cursor that comes back behind another one is followed: the scan is at one offset twice. -/
theorem scanOne_goes_round :
    let s : Sweeper := {}
    let w := World.ofCursors ["00000000-0000-0000-0000-000000000001",
      "00000000-0000-0000-0000-000000000002", "00000000-0000-0000-0000-000000000001"]
    let scanned := s.scanOne "c" w
    let ds := Said.deliveries "c" (Line.answered scanned.transcript)
    (ds.map fun d => d.offset.val) = [0, 1, 2, 1] ∧ ¬ (ds.map Delivery.offset).Nodup ∧
      ∃ t, scanned.result = .ok t := by
  intro s w scanned ds
  have hoffsets : (ds.map fun d => d.offset.val) = [0, 1, 2, 1] := by decide +kernel
  have hended : scanned.result.toOption.isSome = true := by decide +kernel
  refine ⟨hoffsets, by decide +kernel, ?_⟩
  · cases hresult : scanned.result with
    | ok t => exact ⟨t, rfl⟩
    | error halt => rw [hresult] at hended; cases hended

end Sweeper

end OrphanSweep
