import OrphanSweep.Proofs.Moments
import OrphanSweep.Proofs.Pages
import OrphanSweep.Proofs.Scan
import OrphanSweep.Proofs.World
import OrphanSweep.Sweep

/-! # Visits

    A visit is the work of a scan on one page.  It asks no question about stopping: whatever happens
    while it is made, it goes on through its calls, each of which follows from the answer to the one
    before it (`Follows`), to its own failure or to the end of the page (`Processed`).  A scan is a
    row of visits with a look at the stop event before each (`pages_succ`), and it never has more of
    them than its bound allows, for from page to page there is less left to scan (`left_visit`). -/

namespace OrphanSweep

/-! ## Dialogues that may fail, in a row -/

namespace Dialogue

variable {Ask : Type} {Reply : Ask → Type} {σ α β γ ε : Type} {answer : Answering Ask Reply σ}
variable {d : Dialogue Ask Reply (Except ε α)} {s : σ}

/-- Three dialogues in a row can be put together either way. -/
theorem andThen_andThen (d : Dialogue Ask Reply (Except ε α))
    (next : α → Dialogue Ask Reply (Except ε β)) (last : β → Dialogue Ask Reply (Except ε γ)) :
    (d.andThen next).andThen last = d.andThen fun value => (next value).andThen last := by
  induction d with
  | ended result => cases result <;> rfl
  | shows event rest ih => exact congrArg (shows event) ih
  | asks ask resume ih => exact congrArg (asks ask) (funext ih)

/-- What a dialogue does behind one that has gone through. -/
theorem andThen_of_ok {value : α} (next : α → Dialogue Ask Reply (Except ε β))
    (h : (d.run answer s).result = .ok value) :
    let later := (next value).run answer (d.run answer s).state
    ((d.andThen next).run answer s).result = later.result ∧
      ((d.andThen next).run answer s).state = later.state ∧
      (d.andThen next).moments answer s =
        d.moments answer s ++ (next value).moments answer (d.run answer s).state := by
  simp only [andThen, run_bind, moments_bind, h]
  exact ⟨trivial, trivial, trivial⟩

/-- A failure is the end. -/
theorem andThen_of_error {error : ε} (next : α → Dialogue Ask Reply (Except ε β))
    (h : (d.run answer s).result = .error error) :
    ((d.andThen next).run answer s).result = .error error ∧
      ((d.andThen next).run answer s).state = (d.run answer s).state ∧
      (d.andThen next).moments answer s = d.moments answer s := by
  simp only [andThen, run_bind, moments_bind, h]
  exact ⟨rfl, rfl, List.append_nil _⟩

/-- Where the whole has gone through, so have both parts. -/
theorem ok_of_andThen {next : α → Dialogue Ask Reply (Except ε β)} {last : β}
    (h : ((d.andThen next).run answer s).result = .ok last) :
    ∃ value, (d.run answer s).result = .ok value ∧
      ((next value).run answer (d.run answer s).state).result = .ok last ∧
      ((d.andThen next).run answer s).state =
        ((next value).run answer (d.run answer s).state).state := by
  cases hfirst : (d.run answer s).result with
  | error error => rw [(andThen_of_error next hfirst).1] at h; cases h
  | ok value =>
      obtain ⟨hresult, hstate, -⟩ := andThen_of_ok next hfirst
      exact ⟨value, rfl, hresult.symm.trans h, hstate⟩

end Dialogue

namespace Scan

variable (plan : Plan) (name : String)

/-- The work on the page at a cursor; it tells where the next page begins. -/
def visit (t : Tally) (cursor : Option PointId) : Talk (Except Halt (Tally × Option PointId)) :=
  let t := { t with phase := .scanning }
  (call plan name "scroll" t (fetch plan name cursor)).andThen fun page =>
    (work plan name (counted t page) page.ids).andThen fun t => .ended (.ok (t, page.next))

/-- What a scan does after a page: it ends, or goes on unless its cursor has not moved. -/
def onward (bound : Nat) (cursor : Option PointId) :
    Tally × Option PointId → Talk (Except Halt Tally)
  | (t, none)      => .ended (.ok t)
  | (t, some next) =>
      if cursor = some next then .ended (.error ⟨stuck name next, t⟩)
      else pages plan name bound t (some next)

/-- A scan looks at the stop event, works on a page, and goes on. -/
theorem pages_succ (bound : Nat) (t : Tally) (cursor : Option PointId) :
    pages plan name (bound + 1) t cursor = .asks .stopping fun stop =>
      if stop then .ended (.error ⟨.cancelled (.text name), t⟩)
      else (visit plan name t cursor).andThen (onward plan name bound cursor) := by
  rw [pages, visit, Dialogue.andThen_andThen]
  refine congrArg (Dialogue.asks Call.stopping) (funext fun stop => ?_)
  refine congrArg (ite _ _) (congrArg (Dialogue.andThen _) (funext fun page => ?_))
  rw [Dialogue.andThen_andThen]
  refine congrArg (Dialogue.andThen _) (funext fun t => ?_)
  cases hnext : page.next <;> simp [Dialogue.andThen, Dialogue.bind, onward]

theorem call_asks {α : Type} (what : String) (reached : Tally) (ask : Call)
    (resume : ask.Reply → Talk (Except Failure α)) :
    ∃ resume', call plan name what reached (.asks ask resume) = .asks ask resume' := by
  obtain ⟨resume', hasks⟩ := Retry.retry_asks plan.maxRetries s!"[{name}] {what}" ask resume
  rw [call, hasks]
  exact ⟨_, rfl⟩

/-- A visit begins with a scroll. -/
theorem visit_asks (t : Tally) (cursor : Option PointId) :
    ∃ resume, visit plan name t cursor = .asks (.scroll cursor plan.pageSize) resume := by
  have hfetch : ∃ resume, call plan name "scroll" { t with phase := .scanning }
      (fetch plan name cursor) = .asks (.scroll cursor plan.pageSize) resume :=
    call_asks plan name "scroll" _ (.scroll cursor plan.pageSize) _
  obtain ⟨resume, hasks⟩ := hfetch
  rw [visit, hasks]
  exact ⟨_, rfl⟩

end Scan

/-! ## The calls of a visit -/

/-- A call follows from the answer to another one: a failed call is made again, a page is looked up,
    and what has no row is deleted. -/
inductive Follows (name : String) : Answered Call Call.Reply → Call → Prop
  | scrollAgain {cursor : Option PointId} {limit : Int} {failure : Failure} :
      Follows name ⟨.scroll cursor limit, .error failure⟩ (.scroll cursor limit)
  | lookupAgain {ids : PointSet} {failure : Failure} :
      Follows name ⟨.lookup ids, .error failure⟩ (.lookup ids)
  | deleteAgain {ids : PointSet} {failure : Failure} :
      Follows name ⟨.delete ids, .error failure⟩ (.delete ids)
  | lookup {cursor : Option PointId} {limit : Int} {raw : RawPage} {page : Page PointId}
      (h : Page.ofRaw name raw = .ok page) :
      Follows name ⟨.scroll cursor limit, .ok raw⟩ (.lookup (.ofList page.ids))
  | delete {ids known : PointSet} :
      Follows name ⟨.lookup ids, .ok known⟩ (.delete (ids \ known))

/-- A page was brought by a scroll. -/
def Brought (name : String) (said : List (Answered Call Call.Reply)) (page : Page PointId) : Prop :=
  ∃ cursor limit raw, ⟨.scroll cursor limit, .ok raw⟩ ∈ said ∧ Page.ofRaw name raw = .ok page

theorem Brought.concat {name : String} {said : List (Answered Call Call.Reply)}
    {page : Page PointId} (h : Brought name said page) (a : Answered Call Call.Reply) :
    Brought name (said ++ [a]) page := by
  obtain ⟨cursor, limit, raw, hmem, hpage⟩ := h
  exact ⟨cursor, limit, raw, List.mem_append_left _ hmem, hpage⟩

/-- The orphans of a page were deleted, so far as there are any and they are to be. -/
def Pruned (plan : Plan) (said : List (Answered Call Call.Reply)) (orphans : PointSet) : Prop :=
  orphans.isEmpty = true ∨ plan.dryRun = true ∨ ⟨.delete orphans, .ok ()⟩ ∈ said

/-- A page was processed to its end: it was brought, its ids were looked up, and those that have no
    row were deleted. -/
def Processed (plan : Plan) (name : String) (said : List (Answered Call Call.Reply))
    (next : Option PointId) : Prop :=
  ∃ page, Brought name said page ∧ page.next = next ∧
    (page.ids = [] ∨ ∃ known, ⟨.lookup (.ofList page.ids), .ok known⟩ ∈ said ∧
      Pruned plan said (.ofList page.ids \ known))

/-! ## Pages that cannot be used -/

/-- A change of the value leaves an error as it is. -/
theorem error_of_map {α β ε : Type} {result : Except ε α} {f : α → β} {error : ε}
    (h : result.map f = .error error) : result = .error error := by
  cases result with
  | ok value => cases h
  | error other => cases h; rfl

section Malformed

variable {name detail : String} {failure : Failure}

theorem Value.malformed_pointId {v : Value} (h : v.pointId name detail = .error failure) :
    failure = .malformed (.text name) v (.text detail) := by
  rw [Value.pointId] at h
  split at h
  · cases h
  · cases h
    rfl

theorem Value.malformed_pointIds {vs : List Value}
    (h : Value.pointIds name detail vs = .error failure) :
    ∃ v, failure = .malformed (.text name) v (.text detail) := by
  induction vs with
  | nil => cases h
  | cons v vs ih =>
      rw [Value.pointIds] at h
      cases hv : v.pointId name detail with
      | error other =>
          rw [hv] at h
          cases h
          exact ⟨v, Value.malformed_pointId hv⟩
      | ok p =>
          rw [hv] at h
          exact ih (error_of_map h)

/-- A page that cannot be used is refused with a value of it. -/
theorem Page.malformed_ofRaw {raw : RawPage} (h : Page.ofRaw name raw = .error failure) :
    ∃ v detail, failure = .malformed (.text name) v (.text detail) := by
  rw [Page.ofRaw] at h
  cases hids : Value.pointIds name Failure.badPointId raw.records with
  | error other =>
      rw [hids] at h
      cases h
      obtain ⟨v, hv⟩ := Value.malformed_pointIds hids
      exact ⟨v, Failure.badPointId, hv⟩
  | ok ids =>
      rw [hids] at h
      have hcursor := error_of_map h
      rw [Value.cursor.eq_def] at hcursor
      split at hcursor
      · cases hcursor
      · exact ⟨_, Failure.badCursor, Value.malformed_pointId (error_of_map hcursor)⟩

/-- Nor is it asked for again. -/
theorem Page.lasting_ofRaw {raw : RawPage} (h : Page.ofRaw name raw = .error failure) :
    Retry.isTransient failure = false := by
  obtain ⟨v, detail, rfl⟩ := Page.malformed_ofRaw h
  rfl

end Malformed

/-! ## What a visit asks -/

/-- A call that follows from what was said last. -/
def MayFollow (name : String) (call : Call) (said : List (Answered Call Call.Reply)) : Prop :=
  ∀ a ∈ said.getLast?, Follows name a call

theorem mayFollow_concat {name : String} {call : Call} {a : Answered Call Call.Reply}
    {said : List (Answered Call Call.Reply)} (h : Follows name a call) :
    MayFollow name call (said ++ [a]) := by
  intro b hb
  rw [List.getLast?_concat] at hb
  cases hb
  exact h

namespace Scan

open Dialogue

variable (plan : Plan) {name : String} {said : List (Answered Call Call.Reply)}

/-- A dialogue each call of which follows from the answer before it. -/
abbrev Steps {α : Type} (name : String) (post : α → List (Answered Call Call.Reply) → Prop)
    (talk : Talk α) (said : List (Answered Call Call.Reply)) : Prop :=
  talk.Keeps (MayFollow name) Adds post said

/-- A page was brought, and may be looked up. -/
def Fetched (name : String) (page : Page PointId) (said : List (Answered Call Call.Reply)) : Prop :=
  Brought name said page ∧ MayFollow name (.lookup (.ofList page.ids)) said

/-- A page was brought and looked up. -/
def Looked (name : String) (page : Page PointId) (known : PointSet)
    (said : List (Answered Call Call.Reply)) : Prop :=
  Brought name said page ∧ ⟨.lookup (.ofList page.ids), .ok known⟩ ∈ said

theorem steps_fetch {cursor : Option PointId}
    (h : MayFollow name (.scroll cursor plan.pageSize) said) :
    Steps name
      (Retry.Tried (Fetched name) (fun _ => True) (MayFollow name (.scroll cursor plan.pageSize)))
      (fetch plan name cursor) said := by
  refine ⟨h, ?_⟩
  rintro reply now rfl
  cases reply with
  | error failure => exact ⟨trivial, fun _ => mayFollow_concat .scrollAgain⟩
  | ok raw =>
      show Retry.Tried _ _ _ (Page.ofRaw name raw) _
      cases hpage : Page.ofRaw name raw with
      | error failure =>
          refine ⟨trivial, fun htransient => ?_⟩
          rw [Page.lasting_ofRaw hpage] at htransient
          cases htransient
      | ok page =>
          exact ⟨⟨cursor, plan.pageSize, raw, List.mem_append_right _ List.mem_cons_self, hpage⟩,
            mayFollow_concat (.lookup hpage)⟩

theorem steps_lookup {page : Page PointId} (h : Fetched name page said) :
    Steps name
      (Retry.Tried
        (fun known now => Looked name page known now ∧
          MayFollow name (.delete (.ofList page.ids \ known)) now)
        (fun _ => True) (Fetched name page))
      (lookup (.ofList page.ids)) said := by
  refine ⟨h.2, ?_⟩
  rintro reply now rfl
  cases reply with
  | error failure => exact ⟨trivial, fun _ => ⟨h.1.concat _, mayFollow_concat .lookupAgain⟩⟩
  | ok known =>
      exact ⟨⟨h.1.concat _, List.mem_append_right _ List.mem_cons_self⟩,
        mayFollow_concat .delete⟩

theorem steps_delete {page : Page PointId} {known orphans : PointSet}
    (h : Looked name page known said ∧ MayFollow name (.delete orphans) said) :
    Steps name
      (Retry.Tried
        (fun _ now => Looked name page known now ∧ ⟨.delete orphans, .ok ()⟩ ∈ now)
        (fun _ => True)
        (fun now => Looked name page known now ∧ MayFollow name (.delete orphans) now))
      (delete name orphans) said := by
  refine ⟨h.2, ?_⟩
  rintro reply now rfl
  rw [keeps_showAll, keeps_ended]
  have hlooked : ∀ a, Looked name page known (said ++ [a]) :=
    fun a => ⟨h.1.1.concat a, List.mem_append_left _ h.1.2⟩
  cases reply with
  | error failure => exact ⟨trivial, fun _ => ⟨hlooked _, mayFollow_concat .deleteAgain⟩⟩
  | ok _ => exact ⟨hlooked _, List.mem_append_right _ List.mem_cons_self⟩

/-- A call with its retries goes step by step if its attempts do. -/
theorem steps_call {α : Type} {what : String} {reached : Tally} {attempt : Talk (Except Failure α)}
    {good : α → List (Answered Call Call.Reply) → Prop}
    {fits : List (Answered Call Call.Reply) → Prop}
    (hattempt : ∀ said, fits said →
      Steps name (Retry.Tried good (fun _ => True) fits) attempt said) (h : fits said) :
    Steps name (Ending good fun _ => True) (call plan name what reached attempt) said := by
  refine keeps_bind.mpr ((Retry.keeps_retry_tried hattempt _ h).mono ?_)
  intro result now hnow
  cases result with
  | ok value => exact hnow
  | error failure => trivial

/-- The orphans of a page are pruned, step by step. -/
theorem steps_prune {t : Tally} {page : Page PointId} {known orphans : PointSet}
    (h : Looked name page known said ∧ MayFollow name (.delete orphans) said) :
    Steps name
      (Ending (fun _ now => Looked name page known now ∧ Pruned plan now orphans) fun _ => True)
      (prune plan name t orphans) said := by
  rw [prune]
  split
  · rename_i hdry
    exact ⟨h.1, Or.inr (Or.inl hdry)⟩
  · refine keeps_andThen (steps_call plan (fun _ => steps_delete) h) ?_ (fun _ _ _ => trivial)
    rintro _ now ⟨hlooked, hdeleted⟩
    exact ⟨hlooked, Or.inr (Or.inr hdeleted)⟩

/-- A page that was brought is processed, step by step. -/
theorem steps_work {t : Tally} {page : Page PointId} (h : Fetched name page said) :
    Steps name (Ending (fun _ now => Processed plan name now page.next) fun _ => True)
      (work plan name t page.ids) said := by
  rw [work]
  split
  · rename_i hempty
    exact ⟨page, h.1, rfl, Or.inl (List.isEmpty_iff.mp hempty)⟩
  · refine keeps_andThen (steps_call plan (fun _ => steps_lookup) h) ?_ (fun _ _ _ => trivial)
    rintro known now ⟨hlooked, hnext⟩
    dsimp only
    split
    · rename_i hempty
      exact ⟨page, hlooked.1, rfl, Or.inr ⟨known, hlooked.2, Or.inl hempty⟩⟩
    · refine keeps_shows.mpr ((steps_prune plan ⟨hlooked, hnext⟩).mono ?_)
      intro result now hnow
      cases result with
      | error halt => trivial
      | ok t =>
          obtain ⟨hlooked, hpruned⟩ : Looked name page known now ∧ _ := hnow
          exact ⟨page, hlooked.1, rfl, Or.inr ⟨known, hlooked.2, hpruned⟩⟩

/-- **A visit goes step by step**, and if it does not fail its page is processed. -/
theorem steps_visit (t : Tally) (cursor : Option PointId) :
    Steps name (Ending (fun ends now => Processed plan name now ends.2) fun _ => True)
      (visit plan name t cursor) [] := by
  refine keeps_andThen (steps_call plan (fun _ => steps_fetch plan) nofun) ?_ (fun _ _ _ => trivial)
  intro page now hfetched
  exact keeps_andThen (steps_work plan hfetched) (fun _ _ hprocessed => hprocessed)
    (fun _ _ _ => trivial)

end Scan

/-! ## How much is left to scan -/

/-- A bound on the pages to come behind the one at a cursor. -/
def Contents.left : Contents → Option PointId → Nat
  | missing, _          => 0
  | scripted answers, _ => answers.length
  | points held, none   => held.size + 1
  | points held, some p => (held.filter fun q => p < q).size

theorem Contents.pageBound_eq (contents : Contents) :
    contents.pageBound = contents.left none + 1 := by
  cases contents <;> rfl

theorem PointSet.size_filter_diff (held ids : PointSet) (keep : PointId → Bool) :
    ((held \ ids).filter keep).size ≤ (held.filter keep).size :=
  (List.filter_sublist.filter keep).length_le

/-- A member behind a place has fewer members behind it than that place. -/
theorem PointSet.size_behind_lt {held : PointSet} {p q : PointId} (hq : q ∈ held) (hlt : p < q) :
    (held.filter fun r => q < r).size < (held.filter fun r => p < r).size := by
  have hbehind : (held.filter fun r => q < r).toList =
      (held.filter fun r => p < r).toList.filter fun r => q < r := by
    rw [toList_filter, toList_filter, List.filter_filter]
    refine List.filter_congr fun r _ => ?_
    by_cases hr : q < r
    · have hpr : p < r := Nat.lt_trans hlt hr
      simp [hr, hpr]
    · simp [hr]
  rw [size, hbehind, size, List.length_filter_lt_length_iff_exists]
  refine ⟨q, mem_filter.mpr ⟨hq, decide_eq_true hlt⟩, fun h => ?_⟩
  exact Nat.lt_irrefl q.val (of_decide_eq_true h)

/-- No call leaves more than there was. -/
theorem Collection.left_answer (registry : Registry) (name : String) (stop : Bool)
    (strike : Strike) (c : Collection) (call : Call) (cursor : Option PointId) :
    (c.answer registry name stop strike call).2.contents.left cursor ≤ c.contents.left cursor := by
  cases call with
  | stopping => exact Nat.le_refl _
  | lookup ids => exact Nat.le_refl _
  | scroll offset limit =>
      show (strike.around _ c.contents).2.left cursor ≤ _
      rcases strike.around_state (Contents.scroll name (offset.getD .nil) limit) c.contents with
        h | h
      · rw [h]
      · rw [h]
        cases c.contents with
        | missing => exact Nat.le_refl _
        | points held => exact Nat.le_refl _
        | scripted answers =>
            cases answers with
            | nil => exact Nat.le_refl _
            | cons answer rest => exact Nat.le_succ _
  | delete ids =>
      show (strike.around _ c.contents).2.left cursor ≤ _
      rcases strike.around_state (Contents.delete name ids) c.contents with h | h
      · rw [h]
      · rw [h]
        cases c.contents with
        | missing => exact Nat.le_refl _
        | scripted answers => exact Nat.le_refl _
        | points held =>
            cases cursor with
            | none => exact Nat.succ_le_succ (List.length_filter_le _ _)
            | some p => exact PointSet.size_filter_diff held ids _

/-- A page with another one behind it leaves less than there was. -/
theorem Collection.left_scroll {registry : Registry} {name : String} {stop : Bool}
    {strike : Strike} {c after : Collection} {cursor : Option PointId} {limit : Int}
    {raw : RawPage} {page : Page PointId} {next : PointId}
    (h : c.answer registry name stop strike (.scroll cursor limit) = (.ok raw, after))
    (hpage : Page.ofRaw name raw = .ok page) (hnext : page.next = some next)
    (hmoved : cursor ≠ some next) :
    after.contents.left (some next) < c.contents.left cursor := by
  obtain ⟨hreply, rfl⟩ := Prod.mk.inj h
  have hmade := Strike.around_ok hreply
  show (strike.around _ c.contents).2.left _ < _
  rw [hmade] at hreply ⊢
  cases hcontents : c.contents with
  | missing => rw [hcontents] at hreply; cases hreply
  | scripted answers =>
      rw [hcontents] at hreply
      cases answers with
      | nil => cases hreply
      | cons answer rest => exact Nat.lt_succ_self _
  | points held =>
      rw [hcontents] at hreply
      cases hreply
      rw [Contents.page, Page.ofRaw_ids] at hpage
      cases hpage
      -- the next page begins at a member of the set, and the cursor does not exceed it
      have hmem := List.mem_of_mem_drop (List.mem_of_mem_head? hnext)
      obtain ⟨hheld, hle⟩ := PointSet.mem_filter.mp hmem
      rw [decide_eq_true_eq] at hle
      cases cursor with
      | none => exact Nat.lt_succ_of_le (List.length_filter_le _ _)
      | some p =>
          refine PointSet.size_behind_lt hheld (Nat.lt_of_le_of_ne hle fun heq => hmoved ?_)
          cases p; cases next; cases heq; rfl

/-- What is left of a collection to scan, in a world. -/
def World.left (w : World) (name : String) (cursor : Option PointId) : Nat :=
  (w.collection name).contents.left cursor

theorem World.left_answer (stop : Nat) (name : String) (call : Call) (w : World)
    (cursor : Option PointId) :
    (answer stop name call w).state.left name cursor ≤ w.left name cursor := by
  rw [left, collection_answer]
  exact Collection.left_answer _ _ _ _ _ _ _

namespace Scan

open Dialogue

variable {plan : Plan} {name : String} {stop : Nat} {w : World}

/-- No dialogue leaves more than there was. -/
theorem left_run {α : Type} (talk : Talk α) (w : World) (cursor : Option PointId) :
    (talk.run (World.answer stop name) w).state.left name cursor ≤ w.left name cursor := by
  have hanswer : ∀ call v, World.left v name cursor ≤ w.left name cursor →
      (World.answer stop name call v).state.left name cursor ≤ w.left name cursor :=
    fun call v h => (World.left_answer stop name call v cursor).trans h
  exact run_preserves hanswer talk (Nat.le_refl _)

/-- A page with another one behind it leaves less, whatever attempts it takes to get it. -/
theorem left_fetch {cursor : Option PointId} {what : String} {reached : Tally}
    {page : Page PointId} {next : PointId}
    (h : ((call plan name what reached (fetch plan name cursor)).run
      (World.answer stop name) w).result = .ok page)
    (hnext : page.next = some next) (hmoved : cursor ≠ some next) :
    ((call plan name what reached (fetch plan name cursor)).run
      (World.answer stop name) w).state.left name (some next) < w.left name cursor := by
  have hattempt : ∀ v, World.left v name cursor ≤ w.left name cursor →
      (fetch plan name cursor).Keeps (fun _ _ => True) (Exactly (World.answer stop name))
        (Ending
          (fun page v => ∀ next, page.next = some next → cursor ≠ some next →
            World.left v name (some next) < w.left name cursor)
          fun v => World.left v name cursor ≤ w.left name cursor) v := by
    intro v hv
    refine ⟨trivial, ?_⟩
    rintro reply v' ⟨hreply, rfl⟩
    have hleft := (World.left_answer stop name (.scroll cursor plan.pageSize) v cursor).trans hv
    cases reply with
    | error failure => exact hleft
    | ok raw =>
        show Ending _ _ (Page.ofRaw name raw) _
        cases hpage : Page.ofRaw name raw with
        | error failure => exact hleft
        | ok page =>
            intro next hnext hmoved
            refine Nat.lt_of_lt_of_le ?_ hv
            rw [World.left, World.collection_answer]
            rw [World.result_answer] at hreply
            exact Collection.left_scroll (Prod.ext hreply.symm rfl) hpage hnext hmoved
  have hcall : (call plan name what reached (fetch plan name cursor)).Keeps (fun _ _ => True)
      (Exactly (World.answer stop name)) _ w := keeps_call (fun _ h => h) hattempt (Nat.le_refl _)
  have hpost := hcall.run_exactly
  rw [h] at hpost
  exact hpost next hnext hmoved

/-- **From page to page there is less left to scan.** -/
theorem left_visit {t t' : Tally} {cursor : Option PointId} {next : PointId}
    (h : ((visit plan name t cursor).run (World.answer stop name) w).result = .ok (t', some next))
    (hmoved : cursor ≠ some next) :
    ((visit plan name t cursor).run (World.answer stop name) w).state.left name (some next) <
      w.left name cursor := by
  obtain ⟨page, hfetch, hrest, hstate⟩ := ok_of_andThen h
  obtain ⟨t, -, hend, hlast⟩ := ok_of_andThen hrest
  have hnext : page.next = some next := congrArg Prod.snd (Except.ok.inj hend)
  rw [visit, hstate, hlast]
  exact Nat.lt_of_le_of_lt (left_run (work plan name _ page.ids) _ _)
    (left_fetch hfetch hnext hmoved)

end Scan

/-! ## Visits of a run -/

/-- A visit that is made in a run: whose page it works on, and the world that it begins in. -/
structure Visit where
  name   : String
  tally  : Tally
  cursor : Option PointId
  world  : World

namespace Visit

variable (s : Sweeper) (v : Visit)

/-- What the visit asks and shows. -/
def talk : Talk (Except Halt (Tally × Option PointId)) := Scan.visit s.plan v.name v.tally v.cursor

def moments : List (Moment Call Call.Reply World) :=
  (v.talk s).moments (World.answer s.stop v.name) v.world

/-- The tally behind the page and the cursor of the next one, or the failure of the page. -/
def result : Except Halt (Tally × Option PointId) :=
  ((v.talk s).run (World.answer s.stop v.name) v.world).result

def state : World := ((v.talk s).run (World.answer s.stop v.name) v.world).state

/-- What the visit has asked and heard. -/
def said : List (Answered Call Call.Reply) := (v.moments s).map Moment.answered

/-- **Each call of a visit follows from the answer to the one before it**, and if the visit does not
    fail, its page is processed. -/
theorem said_follows :
    (v.said s).IsChain (fun a b => Follows v.name a b.1) ∧
      ∀ ends, v.result s = .ok ends → Processed s.plan v.name (v.said s) ends.2 := by
  obtain ⟨hchain, hpost⟩ := Dialogue.Keeps.isChain (World.answer s.stop v.name) v.world
    (Scan.steps_visit s.plan v.tally v.cursor) List.isChain_nil
  rw [List.nil_append, ← Dialogue.answered_moments] at hchain hpost
  refine ⟨hchain, fun ends hends => ?_⟩
  have hresult : ((Scan.visit s.plan v.name v.tally v.cursor).run (World.answer s.stop v.name)
      v.world).result = .ok ends := hends
  rw [hresult] at hpost
  exact hpost

/-- The failure of the scan whose stop event is set when the visit ends: that of the visit, or of a
    cursor that does not move, or the cancellation if there is another page. -/
def failure? : Option Failure :=
  match v.result s with
  | .error halt        => some halt.failure
  | .ok (_, some next) =>
      some (if v.cursor = some next then Scan.stuck v.name next else .cancelled (.text v.name))
  | .ok (_, none)      => none

end Visit

end OrphanSweep
