import Mathlib.Data.List.Forall2
import OrphanSweep.Proofs.Attempts
import OrphanSweep.Proofs.Cancellation
import OrphanSweep.Proofs.LastingFailures
import OrphanSweep.Proofs.Transcript

/-! # Malformed pages

    A page is read if every record names an id and the cursor does too, unless there is none
    (`RawPage.Reads`); otherwise it is refused with its first offending value (`RawPage.Offends`).
    The refusal cannot pass, so a scan that hears such a page ends on it (`endsOn_scan`): its request
    is the last one of the scan, and of a sweep whose scans are made one after the other. -/

namespace OrphanSweep

/-! ## Pages that are read -/

/-- A value names an id: it is the id, or a text that spells it. -/
inductive Value.Names : Value → PointId → Prop
  | id (p : PointId) : Names (.id p) p
  | text {s : String} {p : PointId} (h : PointId.parse? s = some p) : Names (.text s) p

/-- A page as the store sends it is read as a page of ids, one for each record in order, and with the
    id that the cursor names. -/
structure RawPage.Reads (raw : RawPage) (page : Page PointId) : Prop where
  ids  : List.Forall₂ Value.Names raw.records page.ids
  next : raw.next = .null ∧ page.next = none ∨ ∃ p, raw.next.Names p ∧ page.next = some p

/-- The first offending value of a page, and what is wrong with it. -/
inductive RawPage.Offends (raw : RawPage) : Value → String → Prop
  /-- A record names no id, and those before it do. -/
  | record {before after : List Value} {v : Value} (hrecords : raw.records = before ++ v :: after)
      (hbefore : ∀ u ∈ before, ∃ p, u.Names p) (hv : ∀ p, ¬ v.Names p) :
      Offends raw v Failure.badPointId
  /-- The cursor names no id, and all records do. -/
  | cursor (hrecords : ∀ v ∈ raw.records, ∃ p, v.Names p) (hsome : raw.next ≠ .null)
      (hnext : ∀ p, ¬ raw.next.Names p) : Offends raw raw.next Failure.badCursor

namespace Value

variable {name detail : String} {v : Value} {vs : List Value} {p : PointId} {failure : Failure}

theorem names_iff : v.Names p ↔ v.pointId? = some p := by
  constructor
  · rintro (_ | h)
    · rfl
    · exact h
  · intro h
    cases v with
    | id q => cases h; exact .id p
    | text s => exact .text h
    | _ => cases h

theorem pointId_of_names (h : v.Names p) : v.pointId name detail = .ok p := by
  rw [pointId, names_iff.mp h]

theorem pointId_of_nameless (h : ∀ p, ¬ v.Names p) :
    v.pointId name detail = .error (.malformed (.text name) v (.text detail)) := by
  simp only [names_iff] at h
  rw [pointId, Option.eq_none_iff_forall_ne_some.mpr h]

/-- Values are read if each of them names an id. -/
theorem pointIds_of_names {ids : List PointId} (h : List.Forall₂ Names vs ids) :
    pointIds name detail vs = .ok ids := by
  induction h with
  | nil => rfl
  | cons hv _ ih => rw [pointIds, pointId_of_names hv, ih]; rfl

/-- They are refused with the first that names none. -/
theorem pointIds_of_nameless {before after : List Value} (hbefore : ∀ u ∈ before, ∃ p, u.Names p)
    (h : ∀ p, ¬ v.Names p) : pointIds name detail (before ++ v :: after) =
      .error (.malformed (.text name) v (.text detail)) := by
  induction before with
  | nil => rw [List.nil_append, pointIds, pointId_of_nameless h]
  | cons u before ih =>
      obtain ⟨⟨p, hp⟩, hrest⟩ := List.forall_mem_cons.mp hbefore
      rw [List.cons_append, pointIds, pointId_of_names hp, ih hrest]
      rfl

/-- Either each value names an id, or one of them is the first that names none. -/
theorem names_or_first (vs : List Value) :
    (∃ ids, List.Forall₂ Names vs ids) ∨
      ∃ before v after, vs = before ++ v :: after ∧ (∀ u ∈ before, ∃ p, u.Names p) ∧
        ∀ p, ¬ v.Names p := by
  induction vs with
  | nil => exact Or.inl ⟨[], .nil⟩
  | cons v vs ih =>
      by_cases hv : ∃ p, v.Names p
      · rcases ih with ⟨ids, hids⟩ | ⟨before, u, after, rfl, hbefore, hu⟩
        · obtain ⟨p, hp⟩ := hv
          exact Or.inl ⟨p :: ids, .cons hp hids⟩
        · exact Or.inr ⟨v :: before, u, after, rfl, List.forall_mem_cons.mpr ⟨hv, hbefore⟩, hu⟩
      · exact Or.inr ⟨[], v, vs, rfl, List.forall_mem_nil _, not_exists.mp hv⟩

theorem exists_names_of_forall₂ {ids : List PointId} (h : List.Forall₂ Names vs ids) :
    ∀ v ∈ vs, ∃ p, v.Names p := by
  induction h with
  | nil => exact List.forall_mem_nil _
  | cons hv _ ih => exact List.forall_mem_cons.mpr ⟨⟨_, hv⟩, ih⟩

/-- A cursor other than none is read as an id. -/
theorem cursor_eq (hsome : v ≠ .null) :
    v.cursor name = (v.pointId name Failure.badCursor).map some := by
  cases v with
  | null => exact absurd rfl hsome
  | _ => rfl

end Value

namespace Page

variable {name : String} {raw : RawPage}

theorem ofRaw_of_reads {page : Page PointId} (h : raw.Reads page) :
    Page.ofRaw name raw = .ok page := by
  rw [ofRaw, Value.pointIds_of_names h.ids]
  obtain ⟨ids, next⟩ := page
  rcases h.next with ⟨hnull, hnone⟩ | ⟨p, hp, hnext⟩
  · obtain rfl : next = none := hnone
    rw [hnull]
    rfl
  · obtain rfl : next = some p := hnext
    have hsome : raw.next ≠ .null := by
      intro hnull
      rw [hnull] at hp
      cases hp
    rw [Value.cursor_eq hsome, Value.pointId_of_names hp]
    rfl

theorem ofRaw_of_offends {v : Value} {detail : String} (h : raw.Offends v detail) :
    Page.ofRaw name raw = .error (.malformed (.text name) v (.text detail)) := by
  cases h with
  | record hrecords hbefore hv =>
      rw [ofRaw, hrecords, Value.pointIds_of_nameless hbefore hv]
  | cursor hrecords hsome hnext =>
      rcases Value.names_or_first raw.records with ⟨ids, hids⟩ | ⟨before, u, after, hsplit, -, hu⟩
      · rw [ofRaw, Value.pointIds_of_names hids, Value.cursor_eq hsome,
          Value.pointId_of_nameless hnext]
        rfl
      · obtain ⟨p, hp⟩ := hrecords u (hsplit ▸ List.mem_append_right before List.mem_cons_self)
        exact absurd hp (hu p)

/-- **A page is read or has a first offending value.** -/
theorem reads_or_offends (raw : RawPage) :
    (∃ page, raw.Reads page) ∨ ∃ v detail, raw.Offends v detail := by
  rcases Value.names_or_first raw.records with ⟨ids, hids⟩ | ⟨before, v, after, hsplit, hbefore, hv⟩
  · by_cases hnull : raw.next = .null
    · exact Or.inl ⟨⟨ids, none⟩, hids, Or.inl ⟨hnull, rfl⟩⟩
    · by_cases hnext : ∃ p, raw.next.Names p
      · obtain ⟨p, hp⟩ := hnext
        exact Or.inl ⟨⟨ids, some p⟩, hids, Or.inr ⟨p, hp, rfl⟩⟩
      · exact Or.inr ⟨_, _, .cursor (Value.exists_names_of_forall₂ hids) hnull (not_exists.mp hnext)⟩
  · exact Or.inr ⟨v, _, .record hsplit hbefore hv⟩

theorem ofRaw_ok_iff {page : Page PointId} : Page.ofRaw name raw = .ok page ↔ raw.Reads page := by
  refine ⟨fun h => ?_, ofRaw_of_reads⟩
  rcases reads_or_offends raw with ⟨other, hreads⟩ | ⟨v, detail, hoffends⟩
  · rw [ofRaw_of_reads hreads] at h
    cases h
    exact hreads
  · rw [ofRaw_of_offends hoffends] at h
    cases h

theorem ofRaw_error_iff {failure : Failure} : Page.ofRaw name raw = .error failure ↔
    ∃ v detail, raw.Offends v detail ∧ failure = .malformed (.text name) v (.text detail) := by
  constructor
  · intro h
    rcases reads_or_offends raw with ⟨other, hreads⟩ | ⟨v, detail, hoffends⟩
    · rw [ofRaw_of_reads hreads] at h
      cases h
    · rw [ofRaw_of_offends hoffends] at h
      exact ⟨v, detail, hoffends, (Except.error.inj h).symm⟩
  · rintro ⟨v, detail, hoffends, rfl⟩
    exact ofRaw_of_offends hoffends

end Page

/-- A page is read exactly if all of its values are fine. -/
theorem RawPage.exists_reads_iff {raw : RawPage} : (∃ page, raw.Reads page) ↔
    (∀ v ∈ raw.records, ∃ p, v.Names p) ∧ (raw.next ≠ .null → ∃ p, raw.next.Names p) := by
  constructor
  · rintro ⟨page, hids, hnext⟩
    refine ⟨Value.exists_names_of_forall₂ hids, fun hsome => ?_⟩
    rcases hnext with ⟨hnull, -⟩ | ⟨p, hp, -⟩
    · exact absurd hnull hsome
    · exact ⟨p, hp⟩
  · rintro ⟨hrecords, hnext⟩
    rcases Page.reads_or_offends raw with hreads | ⟨v, detail, hoffends⟩
    · exact hreads
    · cases hoffends with
      | record hsplit hbefore hv =>
          obtain ⟨p, hp⟩ := hrecords v (hsplit ▸ List.mem_append_right _ List.mem_cons_self)
          exact absurd hp (hv p)
      | cursor _ hsome hnone =>
          obtain ⟨p, hp⟩ := hnext hsome
          exact absurd hp (hnone p)

/-! ## Scrolls -/

namespace Collection

/-- To store a collection that reads as the one in its place does changes no reading. -/
theorem filterMap_store {β : Type} (read : Collection → Option β) {c : Collection}
    (hnone : read { name := c.name } = none) {cs : List Collection}
    (hsame : read c = read (find c.name cs)) :
    (c.store cs).filterMap read = cs.filterMap read := by
  induction cs with
  | nil => rw [store, List.filterMap_cons, hsame, find, hnone]
  | cons d cs ih =>
      rw [find] at hsame
      rw [store]
      split
      · rename_i hname
        rw [if_pos hname] at hsame
        rw [List.filterMap_cons, List.filterMap_cons, hsame]
      · rename_i hname
        rw [if_neg hname] at hsame
        rw [List.filterMap_cons, List.filterMap_cons, ih hsame]

end Collection

/-- Nudges show nothing but signals. -/
theorem Strike.shows_nudgeAll (nudges : List Nudge) (p : Signals) :
    ∃ signals : List Signal, (nudgeAll p nudges).1 =
      signals.map fun signal => .print (Signals.signalLine signal) := by
  induction nudges generalizing p with
  | nil => exact ⟨[], rfl⟩
  | cons nudge nudges ih =>
      obtain ⟨signals, hrest⟩ := ih (Strike.nudge p nudge).2
      cases nudge with
      | cancel event => exact ⟨signals, hrest⟩
      | signal signal =>
          rw [nudgeAll, hrest, Strike.nudge, Signals.firedEvents]
          cases p.handlers.get signal with
          | outside => exact ⟨signals, rfl⟩
          | stop event => exact ⟨signal :: signals, rfl⟩

namespace World

/-- A scroll leaves all points as they are. -/
theorem points_scroll (stop : Nat) (name : String) (cursor : Option PointId) (limit : Int)
    (w : World) : (answer stop name (.scroll cursor limit) w).state.points = w.points := by
  have hpoints : ∀ contents : Contents,
      (Contents.scroll name (cursor.getD .nil) limit contents).2.points? = contents.points? := by
    rintro (_ | held | (_ | ⟨answer, rest⟩)) <;> rfl
  refine Collection.filterMap_store _ rfl ?_
  dsimp only
  rw [name_collection]
  have hstate := ((w.schedule .scroll name ((w.collection name).scrolls + 1)).around_state
    (Contents.scroll name (cursor.getD .nil) limit) (w.collection name).contents)
  show _ = (w.collection name).contents.points?.map ((w.collection name).name, ·)
  rw [name_collection]
  rcases hstate with hstate | hstate
  · rw [hstate]
  · rw [hstate, hpoints]

end World

/-! ## Scans and sweeps that end with a scroll -/

theorem Line.events_map_shown {Ask : Type} {Reply : Ask → Type} (request : Ask → Option Event)
    (shown : List Event) :
    Line.events request (shown.map (Line.shown : Event → Line Ask Reply)) = shown := by
  induction shown with
  | nil => rfl
  | cons event shown ih => exact congrArg (event :: ·) ih

/-- What was done ends with a request, which was made in a moment: behind it only signals are shown,
    and the points and the registry are as they were before it. -/
structure EndsWith (request : Event) (m : Moment Call Call.Reply World) (log : List Event)
    (last : World) : Prop where
  log      : ∃ (shown : List Event) (signals : List Signal),
    log = shown ++ request :: signals.map fun signal => .print (Signals.signalLine signal)
  state    : last = m.after
  points   : last.points = m.before.points
  registry : last.registry = m.before.registry

theorem EndsWith.behind {request : Event} {m : Moment Call Call.Reply World} {log : List Event}
    {last : World} (h : EndsWith request m log last) (before : List Event) :
    EndsWith request m (before ++ log) last := by
  obtain ⟨⟨shown, signals, rfl⟩, hstate, hpoints, hregistry⟩ := h
  exact ⟨⟨before ++ shown, signals, (List.append_assoc _ _ _).symm⟩, hstate, hpoints, hregistry⟩

/-- The request for a page of a collection. -/
def scrollRequest (name : String) (cursor : Option PointId) (limit : Int) : Event :=
  .scroll
    { collection := name, offset := ScrollRequest.offsetOf (cursor.map PointId.text), limit }

namespace Sweeper

variable (s : Sweeper) {cursor : Option PointId} {limit : Int} {raw : RawPage}
variable {v : Value} {detail : String}

/-- A scan that hears a malformed page ends with it. -/
theorem endsWith_scanOne {name : String} {w : World}
    {earlier later : List (Moment Call Call.Reply World)} {m : Moment Call Call.Reply World}
    (hm : (scan s.plan name (w.collection name).contents.pageBound).moments
      (World.answer s.stop name) w = earlier ++ m :: later)
    (hheard : m.answered = ⟨.scroll cursor limit, .ok raw⟩) (hoffends : raw.Offends v detail) :
    later = [] ∧ Halted (.malformed (.text name) v (.text detail)) (s.scanOne name w).result ∧
      EndsWith (scrollRequest name cursor limit) m
        (ScanRecord.events ⟨name, (s.scanOne name w).transcript⟩) (s.scanOne name w).state := by
  obtain ⟨ask, before, reply, after⟩ := m
  cases hheard
  have hfailure : Call.failure? name (.scroll cursor limit) (.ok raw) =
      some (.malformed (.text name) v (.text detail)) :=
    congrArg Failure.of? (Page.ofRaw_of_offends hoffends)
  obtain ⟨hlater, hresult, hanswer, hstate, lines, hlines⟩ :=
    (Scan.endsOn_scan s.plan name _).run hfailure rfl hm
  obtain ⟨signals, hsignals⟩ := Strike.shows_nudgeAll
    ((before.collection name).strike before.schedule name (.scroll cursor limit)).nudges
    before.signals
  have hafter : after = (World.answer s.stop name (.scroll cursor limit) before).state :=
    (congrArg Outcome.state hanswer).symm
  refine ⟨hlater, hresult, ⟨Line.events (Call.request name) lines, signals, ?_⟩, hstate, ?_, ?_⟩
  · show Line.events (Call.request name) (s.scanOne name w).transcript = _
    rw [show (s.scanOne name w).transcript = _ from hlines, Line.events_append, Dialogue.heard,
      World.log_answer, hsignals]
    show _ ++ scrollRequest name cursor limit :: Line.events (Call.request name) _ = _
    rw [Line.events_map_shown]
  · rw [show (s.scanOne name w).state = _ from hstate, hafter, World.points_scroll]
  · rw [show (s.scanOne name w).state = _ from hstate, hafter, World.registry_answer]

/-- So do scans that are made one after the other. -/
theorem endsWith_scanEach (names : List String) :
    ∀ {w : World} {earlier later : List Scene} {scene : Scene},
      s.scenesEach names w = earlier ++ scene :: later →
      scene.moment.answered = ⟨.scroll cursor limit, .ok raw⟩ → raw.Offends v detail →
      let scans := s.scanEach names w
      later = [] ∧ scans.result = .error (.malformed (.text scene.name) v (.text detail)) ∧
        EndsWith (scrollRequest scene.name cursor limit) scene.moment
          (scans.records.flatMap ScanRecord.events) scans.state := by
  induction names with
  | nil =>
      intro w earlier later scene h
      cases earlier <;> cases h
  | cons name others ih =>
      intro w earlier later scene h hheard hoffends
      rw [scenesEach] at h
      rcases split_append h with ⟨rest, hhere, rfl⟩ | ⟨prior, rfl, hbehind⟩
      · -- the scene is one of the first scan, which fails, so no other is made
        obtain ⟨begun, more, hmoments, rfl, hmore⟩ := List.map_eq_append_iff.mp hhere
        obtain ⟨m, done, rfl, rfl, rfl⟩ := List.map_eq_cons_iff.mp hmore
        obtain ⟨hdone, ⟨reached, hresult⟩, hends⟩ := s.endsWith_scanOne hmoments hheard hoffends
        rw [hdone, hresult, scanEach_error others hresult]
        dsimp only
        rw [List.flatMap_singleton]
        exact ⟨rfl, rfl, hends⟩
      · -- the first scan has gone through
        cases hresult : (s.scanOne name w).result with
        | error halt =>
            rw [hresult] at hbehind
            cases prior <;> cases hbehind
        | ok tally =>
            rw [hresult] at hbehind
            obtain ⟨hlater, hfailed, hends⟩ := ih hbehind hheard hoffends
            rw [scanEach_ok others hresult]
            exact ⟨hlater, by rw [hfailed]; rfl, hends.behind _⟩

/-- So does a run whose scans are made one after the other. -/
theorem endsWith_run (turns : List Nat) (allowed : List String) (w : World)
    (hone : s.isShared (selected allowed w.hosted) = false) {earlier later : List Scene}
    {scene : Scene} (hscene : s.scenes allowed w = earlier ++ scene :: later)
    (hheard : scene.moment.answered = ⟨.scroll cursor limit, .ok raw⟩)
    (hoffends : raw.Offends v detail) :
    let swept := s.run turns allowed w
    later = [] ∧ swept.result = .error (.malformed (.text scene.name) v (.text detail)) ∧
      EndsWith (scrollRequest scene.name cursor limit) scene.moment swept.log swept.state := by
  intro swept
  obtain ⟨-, hok | ⟨-, failure, herror⟩⟩ :=
    s.listing_spec { w with aborted := false } False (fun h => h.elim)
  · obtain ⟨hscanned, hlog⟩ := s.run_of_each turns allowed hok hone
    rw [scenes, hok] at hscene
    obtain ⟨hlater, hresult, hends⟩ := s.endsWith_scanEach _ hscene hheard hoffends
    rw [show swept.log = _ from hlog, show swept.result = _ from hscanned.result,
      show swept.state = _ from hscanned.state, hresult]
    exact ⟨hlater, rfl, hends.behind _⟩
  · rw [scenes, herror] at hscene
    cases earlier <;> cases hscene

/-- **A malformed page is refused as a whole and never asked for again.**  A page is read exactly if
    its records and its cursor, unless there is none, name ids; it has those ids, in order.  Any
    other page is refused with its first offending value.  In a scan, and in a run with its scans one
    after the other, the scroll that brings such a page is the last that is asked: the scan and the
    run fail with the refusal, nothing but signals is shown behind the request, and what was done
    before is left as it is, however many retries are allowed. -/
theorem malformed_page_is_final (turns : List Nat) (allowed : List String) (w : World) :
    let swept := s.run turns allowed w
    (∀ (name : String) (cursor : Option String) (limit : Int) (raw : RawPage),
      let made := (VectorStore.scroll name cursor limit (.ok raw)).2
      (∀ page, made = .ok page ↔ raw.Reads page) ∧
      ((∃ page, made = .ok page) ↔
        (∀ v ∈ raw.records, ∃ p, v.Names p) ∧ (raw.next ≠ .null → ∃ p, raw.next.Names p)) ∧
      ∀ failure, made = .error failure ↔
        ∃ v detail, raw.Offends v detail ∧ failure = .malformed (.text name) v (.text detail)) ∧
    (∀ name, let scanned := s.scanOne name w
      let moments := (scan s.plan name (w.collection name).contents.pageBound).moments
        (World.answer s.stop name) w
      moments.map Moment.answered = Line.answered scanned.transcript ∧
      ∀ earlier m later cursor limit raw v detail, moments = earlier ++ m :: later →
        m.answered = ⟨.scroll cursor limit, .ok raw⟩ → raw.Offends v detail →
        later = [] ∧ Halted (.malformed (.text name) v (.text detail)) scanned.result ∧
          EndsWith (scrollRequest name cursor limit) m
            (ScanRecord.events ⟨name, scanned.transcript⟩) scanned.state) ∧
    (s.isShared (selected allowed w.hosted) = false →
      (s.scenes allowed w).map (fun e => (e.name, e.moment.answered)) =
          swept.records.flatMap (fun r => r.said.map fun a => (r.name, a)) ∧
      ∀ earlier scene later cursor limit raw v detail,
        s.scenes allowed w = earlier ++ scene :: later →
        scene.moment.answered = ⟨.scroll cursor limit, .ok raw⟩ → raw.Offends v detail →
        later = [] ∧ swept.result = .error (.malformed (.text scene.name) v (.text detail)) ∧
          EndsWith (scrollRequest scene.name cursor limit) scene.moment swept.log swept.state) := by
  intro swept
  refine ⟨?_, ?_, ?_⟩
  · intro name cursor limit raw made
    have hmade : made = Page.ofRaw name raw := rfl
    rw [hmade]
    refine ⟨fun page => Page.ofRaw_ok_iff, ?_, fun failure => Page.ofRaw_error_iff⟩
    exact (exists_congr fun page => Page.ofRaw_ok_iff).trans RawPage.exists_reads_iff
  · intro name scanned moments
    refine ⟨Dialogue.answered_moments _ w, ?_⟩
    intro earlier m later cursor limit raw v detail hm hheard hoffends
    exact s.endsWith_scanOne hm hheard hoffends
  · intro hone
    refine ⟨(s.caught_run turns allowed w hone).1, ?_⟩
    intro earlier scene later cursor limit raw v detail hscene hheard hoffends
    exact s.endsWith_run turns allowed w hone hscene hheard hoffends

/-- A page with a number behind a good id. -/
def withNumber : RawPage where
  records := [.id ((PointId.ofNat? 1).getD .nil), .int 7, .text "x"]

/-- A world with a collection of two pages, of which the second is malformed. -/
def withNumberBehind : World where
  collections :=
    [{ name := "a"
       contents := .scripted [.ok { next := .id ((PointId.ofNat? 1).getD .nil) }, .ok withNumber] }]
  registry := { column_named := Registry.defaultColumn_named }

/-- The good id is not looked up, the page is not asked for again although it might be, and the run
    ends with the request for it. -/
theorem malformed_page_is_final_second :
    let s : Sweeper := { plan := { maxRetries := 2 } }
    let cursor := (PointId.ofNat? 1).getD .nil
    let swept := s.run [] [] withNumberBehind
    s.isShared (selected [] withNumberBehind.hosted) = false ∧
      withNumber.Offends (.int 7) Failure.badPointId ∧
      swept.result = .error (.malformed (.text "a") (.int 7) (.text Failure.badPointId)) ∧
      ∃ earlier scene, s.scenes [] withNumberBehind = earlier ++ [scene] ∧
        scene.moment.answered = ⟨.scroll (some cursor) 1000, .ok withNumber⟩ ∧
        EndsWith (scrollRequest "a" (some cursor) 1000) scene.moment swept.log swept.state := by
  have hlast : ((({ plan := { maxRetries := 2 } } : Sweeper).scenes [] withNumberBehind).map
      fun e => (e.name, e.moment.answered)).getLast? =
        some ("a", ⟨.scroll (some ((PointId.ofNat? 1).getD .nil)) 1000, .ok withNumber⟩) := rfl
  intro s cursor swept
  have hsplit : withNumber.records = [.id cursor] ++ .int 7 :: [.text "x"] := rfl
  have hoffends : withNumber.Offends (.int 7) Failure.badPointId :=
    .record hsplit (List.forall_mem_singleton.mpr ⟨cursor, .id cursor⟩) nofun
  rw [List.getLast?_map, Option.map_eq_some_iff] at hlast
  obtain ⟨scene, hscene, htold⟩ := hlast
  obtain ⟨earlier, hscene⟩ := List.getLast?_eq_some_iff.mp hscene
  obtain ⟨hname, hheard⟩ := Prod.mk.inj htold
  have hone : s.isShared (selected [] withNumberBehind.hosted) = false := by decide +kernel
  obtain ⟨-, hfinal⟩ := (s.malformed_page_is_final [] [] withNumberBehind).2.2 hone
  obtain ⟨-, hresult, hends⟩ := hfinal _ _ _ _ _ _ _ _ hscene hheard hoffends
  rw [hname] at hresult hends
  exact ⟨hone, hoffends, hresult, earlier, scene, hscene, hheard, hends⟩

end Sweeper

end OrphanSweep
