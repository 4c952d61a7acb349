import OrphanSweep.Proofs.ExactRun
import OrphanSweep.Proofs.Visit
import OrphanSweep.Proofs.Watch

/-! # Cancellation

    A scan heeds the stop event before each page and at no other time.  So when the event becomes
    set, the visit in progress goes on to its end, and nothing but the question whether to stop is
    asked after it: by the same scan if there is another page, or by the next one if there is
    another collection (`cancellation_takes_effect`).  A sweep that finds the event set scans
    nothing. -/

namespace OrphanSweep

/-- The failure of an end, if it is one. -/
def Failure.of? {α : Type} : Except Failure α → Option Failure
  | .ok _          => none
  | .error failure => some failure

/-- The failure of a part of a scan, if it has halted. -/
def Halt.of? {α : Type} : Except Halt α → Option Failure
  | .ok _       => none
  | .error halt => some halt.failure

theorem Failure.of?_map {α β : Type} (f : α → β) (ends : Except Failure α) :
    Failure.of? (ends.map f) = Failure.of? ends := by
  cases ends <;> rfl

/-- A place in a list that is put together is in its first part or in its second one. -/
theorem split_append {α : Type} {first second earlier later : List α} {x : α}
    (h : first ++ second = earlier ++ x :: later) :
    (∃ rest, first = earlier ++ x :: rest ∧ later = rest ++ second) ∨
      ∃ prior, earlier = first ++ prior ∧ second = prior ++ x :: later := by
  rcases List.append_eq_append_iff.mp h with ⟨prior, hearlier, hsecond⟩ | ⟨more, hfirst, hmore⟩
  · exact Or.inr ⟨prior, hearlier, hsecond⟩
  · cases more with
    | nil => exact Or.inr ⟨[], by simpa using hfirst.symm, by simpa using hmore.symm⟩
    | cons y rest =>
        obtain ⟨rfl, hlater⟩ := List.cons.inj hmore
        exact Or.inl ⟨rest, hfirst, hlater⟩

/-! ## Scans that are told to stop -/

namespace Scan

open Dialogue

variable (plan : Plan) (name : String) {stop : Nat} {w : World}

/-- A scan that is told to stop before a page stops there. -/
theorem pages_of_stopping (h : w.stopping stop = true) (bound : Nat) (t : Tally)
    (cursor : Option PointId) :
    ((pages plan name (bound + 1) t cursor).run (World.answer stop name) w).result =
        .error ⟨.cancelled (.text name), t⟩ ∧
      ((pages plan name (bound + 1) t cursor).run (World.answer stop name) w).state = w ∧
      (pages plan name (bound + 1) t cursor).moments (World.answer stop name) w =
        [⟨.stopping, w, true, w⟩] := by
  rw [pages_succ, run, moments]
  simp only [World.answer, h]
  exact ⟨rfl, rfl, rfl⟩

/-- A scan that is not told to stop goes on with the page. -/
theorem pages_of_going (h : w.stopping stop = false) (bound : Nat) (t : Tally)
    (cursor : Option PointId) :
    let talk := (visit plan name t cursor).andThen (onward plan name bound cursor)
    ((pages plan name (bound + 1) t cursor).run (World.answer stop name) w).result =
        (talk.run (World.answer stop name) w).result ∧
      (pages plan name (bound + 1) t cursor).moments (World.answer stop name) w =
        ⟨.stopping, w, false, w⟩ :: talk.moments (World.answer stop name) w := by
  rw [pages_succ, run, moments]
  simp only [World.answer, h]
  exact ⟨rfl, rfl⟩

/-- Around its pages a scan only shows its first and its last line. -/
theorem scan_of_pages (bound : Nat) (answer : Answering Call Call.Reply World) (w : World) :
    let all := pages plan name bound { collection := name } none
    (scan plan name bound).moments answer w = all.moments answer w ∧
      Halt.of? ((scan plan name bound).run answer w).result =
        Halt.of? (all.run answer w).result := by
  intro all
  cases hends : (all.run answer w).result with
  | error halt =>
      obtain ⟨hresult, -, hmoments⟩ := andThen_of_error (close plan name) hends
      exact ⟨hmoments, congrArg Halt.of? hresult⟩
  | ok t =>
      obtain ⟨hresult, -, hmoments⟩ := andThen_of_ok (close plan name) hends
      exact ⟨hmoments.trans (List.append_nil _), (congrArg Halt.of? hresult).trans rfl⟩

end Scan

theorem World.stopping_of_isSet {w : World} {stop : Nat} (h : w.signals.isSet stop = true) :
    w.stopping stop = true := by
  rw [stopping, h, Bool.true_or]

/-! ## The visit in which the event becomes set -/

/-- A moment of scans that are made one after the other: the collection that is scanned, and those
    whose turn comes later. -/
structure Scene where
  name   : String
  others : List String
  moment : Moment Call Call.Reply World

/-- Another moment of the same scan. -/
def Scene.beside (scene : Scene) (m : Moment Call Call.Reply World) : Scene :=
  { scene with moment := m }

namespace Sweeper

variable (s : Sweeper)

/-- A moment is one of a visit: what came before it is some questions and the beginning of the
    visit, and what comes after it is the rest of the visit and questions whether to stop. -/
def Caught (visit : Visit) (earlier : List (Moment Call Call.Reply World))
    (m : Moment Call Call.Reply World) (later : List (Moment Call Call.Reply World)) : Prop :=
  ∃ prior begun done rest, visit.moments s = begun ++ m :: done ∧ earlier = prior ++ begun ∧
    later = done ++ rest ∧ ∀ e ∈ rest, e.ask = .stopping

variable {s} {name : String} {visit : Visit} {m : Moment Call Call.Reply World}
variable {earlier later : List (Moment Call Call.Reply World)}

theorem Caught.behind (h : s.Caught visit earlier m later)
    (more : List (Moment Call Call.Reply World)) : s.Caught visit (more ++ earlier) m later := by
  obtain ⟨prior, begun, done, rest, hvisit, rfl, hlater, hrest⟩ := h
  exact ⟨more ++ prior, begun, done, rest, hvisit, (List.append_assoc _ _ _).symm, hlater, hrest⟩

variable (s)

/-- An event that is set in a moment of a run is set at its end. -/
theorem isSet_of_moment {α : Type} {talk : Talk α} {w : World}
    (hm : m ∈ talk.moments (World.answer s.stop name) w)
    (h : m.after.signals.isSet s.stop = true) :
    (talk.run (World.answer s.stop name) w).state.signals.isSet s.stop = true := by
  let told : World → Prop := fun v => v.signals.isSet s.stop = true
  have hanswer : ∀ call v, told v → told (World.answer s.stop name call v).state :=
    fun call v hv => (World.onward_answer s.stop name call v).isSet _ hv
  exact Dialogue.holds_of_moment hanswer talk hm h

/-- A scan that has made a visit ends as the visit does, if the event is set by then and the bound
    has room for another page; it asks at most whether to stop. -/
theorem ends_of_visit (visit : Visit) {bound : Nat}
    (hroom : visit.world.left visit.name visit.cursor < bound + 1)
    (hset : (visit.state s).signals.isSet s.stop = true) :
    let talk := (visit.talk s).andThen (Scan.onward s.plan visit.name bound visit.cursor)
    Halt.of? (talk.run (World.answer s.stop visit.name) visit.world).result = visit.failure? s ∧
      ∃ rest, talk.moments (World.answer s.stop visit.name) visit.world =
        visit.moments s ++ rest ∧ ∀ e ∈ rest, e.ask = .stopping := by
  dsimp only
  cases hresult : ((visit.talk s).run (World.answer s.stop visit.name) visit.world).result with
  | error halt =>
      have hhere : visit.result s = .error halt := hresult
      obtain ⟨hend, -, hall⟩ := Dialogue.andThen_of_error
        (Scan.onward s.plan visit.name bound visit.cursor) hresult
      rw [hend, hall, Visit.failure?, hhere]
      exact ⟨rfl, [], (List.append_nil _).symm, List.forall_mem_nil _⟩
  | ok ends =>
      have hhere : visit.result s = .ok ends := hresult
      obtain ⟨hend, -, hall⟩ := Dialogue.andThen_of_ok
        (Scan.onward s.plan visit.name bound visit.cursor) hresult
      rw [hend, hall, Visit.failure?, hhere]
      obtain ⟨t, next⟩ := ends
      cases next with
      | none => exact ⟨rfl, [], rfl, List.forall_mem_nil _⟩
      | some next =>
          dsimp only [Scan.onward]
          split
          · exact ⟨rfl, [], rfl, List.forall_mem_nil _⟩
          · rename_i hmoved
            -- there is room for the next page, and the scan stops before it
            have hleft := Scan.left_visit hhere hmoved
            obtain ⟨bound, rfl⟩ : ∃ fewer, bound = fewer + 1 := ⟨bound - 1, by omega⟩
            obtain ⟨hend, -, hall⟩ := Scan.pages_of_stopping s.plan visit.name
              (World.stopping_of_isSet hset) bound t (some next)
            refine ⟨congrArg Halt.of? hend, [⟨.stopping, visit.state s, true, visit.state s⟩],
              congrArg (_ ++ ·) hall, ?_⟩
            intro e he
            rw [List.mem_singleton.mp he]

/-- A moment of a scan from a visit on is one of that visit, or the visit has another page behind it
    and the moment is one of the scan from there on. -/
theorem moment_of_visit (visit : Visit) (bound : Nat)
    (h : ((visit.talk s).andThen (Scan.onward s.plan visit.name bound visit.cursor)).moments
      (World.answer s.stop visit.name) visit.world = earlier ++ m :: later) :
    (∃ done, visit.moments s = earlier ++ m :: done) ∨
      ∃ t next prior, visit.result s = .ok (t, some next) ∧ visit.cursor ≠ some next ∧
        earlier = visit.moments s ++ prior ∧
        (Scan.pages s.plan visit.name bound t (some next)).moments (World.answer s.stop visit.name)
          (visit.state s) = prior ++ m :: later := by
  rw [Dialogue.andThen, Dialogue.moments_bind] at h
  rcases split_append h with ⟨done, hvisit, -⟩ | ⟨prior, hearlier, hbehind⟩
  · exact Or.inl ⟨done, hvisit⟩
  · right
    have hsome : ∀ {moments : List (Moment Call Call.Reply World)}, moments = [] →
        moments ≠ prior ++ m :: later := by
      rintro _ rfl hnil
      cases prior <;> cases hnil
    cases hends : visit.result s with
    | error halt =>
        rw [show (Dialogue.run _ (visit.talk s) visit.world).result = _ from hends] at hbehind
        exact absurd hbehind (hsome rfl)
    | ok ends =>
        rw [show (Dialogue.run _ (visit.talk s) visit.world).result = _ from hends] at hbehind
        obtain ⟨t, next⟩ := ends
        cases next with
        | none => exact absurd hbehind (hsome rfl)
        | some next =>
            dsimp only [Scan.onward] at hbehind
            split at hbehind
            · exact absurd hbehind (hsome rfl)
            · rename_i hmoved
              exact ⟨t, next, prior, rfl, hmoved, hearlier, hbehind⟩

/-- What a scan does behind a visit with another page behind it. -/
theorem result_behind_visit (visit : Visit) (bound : Nat) {t : Tally} {next : PointId}
    (h : visit.result s = .ok (t, some next)) (hmoved : visit.cursor ≠ some next) :
    (((visit.talk s).andThen (Scan.onward s.plan visit.name bound visit.cursor)).run
        (World.answer s.stop visit.name) visit.world).result =
      ((Scan.pages s.plan visit.name bound t (some next)).run (World.answer s.stop visit.name)
        (visit.state s)).result := by
  have hresult : ((visit.talk s).run (World.answer s.stop visit.name) visit.world).result =
      .ok (t, some next) := h
  rw [(Dialogue.andThen_of_ok _ hresult).1, Scan.onward, if_neg hmoved]
  rfl

/-- The moment in which the event becomes set is one of the visit in progress, and what comes after
    the visit is at most a question whether to stop. -/
theorem caught_visit (visit : Visit) {bound : Nat} {done : List (Moment Call Call.Reply World)}
    (hroom : visit.world.left visit.name visit.cursor < bound + 1)
    (hvisit : visit.moments s = earlier ++ m :: done)
    (hafter : m.after.signals.isSet s.stop = true) :
    let talk := (visit.talk s).andThen (Scan.onward s.plan visit.name bound visit.cursor)
    talk.moments (World.answer s.stop visit.name) visit.world = earlier ++ m :: later →
      s.Caught visit earlier m later ∧
        Halt.of? (talk.run (World.answer s.stop visit.name) visit.world).result =
          visit.failure? s := by
  intro talk hmoments
  have hmem : m ∈ visit.moments s := by
    rw [hvisit]
    exact List.mem_append_right _ List.mem_cons_self
  obtain ⟨hend, rest, hmade, hasks⟩ := s.ends_of_visit visit hroom (s.isSet_of_moment hmem hafter)
  have hboth : earlier ++ m :: later = earlier ++ m :: (done ++ rest) := by
    rw [← hmoments, hmade, hvisit, List.append_assoc, List.cons_append]
  have hlater : later = done ++ rest := (List.cons.inj (List.append_cancel_left hboth)).2
  exact ⟨⟨[], earlier, done, rest, hvisit, rfl, hlater, hasks⟩, hend⟩

/-- **The loop.**  The moment in which the event becomes set is one of a visit, and the scan ends as
    that visit does. -/
theorem caught_pages (bound : Nat) :
    ∀ (t : Tally) (cursor : Option PointId) (w : World)
      (earlier : List (Moment Call Call.Reply World)), w.left name cursor < bound →
      (Scan.pages s.plan name bound t cursor).moments (World.answer s.stop name) w =
        earlier ++ m :: later →
      m.before.signals.isSet s.stop = false → m.after.signals.isSet s.stop = true →
      ∃ visit : Visit, visit.name = name ∧ s.Caught visit earlier m later ∧
        Halt.of? ((Scan.pages s.plan name bound t cursor).run (World.answer s.stop name) w).result =
          visit.failure? s := by
  induction bound with
  | zero => intro t cursor w earlier hroom; exact absurd hroom (Nat.not_lt_zero _)
  | succ bound ih =>
      intro t cursor w earlier hroom hmoments hbefore hafter
      -- the event is not set by the question whether it is
      have hchanged : ∀ b, m ≠ ⟨.stopping, w, b, w⟩ := by
        rintro b rfl
        rw [hafter] at hbefore
        cases hbefore
      cases hstop : w.stopping s.stop with
      | true =>
          rw [(Scan.pages_of_stopping s.plan name hstop bound t cursor).2.2] at hmoments
          rcases List.append_eq_singleton_iff.mp hmoments.symm with ⟨-, hm⟩ | ⟨-, hm⟩
          · exact absurd (List.cons.inj hm).1 (hchanged true)
          · cases hm
      | false =>
          obtain ⟨hresult, hall⟩ := Scan.pages_of_going s.plan name hstop bound t cursor
          rw [hall] at hmoments
          rw [hresult]
          cases earlier with
          | nil => exact absurd (List.cons.inj hmoments).1.symm (hchanged false)
          | cons first earlier =>
              obtain ⟨-, hrest⟩ := List.cons.inj hmoments
              let visit : Visit := ⟨name, t, cursor, w⟩
              rcases s.moment_of_visit visit bound hrest with
                ⟨done, hvisit⟩ | ⟨t, next, prior, hends, hmoved, rfl, hbehind⟩
              · obtain ⟨hcaught, hend⟩ := s.caught_visit visit hroom hvisit hafter hrest
                exact ⟨visit, rfl, hcaught.behind [_], hend⟩
              · have hleft : (visit.state s).left name (some next) < bound :=
                  Nat.lt_of_lt_of_le (Scan.left_visit hends hmoved) (Nat.le_of_lt_succ hroom)
                obtain ⟨later', hname, hcaught, hend⟩ :=
                  ih t (some next) (visit.state s) prior hleft hbehind hbefore hafter
                exact ⟨later', hname, hcaught.behind (_ :: visit.moments s),
                  (congrArg Halt.of? (s.result_behind_visit visit bound hends hmoved)).trans hend⟩

/-- The scan of a collection has room for every page, so it ends as the visit does in which the
    event becomes set. -/
theorem caught_scan {w : World} {earlier : List (Moment Call Call.Reply World)}
    (hmoments : (scan s.plan name (w.collection name).contents.pageBound).moments
      (World.answer s.stop name) w = earlier ++ m :: later)
    (hbefore : m.before.signals.isSet s.stop = false)
    (hafter : m.after.signals.isSet s.stop = true) :
    ∃ visit : Visit, visit.name = name ∧ s.Caught visit earlier m later ∧
      Halt.of? (s.scanOne name w).result = visit.failure? s := by
  have hroom : w.left name none < (w.collection name).contents.pageBound := by
    rw [Contents.pageBound_eq]
    exact Nat.lt_succ_self _
  obtain ⟨hall, hend⟩ := Scan.scan_of_pages s.plan name (w.collection name).contents.pageBound
    (World.answer s.stop name) w
  rw [hall] at hmoments
  obtain ⟨visit, hname, hcaught, hfailure⟩ :=
    s.caught_pages _ _ none w earlier hroom hmoments hbefore hafter
  exact ⟨visit, hname, hcaught, hend.trans hfailure⟩

/-! ## Scans one after the other -/

/-- The scenes of scans one after the other, up to the first scan that fails. -/
def scenesEach : List String → World → List Scene
  | [], _              => []
  | name :: others, w =>
      ((scan s.plan name (w.collection name).contents.pageBound).moments
        (World.answer s.stop name) w).map (fun m => ⟨name, others, m⟩) ++
      match (s.scanOne name w).result with
      | .ok _    => scenesEach others (s.scanOne name w).state
      | .error _ => []

/-- The scenes of a run whose scans are made one after the other. -/
def scenes (allowed : List String) (w : World) : List Scene :=
  let listed := s.listing { w with aborted := false }
  match listed.result with
  | .ok hosted => s.scenesEach (selected allowed hosted) listed.state
  | .error _   => []

/-- The scenes are the questions of the records, with their answers. -/
theorem said_scenesEach (names : List String) :
    ∀ w, (s.scenesEach names w).map (fun e => (e.name, e.moment.answered)) =
      (s.scanEach names w).records.flatMap fun r => r.said.map fun a => (r.name, a) := by
  induction names with
  | nil => intro w; rfl
  | cons name others ih =>
      intro w
      have hfirst : ((scan s.plan name (w.collection name).contents.pageBound).moments
          (World.answer s.stop name) w).map Moment.answered =
            Line.answered (s.scanOne name w).transcript := Dialogue.answered_moments _ w
      have htold : (((scan s.plan name (w.collection name).contents.pageBound).moments
          (World.answer s.stop name) w).map (fun m => (⟨name, others, m⟩ : Scene))).map
            (fun e => (e.name, e.moment.answered)) =
          (ScanRecord.said ⟨name, (s.scanOne name w).transcript⟩).map fun a => (name, a) := by
        rw [List.map_map, ScanRecord.said, ← hfirst, List.map_map]
        rfl
      rw [scenesEach, List.map_append, htold]
      cases hresult : (s.scanOne name w).result with
      | error halt => rw [scanEach_error others hresult]; rfl
      | ok tally =>
          rw [scanEach_ok others hresult]
          exact congrArg (_ ++ ·) (ih _)

/-- A scan that finds the event set asks only that. -/
theorem scanOne_of_stopping {w : World} (h : w.stopping s.stop = true) (name : String) :
    (∃ reached, (s.scanOne name w).result = .error ⟨.cancelled (.text name), reached⟩) ∧
      (s.scanOne name w).state = w ∧
      (scan s.plan name (w.collection name).contents.pageBound).moments
        (World.answer s.stop name) w = [⟨.stopping, w, true, w⟩] := by
  rw [scanOne, Contents.pageBound_eq]
  obtain ⟨hend, hstate, hmoments⟩ := Scan.pages_of_stopping s.plan name h
    ((w.collection name).contents.left none) { collection := name } none
  obtain ⟨hend', hstate', hmoments'⟩ := Dialogue.andThen_of_error (Scan.close s.plan name) hend
  exact ⟨⟨_, hend'⟩, hstate'.trans hstate, hmoments'.trans hmoments⟩

/-- Scans that find the event set are cancelled at the first collection. -/
theorem scanEach_of_stopping {w : World} (h : w.stopping s.stop = true) (names : List String) :
    Failure.of? (s.scanEach names w).result =
        names.head?.map (fun name => .cancelled (.text name)) ∧
      (s.scanEach names w).state = w ∧ ∀ e ∈ s.scenesEach names w, e.moment.ask = .stopping := by
  cases names with
  | nil => exact ⟨rfl, rfl, List.forall_mem_nil _⟩
  | cons name others =>
      obtain ⟨⟨reached, hresult⟩, hstate, hmoments⟩ := s.scanOne_of_stopping h name
      rw [scanEach_error others hresult, scenesEach, hmoments, hresult]
      refine ⟨rfl, hstate, ?_⟩
      intro e he
      rw [List.append_nil] at he
      rw [List.mem_singleton.mp he]

/-- A scene is one of a visit, which goes on step by step: what comes before it is some scenes and
    the beginning of the visit, and what comes after it is the rest of the visit and questions
    whether to stop.  If the visit does not fail, its page is processed. -/
structure CaughtIn (s : Sweeper) (visit : Visit) (earlier : List Scene) (scene : Scene)
    (later : List Scene) : Prop where
  name      : visit.name = scene.name
  parts     : ∃ prior begun done rest, visit.moments s = begun ++ scene.moment :: done ∧
    earlier = prior ++ begun.map scene.beside ∧ later = done.map scene.beside ++ rest ∧
    ∀ e ∈ rest, e.moment.ask = .stopping
  follows   : (visit.said s).IsChain fun a b => Follows visit.name a b.1
  processed : ∀ ends, visit.result s = .ok ends →
    Processed s.plan visit.name (visit.said s) ends.2

variable {s} in
theorem CaughtIn.behind {visit : Visit} {earlier later : List Scene} {scene : Scene}
    (h : s.CaughtIn visit earlier scene later) (more : List Scene) :
    s.CaughtIn visit (more ++ earlier) scene later := by
  obtain ⟨prior, begun, done, rest, hvisit, rfl, hlater, hrest⟩ := h.parts
  exact ⟨h.name, ⟨more ++ prior, begun, done, rest, hvisit, (List.append_assoc _ _ _).symm, hlater,
    hrest⟩, h.follows, h.processed⟩

variable {s} in
/-- What is known of a moment is known of its scene, if the scenes behind the scan ask only whether
    to stop. -/
theorem Caught.caughtIn (scene : Scene) (hname : visit.name = scene.name)
    (h : s.Caught visit earlier scene.moment later) {behind : List Scene}
    (hstop : ∀ e ∈ behind, e.moment.ask = .stopping) :
    s.CaughtIn visit (earlier.map scene.beside) scene (later.map scene.beside ++ behind) := by
  obtain ⟨prior, begun, done, rest, hvisit, rfl, rfl, hrest⟩ := h
  obtain ⟨hfollows, hprocessed⟩ := visit.said_follows s
  refine ⟨hname, ⟨prior.map scene.beside, begun, done, rest.map scene.beside ++ behind, hvisit,
    List.map_append, ?_, ?_⟩, hfollows, hprocessed⟩
  · rw [← List.append_assoc, ← List.map_append]
  · intro e he
    rcases List.mem_append.mp he with hmem | hmem
    · obtain ⟨m, hm, rfl⟩ := List.mem_map.mp hmem
      exact hrest m hm
    · exact hstop e hmem

/-- Behind a scan at whose end the event is set, the next scan, if there is one, asks whether to
    stop and is cancelled. -/
theorem behind_of_isSet {w : World} {name : String}
    (hset : (s.scanOne name w).state.signals.isSet s.stop = true) (others : List String) :
    let behind := match (s.scanOne name w).result with
      | .ok _    => s.scenesEach others (s.scanOne name w).state
      | .error _ => []
    (∀ e ∈ behind, e.moment.ask = .stopping) ∧
      Failure.of? (s.scanEach (name :: others) w).result =
        (Halt.of? (s.scanOne name w).result).or
          (others.head?.map fun name => .cancelled (.text name)) := by
  dsimp only
  cases hresult : (s.scanOne name w).result with
  | error halt =>
      rw [scanEach_error others hresult]
      exact ⟨List.forall_mem_nil _, rfl⟩
  | ok tally =>
      obtain ⟨hfailure, -, hasks⟩ :=
        s.scanEach_of_stopping (World.stopping_of_isSet hset) others
      rw [scanEach_ok others hresult]
      exact ⟨hasks, (Failure.of?_map _ _).trans hfailure⟩

/-- **Scans one after the other end with the visit in which the event becomes set**, or at the next
    collection. -/
theorem caught_scanEach (names : List String) :
    ∀ (w : World) (earlier : List Scene) (scene : Scene) (later : List Scene),
      s.scenesEach names w = earlier ++ scene :: later →
      scene.moment.before.signals.isSet s.stop = false →
      scene.moment.after.signals.isSet s.stop = true →
      ∃ visit : Visit, s.CaughtIn visit earlier scene later ∧
        Failure.of? (s.scanEach names w).result =
          (visit.failure? s).or (scene.others.head?.map fun name => .cancelled (.text name)) := by
  induction names with
  | nil =>
      intro w earlier scene later h
      cases earlier <;> cases h
  | cons name others ih =>
      intro w earlier scene later h hbefore hafter
      rw [scenesEach] at h
      rcases split_append h with ⟨rest, hhere, rfl⟩ | ⟨prior, rfl, hbehind⟩
      · -- the scene is one of the first scan
        obtain ⟨begun, more, hmoments, rfl, hmore⟩ := List.map_eq_append_iff.mp hhere
        obtain ⟨m, done, rfl, rfl, rfl⟩ := List.map_eq_cons_iff.mp hmore
        have hset := s.isSet_of_moment
          (hmoments ▸ List.mem_append_right begun List.mem_cons_self) hafter
        obtain ⟨visit, hname, hcaught, hend⟩ := s.caught_scan hmoments hbefore hafter
        obtain ⟨hstop, hfailure⟩ := s.behind_of_isSet hset others
        refine ⟨visit, hcaught.caughtIn ⟨name, others, m⟩ hname hstop, ?_⟩
        rw [hfailure, hend]
      · -- the first scan has gone through, and the scene is behind it
        cases hresult : (s.scanOne name w).result with
        | error halt =>
            rw [hresult] at hbehind
            cases prior <;> cases hbehind
        | ok tally =>
            rw [hresult] at hbehind
            obtain ⟨visit, hcaught, hend⟩ := ih _ prior scene later hbehind hbefore hafter
            refine ⟨visit, hcaught.behind _, ?_⟩
            rw [scanEach_ok others hresult]
            exact (Failure.of?_map _ _).trans hend

/-! ## Sweeps that find the event set -/

/-- Watches the scans of a sweep that has found the stop event set: each asks only whether to stop,
    and is cancelled. -/
def stopWatch (base : World) : Watch s.stop Said where
  stable w := w.collections = base.collections ∧ w.signals.isSet s.stop = true
  view _ said _ := said
  inv _ said := ∀ a ∈ said, a.1 = .stopping
  may _ call _ := call = .stopping
  rule _ call _ reply _ := (⟨call, reply⟩ : Answered Call Call.Reply) = ⟨.stopping, true⟩
  post name result _ := ∃ halt, result = .error halt ∧ halt.failure = .cancelled (.text name)
  answer := by
    rintro name call said w ⟨hcollections, hset⟩ hinv rfl
    refine ⟨⟨hcollections, hset⟩, ?_, ?_⟩
    · intro a ha
      rcases List.mem_append.mp ha with hmem | hmem
      · exact hinv a hmem
      · rw [List.mem_singleton.mp hmem]
    · show (⟨.stopping, w.stopping s.stop⟩ : Answered Call Call.Reply) = _
      rw [World.stopping_of_isSet hset]

theorem ready_stopWatch (base : World) (name : String) :
    (s.stopWatch base).Ready s.plan name [] := by
  rintro w - -
  refine ⟨List.forall_mem_nil _, ?_⟩
  rw [Contents.pageBound_eq]
  have hpages : (s.stopWatch base).Follows name (Scan.pages s.plan name
      ((w.collection name).contents.left none + 1) { collection := name } none) [] := by
    refine ⟨rfl, ?_⟩
    rintro reply _ hrule
    cases hrule
    exact ⟨_, rfl, rfl⟩
  refine Dialogue.keeps_shows.mpr (hpages.andThen ?_ fun _ _ hpost => hpost)
  rintro t _ ⟨halt, herror, -⟩
  cases herror

theorem abortable_stopWatch (base : World) : (s.stopWatch base).Abortable :=
  fun _ hstable _ => ⟨hstable, fun _ _ => rfl⟩

theorem pairwise_stopWatch (base : World) (names : List String) :
    names.Pairwise fun a b => (s.stopWatch base).Apart a b ∧ (s.stopWatch base).Apart b a :=
  List.pairwise_of_forall fun _ _ => ⟨fun _ _ _ _ => rfl, fun _ _ _ _ => rfl⟩

/-- Scans that take turns and find the event set are cancelled at one of the collections. -/
theorem scanTogether_of_isSet (turns : List Nat) {names : List String} (hnames : names ≠ [])
    {w : World} (h : w.signals.isSet s.stop = true) :
    ∃ name ∈ names,
      (s.scanTogether turns names w).result = .error (.cancelled (.text name)) := by
  have hholds := Watch.holds_leads (s.abortable_stopWatch w) (s.pairwise_stopWatch w names)
    (Pool.noted_start s.plan names w)
    (Watch.holds_start (⟨rfl, h⟩ : (s.stopWatch w).stable w) fun name _ => s.ready_stopWatch w name)
    (s.leads_pooled turns names w)
  -- a scan that has ended was cancelled
  have hcancelled : ∀ scanner ∈ (s.pooled turns names w).scanners, ∀ result,
      scanner.talk = .ended result →
        ∃ halt, result = .error halt ∧ halt.failure = .cancelled (.text scanner.record.name) := by
    intro scanner hmem result htalk
    have hpost := hholds.follows scanner hmem
    rw [htalk] at hpost
    exact hpost
  cases hfailure : (s.pooled turns names w).failure with
  | none =>
      -- there is a scan, and without a failure it would have gone through
      have hscanners : (s.pooled turns names w).scanners ≠ [] := by
        intro hnil
        have hnone := hholds.names
        rw [Pool.names, hnil] at hnone
        exact hnames hnone.symm
      obtain ⟨scanner, hmem⟩ := List.exists_mem_of_ne_nil _ hscanners
      obtain ⟨tally, htalk⟩ := pooled_unfailed hfailure hmem
      obtain ⟨halt, hhalt, -⟩ := hcancelled scanner hmem _ htalk
      cases hhalt
  | some failure =>
      obtain ⟨halt, ⟨scanner, hmem, htalk⟩, rfl⟩ :=
        (s.noted_pooled turns names w).failure failure hfailure
      obtain ⟨same, hsame, hcancel⟩ := hcancelled scanner hmem _ htalk
      cases hsame
      refine ⟨scanner.record.name, ?_, ?_⟩
      · rw [← hholds.names]
        exact List.mem_map_of_mem hmem
      · rw [scanTogether_failed hfailure, hcancel]

/-- Scans that find the event set are cancelled, if there are any, and change nothing. -/
theorem scanAll_of_isSet (turns : List Nat) (names : List String) {w : World}
    (h : w.signals.isSet s.stop = true) :
    let scans := s.scanAll turns names w
    (names = [] ∧ scans.result = .ok [] ∨
        ∃ name ∈ names, scans.result = .error (.cancelled (.text name)) ∧
          (s.isShared names = false → names.head? = some name)) ∧
      (∀ r ∈ scans.records, ∀ a ∈ r.said, a.1 = .stopping) ∧
      scans.state.collections = w.collections := by
  intro scans
  obtain ⟨hwatched, -⟩ := Watch.watched_scanAll turns (s.abortable_stopWatch w)
    (⟨rfl, h⟩ : (s.stopWatch w).stable w) (fun name _ => s.ready_stopWatch w name)
    (s.pairwise_stopWatch w names)
  refine ⟨?_, hwatched.inv, hwatched.stable.1⟩
  cases hshared : s.isShared names with
  | true =>
      have hnames : names ≠ [] := by
        rintro rfl
        exact absurd (isShared_iff.mp hshared).2 (Nat.not_lt_zero 1)
      obtain ⟨name, hmem, hresult⟩ := s.scanTogether_of_isSet turns hnames h
      rw [show scans = _ from scanAll_of_shared turns w hshared]
      exact Or.inr ⟨name, hmem, hresult, fun h => absurd h (by decide)⟩
  | false =>
      rw [show scans = _ from scanAll_of_each turns w hshared]
      cases names with
      | nil => exact Or.inl ⟨rfl, rfl⟩
      | cons name others =>
          obtain ⟨⟨reached, hresult⟩, -, -⟩ :=
            s.scanOne_of_stopping (World.stopping_of_isSet h) name
          refine Or.inr ⟨name, List.mem_cons_self, ?_, fun _ => rfl⟩
          rw [scanEach_error others hresult]

/-! ## Runs -/

/-- A run that finds the event set behind its listing fails as that does, or asks only whether to
    stop and is cancelled, if a collection is selected. -/
theorem run_of_isSet (turns : List Nat) (allowed : List String) (w : World) :
    let listed := s.listing { w with aborted := false }
    let names := selected allowed w.hosted
    let swept := s.run turns allowed w
    listed.state.signals.isSet s.stop = true →
      ((∃ failure, listed.result = .error failure ∧ swept.result = .error failure) ∨
        listed.result = .ok w.hosted ∧
          (names = [] ∧ swept.result = .ok { dryRun := s.plan.dryRun } ∨
            ∃ name ∈ names, swept.result = .error (.cancelled (.text name)) ∧
              (s.isShared names = false → names.head? = some name))) ∧
      (∀ r ∈ swept.records, ∀ a ∈ r.said, a.1 = .stopping) ∧
      swept.state.collections = w.collections := by
  intro listed names swept hset
  obtain ⟨hrelisted, hends⟩ := s.listing_spec { w with aborted := false } False (fun h => h.elim)
  rcases hends with hok | ⟨-, failure, herror⟩
  · have hscanned := s.run_of_listed turns allowed hok
    obtain ⟨hresult, hasks, hstate⟩ := s.scanAll_of_isSet turns names hset
    refine ⟨Or.inr ⟨hok, ?_⟩, ?_, ?_⟩
    · rw [show swept.result = _ from hscanned.result]
      rcases hresult with ⟨hnil, hresult⟩ | ⟨name, hmem, hresult, hfirst⟩
      · exact Or.inl ⟨hnil, congrArg (Except.map _) hresult⟩
      · exact Or.inr ⟨name, hmem, congrArg (Except.map _) hresult, hfirst⟩
    · rw [show swept.records = _ from hscanned.records]
      exact hasks
    · rw [show swept.state = _ from hscanned.state]
      exact hstate.trans hrelisted.listed.collections
  · have hswept : swept = _ := s.run_eq_of_unlisted turns allowed herror
    rw [hswept]
    exact ⟨Or.inl ⟨failure, herror, rfl⟩, List.forall_mem_nil _, hrelisted.listed.collections⟩

/-- A run with its scans one after the other ends with the visit in which the event becomes set, or
    at the next collection. -/
theorem caught_run (turns : List Nat) (allowed : List String) (w : World)
    (hone : s.isShared (selected allowed w.hosted) = false) :
    let swept := s.run turns allowed w
    (s.scenes allowed w).map (fun e => (e.name, e.moment.answered)) =
        swept.records.flatMap (fun r => r.said.map fun a => (r.name, a)) ∧
      ∀ earlier scene later, s.scenes allowed w = earlier ++ scene :: later →
        scene.moment.before.signals.isSet s.stop = false →
        scene.moment.after.signals.isSet s.stop = true →
        ∃ visit : Visit, s.CaughtIn visit earlier scene later ∧
          Failure.of? swept.result = (visit.failure? s).or
            (scene.others.head?.map fun name => .cancelled (.text name)) := by
  intro swept
  obtain ⟨-, hends⟩ := s.listing_spec { w with aborted := false } False (fun h => h.elim)
  rcases hends with hok | ⟨-, failure, herror⟩
  · obtain ⟨hscanned, -⟩ := s.run_of_each turns allowed hok hone
    have hscenes : s.scenes allowed w = s.scenesEach (selected allowed w.hosted)
        (s.listing { w with aborted := false }).state := by
      rw [scenes, hok]
      rfl
    rw [hscenes, show swept.records = _ from hscanned.records,
      show swept.result = _ from hscanned.result, Failure.of?_map]
    exact ⟨s.said_scenesEach _ _, s.caught_scanEach _ _⟩
  · have hscenes : s.scenes allowed w = [] := by
      rw [scenes, herror]
    rw [hscenes, show swept = _ from s.run_eq_of_unlisted turns allowed herror]
    refine ⟨rfl, fun earlier scene later h => ?_⟩
    cases earlier <;> cases h

/-- **Cancellation takes effect at the next page.**  A run that finds the stop event set behind its
    listing, for it was set before or while listing, fails as the listing does, or asks for nothing
    more and changes nothing: it is cancelled at a selected collection, the first one unless the
    scans take turns, or returns if none is selected.  A run with its scans one after the other in
    which the event becomes set in a scan goes on with that page alone, to the failure of the page
    or until it is processed, and asks then for nothing more: it fails as the page does or of a
    cursor that does not move, or is cancelled at the same collection if that has another page, at
    the next one if there is one, or returns. -/
theorem cancellation_takes_effect (turns : List Nat) (allowed : List String) (w : World) :
    let listed := s.listing { w with aborted := false }
    let names := selected allowed w.hosted
    let swept := s.run turns allowed w
    (w.signals.isSet s.stop = true → listed.state.signals.isSet s.stop = true) ∧
    (listed.state.signals.isSet s.stop = true →
      ((∃ failure, listed.result = .error failure ∧ swept.result = .error failure) ∨
        listed.result = .ok w.hosted ∧
          (names = [] ∧ swept.result = .ok { dryRun := s.plan.dryRun } ∨
            ∃ name ∈ names, swept.result = .error (.cancelled (.text name)) ∧
              (s.isShared names = false → names.head? = some name))) ∧
      (∀ r ∈ swept.records, ∀ a ∈ r.said, a.1 = .stopping) ∧
      swept.state.collections = w.collections) ∧
    (s.isShared names = false →
      (s.scenes allowed w).map (fun e => (e.name, e.moment.answered)) =
          swept.records.flatMap (fun r => r.said.map fun a => (r.name, a)) ∧
        ∀ earlier scene later, s.scenes allowed w = earlier ++ scene :: later →
          scene.moment.before.signals.isSet s.stop = false →
          scene.moment.after.signals.isSet s.stop = true →
          ∃ visit : Visit, s.CaughtIn visit earlier scene later ∧
            Failure.of? swept.result = (visit.failure? s).or
              (scene.others.head?.map fun name => .cancelled (.text name))) := by
  intro listed names swept
  obtain ⟨hrelisted, -⟩ := s.listing_spec { w with aborted := false } False (fun h => h.elim)
  exact ⟨fun h => hrelisted.listed.signals.isSet _ h, s.run_of_isSet turns allowed w,
    s.caught_run turns allowed w⟩

/-- The event becomes set in the first lookup of a collection with two pages: its orphan is deleted,
    and the run is cancelled at the second page, as is the next run. -/
theorem cancellation_takes_effect_lookup :
    let w : World := { lossy with
      signals := { events := [false] }
      schedule := fun kind _ n => if kind = .lookup ∧ n = 1 then { nudges := [.cancel 0] } else {} }
    let s : Sweeper := { plan := { pageSize := 1 } }
    let swept := s.run [] [] w
    (∃ earlier scene later visit, s.scenes [] w = earlier ++ scene :: later ∧
      s.CaughtIn visit earlier scene later ∧ earlier.length = 2 ∧ later.length = 2 ∧
      Failure.of? swept.result =
        (visit.failure? s).or (scene.others.head?.map fun name => .cancelled (.text name))) ∧
      swept.state.points = [("a", .ofList [⟨2, by decide⟩]), ("b", .ofList [⟨3, by decide⟩])] ∧
      ∃ name ∈ ["a", "b"], (s.run [] [] swept.state).result = .error (.cancelled (.text name)) ∧
        ["a", "b"].head? = some name := by
  intro w s swept
  refine ⟨?_, by decide +kernel, ?_⟩
  · have hlength : (s.scenes [] w).length = 5 := by decide +kernel
    let place : Fin (s.scenes [] w).length := ⟨2, by decide +kernel⟩
    have hsplit : s.scenes [] w =
        (s.scenes [] w).take 2 ++ (s.scenes [] w).get place :: (s.scenes [] w).drop 3 := by
      rw [List.get_eq_getElem, ← List.drop_eq_getElem_cons place.isLt, List.take_append_drop]
    obtain ⟨visit, hcaught, hend⟩ := ((s.cancellation_takes_effect [] [] w).2.2 rfl).2 _ _ _ hsplit
      (by decide +kernel) (by decide +kernel)
    exact ⟨_, _, _, visit, hsplit, hcaught, by rw [List.length_take, hlength]; rfl,
      by rw [List.length_drop, hlength], hend⟩
  · have hset : swept.state.signals.isSet s.stop = true := by decide +kernel
    have hlater := s.cancellation_takes_effect [] [] swept.state
    have hnames : selected [] swept.state.hosted = ["a", "b"] := by decide +kernel
    obtain ⟨hends, -, -⟩ := hlater.2.1 (hlater.1 hset)
    rw [hnames] at hends
    rcases hends with ⟨failure, hfailed, -⟩ | ⟨-, ⟨hnil, -⟩ | ⟨name, hmem, hresult, hfirst⟩⟩
    · have hlisted : (s.listing { swept.state with aborted := false }).result.toOption.isSome =
          true := by decide +kernel
      rw [hfailed] at hlisted
      cases hlisted
    · cases hnil
    · exact ⟨name, hmem, hresult, hfirst rfl⟩

end Sweeper

end OrphanSweep
