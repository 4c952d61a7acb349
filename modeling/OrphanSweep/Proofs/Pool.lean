import OrphanSweep.Proofs.Dialogue
import OrphanSweep.Pool

/-! # Every way of taking turns

    Whatever the list of turns, a pool comes to its end by moves of single scans and by the sweep's
    own turns (`leads_run`); letting a scan run to its end is a row of its moves (`leads_finish`).
    What holds of all schedules is therefore proved for one move.  In the end every scan has come to
    its own, but for those that had not begun when a failure called them off (`settled_run`).

    `Noted` is the first such fact: the pool has the tally of every scan that went through and of
    no other, and it has a failure exactly if a scan has failed. -/

namespace OrphanSweep

namespace Scanner

variable (stop : Nat) (scanner : Scanner) (w : World)

/-- The next move of a scan. -/
def made : Played Call Call.Reply World (Talk (Except Halt Tally)) :=
  scanner.talk.step (World.answer stop scanner.record.name) w

/-- The scan after its next move. -/
def moved : Scanner where
  record :=
    { name := scanner.record.name
      transcript := scanner.record.transcript ++ (scanner.made stop w).transcript }
  talk := (scanner.made stop w).result

/-- All that is left of a scan, played at once. -/
def played : Played Call Call.Reply World (Except Halt Tally) :=
  scanner.talk.run (World.answer stop scanner.record.name) w

/-- The scan after all of its moves. -/
def finished : Scanner where
  record :=
    { name := scanner.record.name
      transcript := scanner.record.transcript ++ (scanner.played stop w).transcript }
  talk := .ended (scanner.played stop w).result

/-- Making the first move by itself leaves the rest to be played. -/
theorem played_moved :
    (scanner.played stop w) =
      ⟨(scanner.made stop w).transcript ++
          ((scanner.moved stop w).played stop (scanner.made stop w).state).transcript,
        ((scanner.moved stop w).played stop (scanner.made stop w).state).result,
        ((scanner.moved stop w).played stop (scanner.made stop w).state).state⟩ :=
  Dialogue.run_step (World.answer stop scanner.record.name) scanner.talk w

theorem finished_moved :
    (scanner.moved stop w).finished stop (scanner.made stop w).state =
      scanner.finished stop w := by
  rw [finished, finished, played_moved stop scanner w, moved, List.append_assoc]

/-- A move that was the last one leaves the scan finished. -/
theorem moved_of_ended {result : Except Halt Tally}
    (h : (scanner.made stop w).result = .ended result) :
    scanner.moved stop w = scanner.finished stop w ∧
      (scanner.made stop w).state = (scanner.played stop w).state ∧
      result = (scanner.played stop w).result := by
  have hmoved : (scanner.moved stop w).talk = .ended result := h
  have hrest : (scanner.moved stop w).played stop (scanner.made stop w).state =
      ⟨[], result, (scanner.made stop w).state⟩ := by
    rw [played, hmoved]
    rfl
  rw [← finished_moved, played_moved, finished, hrest]
  refine ⟨?_, rfl, rfl⟩
  rw [List.append_nil, ← hmoved]

/-- A scan that has begun is still one after a move. -/
theorem hasBegun_moved (h : scanner.hasBegun = true) : (scanner.moved stop w).hasBegun = true := by
  rw [hasBegun, Bool.not_eq_true', List.isEmpty_eq_false_iff] at h ⊢
  exact List.append_ne_nil_of_left_ne_nil h _

end Scanner

namespace Pool

/-- The collections of the scans, in order. -/
def names (pool : Pool) : List String := pool.scanners.map fun scanner => scanner.record.name

variable {stop workers place : Nat} {pool : Pool} {scanner : Scanner}

/-- The name at a place is that of the scan there. -/
theorem getElem?_names (h : pool.scanners[place]? = some scanner) :
    pool.names[place]? = some scanner.record.name := by
  rw [names, List.getElem?_map, h]
  rfl

/-! ## One move -/

theorem move_eq (h : pool.scanners[place]? = some scanner) :
    pool.move stop place =
      pool.note (pool.scanners.set place (scanner.moved stop pool.world))
        (scanner.made stop pool.world).state (scanner.made stop pool.world).result := by
  rw [move, h]
  rfl

@[simp] theorem scanners_note (scanners : List Scanner) (w : World)
    (talk : Talk (Except Halt Tally)) : (pool.note scanners w talk).scanners = scanners := by
  cases talk with
  | ended result => cases result <;> rfl
  | shows event rest => rfl
  | asks ask resume => rfl

@[simp] theorem world_note (scanners : List Scanner) (w : World)
    (talk : Talk (Except Halt Tally)) : (pool.note scanners w talk).world = w := by
  cases talk with
  | ended result => cases result <;> rfl
  | shows event rest => rfl
  | asks ask resume => rfl

@[simp] theorem calledOff_note (scanners : List Scanner) (w : World)
    (talk : Talk (Except Halt Tally)) : (pool.note scanners w talk).calledOff = pool.calledOff := by
  cases talk with
  | ended result => cases result <;> rfl
  | shows event rest => rfl
  | asks ask resume => rfl

/-- A scan that goes on leaves nothing to note. -/
theorem note_of_going (scanners : List Scanner) (w : World) {talk : Talk (Except Halt Tally)}
    (h : talk.isEnded = false) :
    pool.note scanners w talk = { pool with scanners, world := w } := by
  cases talk with
  | ended result => cases h
  | shows event rest => rfl
  | asks ask resume => rfl

theorem scanners_move (h : pool.scanners[place]? = some scanner) :
    (pool.move stop place).scanners =
      pool.scanners.set place (scanner.moved stop pool.world) := by
  rw [move_eq h, scanners_note]

theorem world_move (h : pool.scanners[place]? = some scanner) :
    (pool.move stop place).world = (scanner.made stop pool.world).state := by
  rw [move_eq h, world_note]

theorem calledOff_move (h : pool.scanners[place]? = some scanner) :
    (pool.move stop place).calledOff = pool.calledOff := by
  rw [move_eq h, calledOff_note]

theorem getElem?_move_self (h : pool.scanners[place]? = some scanner) :
    (pool.move stop place).scanners[place]? = some (scanner.moved stop pool.world) := by
  obtain ⟨hplace, -⟩ := List.getElem?_eq_some_iff.mp h
  rw [scanners_move h, List.getElem?_set_self hplace]

theorem getElem?_move_of_ne {other : Nat} (h : pool.scanners[place]? = some scanner)
    (hne : other ≠ place) :
    (pool.move stop place).scanners[other]? = pool.scanners[other]? := by
  rw [scanners_move h, List.getElem?_set_ne hne.symm]

/-- After a move a scan is the one that has moved, or stands where it stood. -/
theorem mem_move (h : pool.scanners[place]? = some scanner) {last : Scanner}
    (hlast : last ∈ (pool.move stop place).scanners) :
    last = scanner.moved stop pool.world ∨
      ∃ other, other ≠ place ∧ pool.scanners[other]? = some last := by
  obtain ⟨other, hother⟩ := List.mem_iff_getElem?.mp hlast
  by_cases hne : other = place
  · subst hne
    rw [getElem?_move_self h] at hother
    exact Or.inl (Option.some.inj hother).symm
  · rw [getElem?_move_of_ne h hne] at hother
    exact Or.inr ⟨other, hne, hother⟩

/-- Every scan is there after a move, with what it has said before. -/
theorem exists_mem_move (h : pool.scanners[place]? = some scanner) {old : Scanner}
    (hold : old ∈ pool.scanners) :
    ∃ last ∈ (pool.move stop place).scanners, last.record.name = old.record.name ∧
      old.record.transcript <+: last.record.transcript := by
  obtain ⟨other, hother⟩ := List.mem_iff_getElem?.mp hold
  by_cases hne : other = place
  · subst hne
    rw [h] at hother
    cases hother
    exact ⟨_, List.mem_iff_getElem?.mpr ⟨_, getElem?_move_self h⟩, rfl, List.prefix_append _ _⟩
  · rw [← getElem?_move_of_ne h hne] at hother
    exact ⟨old, List.mem_iff_getElem?.mpr ⟨other, hother⟩, rfl, List.prefix_rfl⟩

/-- Where no name comes twice, a scan that has not moved is for another collection. -/
theorem mem_move_of_nodup (hnodup : pool.names.Nodup) (h : pool.scanners[place]? = some scanner)
    {last : Scanner} (hlast : last ∈ (pool.move stop place).scanners) :
    last = scanner.moved stop pool.world ∨
      last ∈ pool.scanners ∧ last.record.name ≠ scanner.record.name := by
  rcases mem_move h hlast with hmoved | ⟨other, hne, hother⟩
  · exact Or.inl hmoved
  · refine Or.inr ⟨List.mem_iff_getElem?.mpr ⟨other, hother⟩, ?_⟩
    intro heq
    have hotherName := getElem?_names hother
    have hplaceName := getElem?_names h
    obtain ⟨hlt, -⟩ := List.getElem?_eq_some_iff.mp hotherName
    exact hne ((List.getElem?_inj hlt hnodup).mp (hotherName.trans (heq ▸ hplaceName.symm)))

/-- A move leaves the failure that was noted, and notes one if a scan fails that is the first. -/
theorem failure_move (h : pool.scanners[place]? = some scanner) :
    (pool.move stop place).failure = pool.failure ∨
      ∃ halt, (scanner.made stop pool.world).result = .ended (.error halt) ∧
        (pool.move stop place).failure = pool.failure.or (some halt.failure) := by
  rw [move_eq h]
  cases (scanner.made stop pool.world).result with
  | shows event rest => exact Or.inl rfl
  | asks call resume => exact Or.inl rfl
  | ended result =>
      cases result with
      | ok tally => exact Or.inl rfl
      | error halt => exact Or.inr ⟨halt, rfl, rfl⟩

/-- A failure that was noted stays. -/
theorem failure_of_move (h : pool.scanners[place]? = some scanner)
    (hnone : (pool.move stop place).failure = none) : pool.failure = none := by
  obtain hsame | ⟨halt, -, hnoted⟩ : (pool.move stop place).failure = pool.failure ∨ _ :=
    failure_move h
  · exact hsame ▸ hnone
  · rw [hnoted, Option.or_eq_none_iff] at hnone
    exact hnone.1

theorem names_move (h : pool.scanners[place]? = some scanner) :
    (pool.move stop place).names = pool.names := by
  refine List.ext_getElem? fun i => ?_
  rw [names, names, List.getElem?_map, List.getElem?_map]
  by_cases hi : i = place
  · subst hi
    rw [getElem?_move_self h, h]
    rfl
  · rw [getElem?_move_of_ne h hi]

/-- A sweep that has met no failure has nothing to heed. -/
theorem heed_of_none (h : pool.failure = none) : pool.heed = pool := by
  rw [heed, h, Option.isSome_none, Bool.or_false, Bool.or_false, ← h]

theorem heed_of_some {failure : Failure} (h : pool.failure = some failure) :
    pool.heed =
      { pool with calledOff := true, world := { pool.world with aborted := true } } := by
  rw [heed, h, Option.isSome_some, Bool.or_true, Bool.or_true, ← h]

/-! ## Scans that go on -/

theorem goesOn_iff : pool.goesOn scanner = true ↔
    scanner.talk.isEnded = false ∧ (scanner.hasBegun = true ∨ pool.calledOff = false) := by
  simp [goesOn]

/-- A scan does not go on if it has ended, or was called off before it began. -/
theorem goesOn_eq_false_iff : pool.goesOn scanner = false ↔
    scanner.talk.isEnded = true ∨ scanner.hasBegun = false ∧ pool.calledOff = true := by
  rw [goesOn, Bool.and_eq_false_iff]
  simp

/-- After a move of a scan that goes on it goes on, unless that was its last one. -/
theorem goesOn_moved (h : pool.scanners[place]? = some scanner)
    (hgoing : pool.goesOn scanner = true) :
    (pool.move stop place).goesOn (scanner.moved stop pool.world) =
      !(scanner.made stop pool.world).result.isEnded := by
  have hstays : ((scanner.moved stop pool.world).hasBegun || !pool.calledOff) = true := by
    rcases (goesOn_iff.mp hgoing).2 with hbegun | hopen
    · rw [Scanner.hasBegun_moved stop scanner pool.world hbegun, Bool.true_or]
    · rw [hopen, Bool.not_false, Bool.or_true]
  rw [goesOn, calledOff_move h, hstays, Bool.and_true]
  rfl

/-! ## Running to the end, move by move -/

/-- A pool comes from another by moves of scans that have not ended and by turns of the sweep. -/
inductive Leads (stop : Nat) (pool : Pool) : Pool → Prop where
  | refl : Leads stop pool pool
  | move {later : Pool} {place : Nat} {scanner : Scanner} :
      Leads stop pool later → later.scanners[place]? = some scanner →
      scanner.talk.isEnded = false → Leads stop pool (later.move stop place)
  | heed {later : Pool} : Leads stop pool later → Leads stop pool later.heed

theorem Leads.trans {later last : Pool} (h : pool.Leads stop later) (h' : later.Leads stop last) :
    pool.Leads stop last := by
  induction h' with
  | refl => exact h
  | move _ hplace hgoing ih => exact ih.move hplace hgoing
  | heed _ ih => exact ih.heed

theorem finish_of_still (h : pool.scanners[place]? = some scanner)
    (hstill : pool.goesOn scanner = false) : pool.finish stop place = pool := by
  rw [finish, h]
  simp only [hstill, Bool.not_false, if_true]

theorem finish_of_going (h : pool.scanners[place]? = some scanner)
    (hgoing : pool.goesOn scanner = true) :
    pool.finish stop place =
      pool.note (pool.scanners.set place (scanner.finished stop pool.world))
        (scanner.played stop pool.world).state
        (.ended (scanner.played stop pool.world).result) := by
  rw [finish, h]
  simp only [hgoing, Bool.not_true, Bool.false_eq_true, if_false]
  rfl

/-- What is noted replaces the scans and the world. -/
theorem note_replace (scanners later : List Scanner) (w w' : World)
    (talk : Talk (Except Halt Tally)) :
    note { pool with scanners, world := w } later w' talk = pool.note later w' talk := by
  cases talk with
  | ended result => cases result <;> rfl
  | shows event rest => rfl
  | asks ask resume => rfl

/-- Making the first move by itself does not change where a scan ends. -/
theorem finish_move (h : pool.scanners[place]? = some scanner)
    (hgoing : pool.goesOn scanner = true) :
    (pool.move stop place).finish stop place = pool.finish stop place := by
  have hself : (pool.move stop place).scanners[place]? =
      some (scanner.moved stop pool.world) := getElem?_move_self h
  have hmoves : (pool.move stop place).goesOn (scanner.moved stop pool.world) =
      !(scanner.made stop pool.world).result.isEnded := goesOn_moved h hgoing
  rw [finish_of_going h hgoing]
  cases hend : (scanner.made stop pool.world).result.isEnded with
  | true =>
      -- the move was the last one, so nothing is left to finish
      rw [hend] at hmoves
      obtain ⟨result, hresult⟩ := Dialogue.eq_ended_of_isEnded hend
      obtain ⟨hmoved, hstate, hvalue⟩ := Scanner.moved_of_ended stop scanner _ hresult
      rw [finish_of_still hself hmoves, move_eq h, hresult, hmoved, hstate, hvalue]
  | false =>
      rw [hend] at hmoves
      rw [finish_of_going hself hmoves, scanners_move h, world_move h, List.set_set,
        Scanner.finished_moved, move_eq h, note_of_going _ _ hend, note_replace,
        Scanner.played_moved stop scanner pool.world]

/-- A scan that runs to its end makes one move after the other. -/
theorem leads_finish_talk (talk : Talk (Except Halt Tally)) :
    ∀ {pool : Pool} {record : ScanRecord}, pool.scanners[place]? = some ⟨record, talk⟩ →
      pool.Leads stop (pool.finish stop place) := by
  -- every node of what is left to say is one move, if the scan goes on
  have hfirst : ∀ {pool : Pool} {scanner : Scanner}, pool.scanners[place]? = some scanner →
      (pool.goesOn scanner = true →
        (pool.move stop place).Leads stop ((pool.move stop place).finish stop place)) →
      pool.Leads stop (pool.finish stop place) := by
    intro pool scanner h hlater
    cases hgoing : pool.goesOn scanner with
    | false =>
        rw [finish_of_still h hgoing]
        exact Leads.refl
    | true =>
        rw [← finish_move h hgoing]
        exact (Leads.refl.move h (goesOn_iff.mp hgoing).1).trans (hlater hgoing)
  induction talk with
  | ended result =>
      intro pool record h
      rw [finish_of_still h rfl]
      exact Leads.refl
  | shows event rest ih => exact fun h => hfirst h fun _ => ih (getElem?_move_self h)
  | asks ask resume ih => exact fun h => hfirst h fun _ => ih _ (getElem?_move_self h)

theorem leads_finish (pool : Pool) (place : Nat) :
    pool.Leads stop (pool.finish stop place) := by
  cases h : pool.scanners[place]? with
  | some scanner => exact leads_finish_talk scanner.talk h
  | none =>
      have hnone : pool.finish stop place = pool := by rw [finish, h]
      rw [hnone]
      exact Leads.refl

theorem leads_turns (turns : List Nat) :
    ∀ pool : Pool, pool.Leads stop (pool.turns stop workers turns) := by
  induction turns with
  | nil => intro pool; exact Leads.refl
  | cons place later ih =>
      intro pool
      rw [Pool.turns]
      split
      · rename_i hmay
        -- a scan that may move is there and goes on
        obtain ⟨hsome, -⟩ := (Bool.and_eq_true _ _).mp hmay
        cases h : pool.scanners[place]? with
        | none => rw [h] at hsome; cases hsome
        | some scanner =>
            rw [h] at hsome
            obtain ⟨hgoing, -⟩ := goesOn_iff.mp hsome
            exact (Leads.refl.move h hgoing).trans (ih (pool.move stop place))
      · split
        · exact Leads.refl.heed.trans (ih pool.heed)
        · exact ih pool

/-- Lets the scans at some places run to their ends. -/
theorem leads_foldl (places : List Nat) :
    ∀ pool : Pool, pool.Leads stop
      (places.foldl (fun pool place => (pool.finish stop place).heed) pool) := by
  induction places with
  | nil => intro pool; exact Leads.refl
  | cons place places ih =>
      intro pool
      exact (leads_finish pool place).heed.trans (ih (pool.finish stop place).heed)

/-- **Every schedule is a row of moves.** -/
theorem leads_run (pool : Pool) (turns : List Nat) :
    pool.Leads stop (pool.run stop workers turns) :=
  (leads_turns turns pool).trans (leads_foldl _ _)

/-- What no move takes from a scan holds of every scan, whatever the turns are. -/
theorem forall_leads {holds : Scanner → Prop} {later : Pool}
    (hmove : ∀ scanner w, holds scanner → holds (scanner.moved stop w))
    (h : ∀ scanner ∈ pool.scanners, holds scanner) (hleads : pool.Leads stop later) :
    ∀ scanner ∈ later.scanners, holds scanner := by
  induction hleads with
  | refl => exact h
  | move _ hplace _ ih =>
      intro last hlast
      rcases mem_move hplace hlast with rfl | ⟨other, -, hother⟩
      · exact hmove _ _ (ih _ (List.mem_iff_getElem?.mpr ⟨_, hplace⟩))
      · exact ih last (List.mem_iff_getElem?.mpr ⟨other, hother⟩)
  | heed _ ih => exact ih

/-! ## The end of a run -/

/-- The scan at a place does not go on, if there is one. -/
def StillAt (pool : Pool) (place : Nat) : Prop :=
  ∀ scanner, pool.scanners[place]? = some scanner → pool.goesOn scanner = false

theorem getElem?_finish_of_ne {other : Nat} (hne : other ≠ place) :
    (pool.finish stop place).scanners[other]? = pool.scanners[other]? := by
  cases h : pool.scanners[place]? with
  | none => rw [finish, h]
  | some scanner =>
      cases hgoing : pool.goesOn scanner with
      | false => rw [finish_of_still h hgoing]
      | true => rw [finish_of_going h hgoing, scanners_note, List.getElem?_set_ne hne.symm]

theorem calledOff_finish (pool : Pool) (place : Nat) :
    (pool.finish stop place).calledOff = pool.calledOff := by
  cases h : pool.scanners[place]? with
  | none => rw [finish, h]
  | some scanner =>
      cases hgoing : pool.goesOn scanner with
      | false => rw [finish_of_still h hgoing]
      | true => rw [finish_of_going h hgoing, calledOff_note]

theorem stillAt_finish (pool : Pool) (place : Nat) : (pool.finish stop place).StillAt place := by
  intro last hlast
  cases h : pool.scanners[place]? with
  | none =>
      rw [finish, h] at hlast
      exact nomatch h.symm.trans hlast
  | some scanner =>
      cases hgoing : pool.goesOn scanner with
      | false =>
          rw [finish_of_still h hgoing] at hlast ⊢
          cases h.symm.trans hlast
          exact hgoing
      | true =>
          obtain ⟨hplace, -⟩ := List.getElem?_eq_some_iff.mp h
          rw [finish_of_going h hgoing, scanners_note, List.getElem?_set_self hplace] at hlast
          cases hlast
          rfl

theorem stillAt_finish_of {other : Nat} (h : pool.StillAt other) :
    (pool.finish stop place).StillAt other := by
  by_cases hne : other = place
  · subst hne
    exact stillAt_finish pool other
  · intro last hlast
    rw [getElem?_finish_of_ne hne] at hlast
    rw [goesOn, calledOff_finish]
    exact h last hlast

/-- To heed a failure sets no scan going. -/
theorem StillAt.heed (h : pool.StillAt place) : pool.heed.StillAt place := by
  intro last hlast
  refine goesOn_eq_false_iff.mpr ((goesOn_eq_false_iff.mp (h last hlast)).imp_right ?_)
  rintro ⟨hbegun, hoff⟩
  exact ⟨hbegun, (Bool.or_eq_true _ _).mpr (Or.inl hoff)⟩

theorem stillAt_foldl (places : List Nat) :
    ∀ (pool : Pool) (place : Nat), place ∈ places ∨ pool.StillAt place →
      (places.foldl (fun pool place => (pool.finish stop place).heed) pool).StillAt place := by
  induction places with
  | nil =>
      intro pool place h
      cases h with
      | inl hmem => exact nomatch hmem
      | inr hstill => exact hstill
  | cons first places ih =>
      intro pool place h
      refine ih (pool.finish stop first).heed place ?_
      rcases h with hmem | hstill
      · rcases List.mem_cons.mp hmem with rfl | hmem'
        · exact Or.inr (stillAt_finish pool place).heed
        · exact Or.inl hmem'
      · exact Or.inr (stillAt_finish_of hstill).heed

theorem names_leads {later : Pool} (h : pool.Leads stop later) :
    later.names = pool.names := by
  induction h with
  | refl => rfl
  | move _ hplace _ ih => rw [names_move hplace, ih]
  | heed _ ih => exact ih

/-- Scans are called off only where there is a failure. -/
theorem isSome_failure_of_calledOff {later : Pool} (h : pool.Leads stop later)
    (hopen : pool.calledOff = false) (hoff : later.calledOff = true) :
    later.failure.isSome = true := by
  induction h with
  | refl => rw [hopen] at hoff; cases hoff
  | move _ hplace _ ih =>
      rw [calledOff_move hplace] at hoff
      cases hfailure : (Pool.move stop _ _).failure with
      | some failure => rfl
      | none => rw [← failure_of_move hplace hfailure, ih hoff]
  | heed _ ih => exact ((Bool.or_eq_true _ _).mp hoff).elim ih id

/-- **After a run every scan has ended**, but for those that were called off before they began. -/
theorem settled_run (pool : Pool) (hopen : pool.calledOff = false) (turns : List Nat) :
    ∀ scanner ∈ (pool.run stop workers turns).scanners, scanner.talk.isEnded = true ∨
      scanner.hasBegun = false ∧ (pool.run stop workers turns).failure.isSome = true := by
  intro scanner hmem
  obtain ⟨place, hplace⟩ := List.mem_iff_getElem?.mp hmem
  have hstill : (pool.run stop workers turns).goesOn scanner = false := by
    refine stillAt_foldl _ _ place (Or.inl ?_) scanner hplace
    -- moves neither add nor drop a scan, so its place is among those that were finished
    have hleads : (pool.turns stop workers turns).Leads stop (pool.run stop workers turns) :=
      leads_foldl _ _
    have hlength := congrArg List.length (names_leads hleads)
    rw [names, names, List.length_map, List.length_map] at hlength
    obtain ⟨hlt, -⟩ := List.getElem?_eq_some_iff.mp hplace
    exact List.mem_range.mpr (hlength ▸ hlt)
  refine (goesOn_eq_false_iff.mp hstill).imp_right ?_
  rintro ⟨hbegun, hoff⟩
  exact ⟨hbegun, isSome_failure_of_calledOff (leads_run pool turns) hopen hoff⟩

/-- After a run that has met no failure no scan is left. -/
theorem ended_run (pool : Pool) (hopen : pool.calledOff = false) (turns : List Nat)
    (hnone : (pool.run stop workers turns).failure = none) :
    ∀ scanner ∈ (pool.run stop workers turns).scanners, scanner.talk.isEnded = true := by
  intro scanner hmem
  refine (pool.settled_run hopen turns scanner hmem).resolve_right ?_
  rintro ⟨-, hsome⟩
  rw [hnone] at hsome
  cases hsome

/-! ## What a pool notes -/

/-- Some scan of the pool has come to an end. -/
def Ends (pool : Pool) (result : Except Halt Tally) : Prop :=
  ∃ scanner ∈ pool.scanners, scanner.talk = .ended result

/-- The tallies are those of the scans that went through, and there is a failure exactly if a
    scan has failed. -/
structure Noted (pool : Pool) : Prop where
  tallies : ∀ tally, tally ∈ pool.tallies ↔ pool.Ends (.ok tally)
  failed  : ∀ halt, pool.Ends (.error halt) → pool.failure.isSome = true
  failure : ∀ failure, pool.failure = some failure →
    ∃ halt, pool.Ends (.error halt) ∧ halt.failure = failure

/-- A move of a scan that goes on adds at most its own end. -/
theorem ends_move (h : pool.scanners[place]? = some scanner)
    (hgoing : scanner.talk.isEnded = false) (result : Except Halt Tally) :
    (pool.move stop place).Ends result ↔
      pool.Ends result ∨ (scanner.made stop pool.world).result = .ended result := by
  constructor
  · rintro ⟨last, hlast, htalk⟩
    rw [scanners_move h] at hlast
    rcases List.mem_or_eq_of_mem_set hlast with hmem | rfl
    · exact Or.inl ⟨last, hmem, htalk⟩
    · exact Or.inr htalk
  · rintro (⟨last, hlast, htalk⟩ | hmade)
    · obtain ⟨other, hother⟩ := List.mem_iff_getElem?.mp hlast
      -- a scan that has ended is not the one that moves
      have hne : other ≠ place := by
        rintro rfl
        rw [h] at hother
        cases hother
        rw [htalk] at hgoing
        cases hgoing
      refine ⟨last, List.mem_iff_getElem?.mpr ⟨other, ?_⟩, htalk⟩
      rw [getElem?_move_of_ne h hne, hother]
    · exact ⟨scanner.moved stop pool.world,
        List.mem_iff_getElem?.mpr ⟨place, getElem?_move_self h⟩, hmade⟩

/-- Nothing to note has happened if the ends are the same. -/
theorem Noted.of_same {later : Pool} (h : pool.Noted)
    (hends : ∀ result, later.Ends result ↔ pool.Ends result)
    (htallies : later.tallies = pool.tallies) (hfailure : later.failure = pool.failure) :
    later.Noted where
  tallies := fun tally => by rw [htallies, hends]; exact h.tallies tally
  failed  := fun halt hhalt => by rw [hfailure]; exact h.failed halt ((hends _).mp hhalt)
  failure := fun failure hf => by
    obtain ⟨halt, hhalt, heq⟩ := h.failure failure (hfailure ▸ hf)
    exact ⟨halt, (hends _).mpr hhalt, heq⟩

/-- The end of one scan is noted once. -/
theorem Noted.note (hnoted : pool.Noted) {scanners : List Scanner} {w : World}
    {result : Except Halt Tally}
    (hends : ∀ other, (pool.note scanners w (.ended result)).Ends other ↔
      pool.Ends other ∨ other = result) :
    (pool.note scanners w (.ended result)).Noted := by
  cases result with
  | ok tally =>
      refine ⟨?_, ?_, ?_⟩
      · intro other
        rw [hends, ← hnoted.tallies]
        simp [Pool.note]
      · intro halt hhalt
        rcases (hends _).mp hhalt with hbefore | hnow
        · exact hnoted.failed halt hbefore
        · cases hnow
      · intro failure hfailure
        obtain ⟨halt, hhalt, heq⟩ := hnoted.failure failure hfailure
        exact ⟨halt, (hends _).mpr (Or.inl hhalt), heq⟩
  | error halt =>
      refine ⟨?_, ?_, ?_⟩
      · intro other
        rw [hends, ← hnoted.tallies]
        simp [Pool.note]
      · intro other _
        simp only [Pool.note, Option.isSome_or, Option.isSome_some, Bool.or_true]
      · intro failure hfailure
        simp only [Pool.note] at hfailure
        -- the first failure stays; this one counts if there was none
        cases hbefore : pool.failure with
        | some first =>
            obtain ⟨other, hother, heq⟩ := hnoted.failure first hbefore
            rw [hbefore] at hfailure
            cases hfailure
            exact ⟨other, (hends _).mpr (Or.inl hother), heq⟩
        | none =>
            rw [hbefore] at hfailure
            cases hfailure
            exact ⟨halt, (hends _).mpr (Or.inr rfl), rfl⟩

theorem noted_move (hnoted : pool.Noted) (h : pool.scanners[place]? = some scanner)
    (hgoing : scanner.talk.isEnded = false) : (pool.move stop place).Noted := by
  have hends : ∀ result, (pool.move stop place).Ends result ↔
      pool.Ends result ∨ (scanner.made stop pool.world).result = .ended result :=
    ends_move h hgoing
  rw [move_eq h] at hends ⊢
  cases hend : (scanner.made stop pool.world).result.isEnded with
  | true =>
      obtain ⟨result, hresult⟩ := Dialogue.eq_ended_of_isEnded hend
      rw [hresult] at hends ⊢
      refine hnoted.note ?_
      intro other
      rw [hends, Dialogue.ended.injEq, eq_comm]
  | false =>
      -- the scan goes on, so the ends are those there were
      rw [note_of_going _ _ hend] at hends ⊢
      refine hnoted.of_same ?_ rfl rfl
      intro result
      rw [hends]
      refine or_iff_left ?_
      intro hresult
      rw [hresult] at hend
      cases hend

theorem noted_leads {later : Pool} (hnoted : pool.Noted) (h : pool.Leads stop later) :
    later.Noted := by
  induction h with
  | refl => exact hnoted
  | move _ hplace hgoing ih => exact noted_move ih hplace hgoing
  | heed _ ih => exact ih.of_same (fun _ => Iff.rfl) rfl rfl

/-- A pool at its start has nothing to note: every scan opens with a line. -/
theorem noted_start (plan : Plan) (names : List String) (w : World) :
    (start plan names w).Noted := by
  have hnone : ∀ result, ¬ (start plan names w).Ends result := by
    rintro result ⟨scanner, hmem, htalk⟩
    obtain ⟨name, -, rfl⟩ := List.mem_map.mp hmem
    cases htalk
  refine ⟨?_, ?_, ?_⟩
  · intro tally
    exact ⟨fun hmem => (nomatch hmem), fun hend => absurd hend (hnone _)⟩
  · intro halt hend
    exact absurd hend (hnone _)
  · intro failure hfailure
    cases hfailure

end Pool

end OrphanSweep
