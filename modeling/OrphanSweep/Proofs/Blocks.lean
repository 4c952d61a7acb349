import OrphanSweep.Proofs.SetScan
import OrphanSweep.Proofs.SetSweep

/-! # The blocks of a set

    A scan of a set that nothing strikes goes through it block by block: it scrolls to a block, looks
    it up, deletes its orphans, and only then scrolls to the next one.  The blocks are the stretches
    that the set has at the start (`Plan.stretch`), each exactly once and in order, although the scan
    deletes behind itself.  Here all of its questions are written down (`Plan.callsAt`). -/

namespace OrphanSweep

/-! ## Blocks -/

namespace Plan

variable (plan : Plan) (registry : Registry) (held : PointSet)

/-- The cursor at which the `k`th block is scrolled: none for the first one, then its first id. -/
def cursorAt (k : Nat) : Option PointId :=
  if k = 0 then none else held.toList[k * plan.pageLength]?

/-- The orphans of the `k`th block. -/
def orphansAt (k : Nat) : PointSet :=
  (PointSet.ofList (plan.stretch held k)).filter fun p => !registry.hasRow p

/-- The orphans of the `k`th block are deleted if there are any and the run is not dry. -/
def deletesAt (k : Nat) : List Call :=
  if plan.dryRun || (plan.orphansAt registry held k).isEmpty then []
  else [.delete (plan.orphansAt registry held k)]

/-- The work on the `k`th block: it is looked up unless it is empty, and its orphans are deleted. -/
def workAt (k : Nat) : List Call :=
  if (plan.stretch held k).isEmpty then []
  else .lookup (.ofList (plan.stretch held k)) :: plan.deletesAt registry held k

/-- All that is asked for the `k`th block. -/
def callsAt (k : Nat) : List Call :=
  .stopping :: .scroll (plan.cursorAt held k) plan.pageSize :: plan.workAt registry held k

variable {plan held}

/-- The blocks up to one are the members up to it. -/
theorem flatMap_stretch (n : Nat) :
    (List.range n).flatMap (plan.stretch held) = held.toList.take (n * plan.pageLength) := by
  induction n with
  | zero => simp
  | succ n ih =>
      rw [List.range_succ, List.flatMap_append, ih, List.flatMap_singleton, take_succ_mul]

variable (hsize : 0 < plan.pageLength)
include hsize

/-- All blocks together are the set. -/
theorem flatMap_stretch_pageCount :
    (List.range (plan.pageCount held)).flatMap (plan.stretch held) = held.toList := by
  rw [flatMap_stretch, List.take_of_length_le (size_le_pageCount_mul hsize)]

/-- Every block but the last is full. -/
theorem length_stretch {k : Nat} (hk : k + 1 < plan.pageCount held) :
    (plan.stretch held k).length = plan.pageLength := by
  have hinside : (k + 1) * plan.pageLength < held.size := by
    rcases (lt_pageCount hsize).mp hk with hzero | hinside
    · omega
    · exact hinside
  rw [Nat.succ_mul] at hinside
  rw [stretch, List.length_take, List.length_drop]
  exact Nat.min_eq_left (by rw [PointSet.size] at hinside; omega)

omit hsize in
/-- The members of a block precede those of a later one. -/
theorem stretch_lt {i j : Nat} (hij : i < j) {p q : PointId} (hp : p ∈ plan.stretch held i)
    (hq : q ∈ plan.stretch held j) : p < q := by
  have hfirst : p ∈ held.toList.take (j * plan.pageLength) := by
    have hle : (i + 1) * plan.pageLength ≤ j * plan.pageLength := Nat.mul_le_mul_right _ hij
    refine (List.take_subset_take_left held.toList hle) ?_
    rw [take_succ_mul]
    exact List.mem_append_right _ hp
  have hsecond : q ∈ held.toList.drop (j * plan.pageLength) := List.mem_of_mem_take hq
  have hsplit := List.take_append_drop (j * plan.pageLength) held.toList ▸ held.ascending
  exact (List.pairwise_append.mp hsplit).2.2 p hfirst q hsecond

/-- A scan that is at the cursor of a block stands where the block begins. -/
theorem cursorAt_stands {k : Nat} (hk : k < plan.pageCount held) :
    held.CursorAt (k * plan.pageLength) (plan.cursorAt held k) := by
  by_cases hzero : k = 0
  · subst hzero
    exact Or.inl ⟨Nat.zero_mul _, rfl⟩
  · have hinside : k * plan.pageLength < held.toList.length :=
      ((lt_pageCount hsize).mp hk).resolve_left hzero
    rw [cursorAt, if_neg hzero, List.getElem?_eq_getElem hinside]
    exact Or.inr ⟨_, rfl, List.getElem?_eq_getElem hinside⟩

/-- A later block begins at its cursor. -/
theorem cursorAt_of_pos {k : Nat} (hpos : 0 < k) (hk : k < plan.pageCount held) :
    ∃ first, plan.cursorAt held k = some first ∧ (plan.stretch held k).head? = some first := by
  have hinside : k * plan.pageLength < held.toList.length := by
    rcases (lt_pageCount hsize).mp hk with hzero | hinside
    · omega
    · exact hinside
  refine ⟨held.toList[k * plan.pageLength], ?_, ?_⟩
  · rw [cursorAt, if_neg (Nat.ne_of_gt hpos), List.getElem?_eq_getElem hinside]
  · rw [stretch, List.head?_take, if_neg (Nat.ne_of_gt hsize), List.head?_drop,
      List.getElem?_eq_getElem hinside]

/-- The cursors of the blocks ascend: the first block is scrolled from the nil id on, and so is
    before every point. -/
theorem cursorAt_lt {i j : Nat} (hij : i < j) (hj : j < plan.pageCount held) :
    (plan.cursorAt held i).getD .nil < (plan.cursorAt held j).getD .nil := by
  obtain ⟨q, hq, hhead⟩ := cursorAt_of_pos hsize (Nat.zero_lt_of_lt hij) hj
  have hqmem : q ∈ plan.stretch held j := List.mem_of_head? hhead
  -- a member of the earlier block stands between the two cursors
  obtain ⟨p, hp, hle⟩ : ∃ p ∈ plan.stretch held i, (plan.cursorAt held i).getD .nil ≤ p := by
    by_cases hzero : i = 0
    · subst hzero
      have hlength : 0 < (plan.stretch held 0).length := by
        rw [length_stretch hsize (by omega)]
        exact hsize
      obtain ⟨p, hp⟩ := List.exists_mem_of_length_pos hlength
      exact ⟨p, hp, PointId.nil_le p⟩
    · obtain ⟨p, hp, hhead⟩ := cursorAt_of_pos hsize (Nat.pos_of_ne_zero hzero) (hij.trans hj)
      rw [hp]
      exact ⟨p, List.mem_of_head? hhead, PointId.le_refl p⟩
  rw [hq]
  exact Nat.lt_of_le_of_lt hle (stretch_lt hij hp hqmem)

omit hsize in
/-- An empty set has one block, which is empty. -/
theorem pageCount_of_isEmpty (hempty : held.isEmpty = true) : plan.pageCount held = 1 := by
  have hzero : held.size = 0 := List.length_eq_zero_iff.mpr (List.isEmpty_iff.mp hempty)
  have hnone : (0 + plan.pageLength - 1) / plan.pageLength = 0 := by
    rcases Nat.eq_zero_or_pos plan.pageLength with hlength | hlength
    · rw [hlength]
    · exact Nat.div_eq_of_lt (by omega)
  rw [pageCount, hzero, hnone]
  rfl

omit hsize in
theorem callsAt_of_isEmpty (hempty : held.isEmpty = true) :
    plan.callsAt registry held 0 = [.stopping, .scroll none plan.pageSize] := by
  have hblock : plan.stretch held 0 = [] := by
    rw [stretch, List.isEmpty_iff.mp hempty, List.drop_nil, List.take_nil]
  rw [callsAt, workAt, hblock]
  rfl

end Plan

/-! ## The questions of a scan -/

/-- A call is answered as the collection by itself is if nothing strikes it, and it is written
    down. -/
def Traces (registry : Registry) (name : String) (call : Call) (now : Collection × List Call)
    (reply : call.Reply) (next : Collection × List Call) : Prop :=
  now.1.Answers True registry name call reply next.1 ∧ next.2 = now.2 ++ [call]

namespace Scan

open Dialogue

variable (plan : Plan) (registry : Registry) (name : String) {held : PointSet}
variable {c : Collection} {asked : List Call}

/-- A part of a scan that does not fail, with what it has asked. -/
abbrev Traced {α ε : Type} (good : α → Collection → Prop) (calls : List Call)
    (talk : Talk (Except ε α)) (c : Collection) (asked : List Call) : Prop :=
  talk.Keeps (fun _ _ => True) (Traces registry name)
    (Ending (fun value next => good value next.1 ∧ next.2 = asked ++ calls) fun _ => False)
    (c, asked)

variable {plan registry name}

/-- A call is asked once if nothing strikes it. -/
theorem traced_call {α : Type} {what : String} {reached : Tally} {attempt : Talk (Except Failure α)}
    {call : Call} {good : α → Collection → Prop} {bad : Collection → Prop}
    (hmeets : Meets registry name True (Ending good fun next => ¬ True ∧ bad next) attempt c)
    (hasks : attempt.Keeps (fun _ _ => True) (fun ask asked _ next => next = asked ++ [ask])
      (fun _ next => next = asked ++ [call]) asked) :
    Traced registry name good [call] (Scan.call plan name what reached attempt) c asked := by
  have hattempt : Traced registry name good [call] attempt c asked := by
    have hstart : (c, asked).1 = c ∧ (c, asked).2 = asked := ⟨rfl, rfl⟩
    have hstate := hmeets.along Prod.fst (Traces registry name) hstart.1 fun _ _ _ _ h => h.1
    have hcalls := hasks.along Prod.snd (Traces registry name) hstart.2 fun _ _ _ _ h => h.2
    refine (hstate.and hcalls).mono ?_
    rintro result next ⟨hresult, hnext⟩
    cases result with
    | ok value => exact ⟨hresult, hnext⟩
    | error failure => exact absurd trivial hresult.1
  exact keeps_call (fun _ h => h.elim) (fun s (hs : s = (c, asked)) => hs ▸ hattempt) rfl

/-- What follows a part is written down behind it. -/
theorem Traced.andThen {α β ε : Type} {good : α → Collection → Prop} {good' : β → Collection → Prop}
    {calls calls' : List Call} {first : Talk (Except ε α)} {next : α → Talk (Except ε β)}
    (h : Traced registry name good calls first c asked)
    (hnext : ∀ value last, good value last →
      Traced registry name good' calls' (next value) last (asked ++ calls)) :
    Traced registry name good' (calls ++ calls') (first.andThen next) c asked := by
  refine Keeps.andThen h ?_ fun _ _ hfalse => hfalse
  rintro value ⟨last, now⟩ ⟨hgood, rfl⟩
  refine (hnext value last hgood).mono ?_
  intro result next hnow
  cases result with
  | ok value => exact ⟨hnow.1, by rw [hnow.2, List.append_assoc]⟩
  | error error => exact hnow

theorem traced_ended {α ε : Type} {good : α → Collection → Prop} {value : α} (h : good value c) :
    Traced registry name good [] (.ended (.ok value : Except ε α)) c asked :=
  ⟨h, (List.append_nil asked).symm⟩

variable (hworks : registry.Works)

/-- The orphans of a block are deleted, unless the run is dry. -/
theorem traced_prune {k : Nat} (t : Tally) (h : Cleared plan registry held k c)
    (hsome : (plan.orphansAt registry held k).isEmpty = false) :
    Traced registry name (fun _ => Cleared plan registry held (k + 1))
      (plan.deletesAt registry held k)
      (prune plan name t (plan.orphansAt registry held k)) c asked := by
  have horphans : ∀ p, p ∈ plan.orphansAt registry held k ↔
      p ∈ plan.stretch held k ∧ registry.hasRow p = false := by
    intro p
    rw [Plan.orphansAt, PointSet.mem_filter, PointSet.mem_ofList, Bool.not_eq_true']
  rw [prune, Plan.deletesAt, hsome, Bool.or_false]
  by_cases hdry : plan.dryRun = true
  · rw [if_pos hdry, if_pos hdry]
    refine traced_ended (cleared_of_spared plan registry held (fun p _ => ?_) h)
    rw [Plan.spares, hdry, Bool.true_or]
  · rw [if_neg hdry, if_neg hdry]
    have hids : ∀ p, p ∈ plan.orphansAt registry held k ↔
        p ∈ plan.stretch held k ∧ plan.spares registry p = false := by
      intro p
      rw [horphans, Plan.spares, Bool.eq_false_iff.mpr hdry, Bool.false_or]
    show Traced registry name _ ([.delete (plan.orphansAt registry held k)] ++ []) _ c asked
    refine (traced_call (meets_delete plan registry name True held hids (Or.inl h))
      ⟨trivial, ?_⟩).andThen fun count last hlast => traced_ended hlast.1
    rintro reply next rfl
    rw [keeps_showAll, keeps_ended]

include hworks in
/-- A block is worked on. -/
theorem traced_work {k : Nat} (t : Tally) (h : Cleared plan registry held k c) :
    Traced registry name (fun _ => Cleared plan registry held (k + 1))
      (plan.workAt registry held k) (work plan name t (plan.stretch held k)) c asked := by
  -- a block without orphans is behind the scan as it is
  have hnone : ∀ c', (∀ p ∈ plan.stretch held k, registry.hasRow p = true) →
      Cleared plan registry held k c' → Cleared plan registry held (k + 1) c' := by
    intro c' hrows hc'
    refine cleared_of_spared plan registry held ?_ hc'
    intro p hp
    rw [Plan.spares, hrows p hp, Bool.or_true]
  rw [work, Plan.workAt]
  by_cases hempty : (plan.stretch held k).isEmpty = true
  · rw [if_pos hempty, if_pos hempty]
    refine traced_ended (hnone c ?_ h)
    rw [List.isEmpty_iff.mp hempty]
    exact List.forall_mem_nil _
  · rw [if_neg hempty, if_neg hempty]
    show Traced registry name _
      ([.lookup (.ofList (plan.stretch held k))] ++ plan.deletesAt registry held k) _ c asked
    refine (traced_call (meets_lookup plan registry name True held (fun _ => hworks) h)
      ⟨trivial, fun _ _ hnext => hnext⟩).andThen ?_
    rintro _ last ⟨hlast, rfl⟩
    rw [PointSet.diff_filter]
    have horphans : (PointSet.ofList (plan.stretch held k)).filter (fun p => !registry.hasRow p) =
        plan.orphansAt registry held k := rfl
    rw [horphans]
    dsimp only
    by_cases hall : (plan.orphansAt registry held k).isEmpty = true
    · rw [if_pos hall, Plan.deletesAt, hall, Bool.or_true, if_pos rfl]
      refine traced_ended (hnone last ?_ hlast)
      intro p hp
      have hnot := PointSet.isEmpty_iff.mp hall p
      rw [Plan.orphansAt, PointSet.mem_filter, PointSet.mem_ofList] at hnot
      simpa [hp] using hnot
    · rw [if_neg hall]
      exact keeps_shows.mpr (traced_prune _ hlast (Bool.eq_false_iff.mpr hall))

/-- A scan that nothing strikes is not told to stop. -/
theorem keeps_going {α : Type} {halted rest : Talk α} {post : α → Collection × List Call → Prop}
    (h : rest.Keeps (fun _ _ => True) (Traces registry name) post (c, asked ++ [.stopping])) :
    (Dialogue.asks Call.stopping fun stop => if stop then halted else rest).Keeps (fun _ _ => True)
      (Traces registry name) post (c, asked) := by
  refine ⟨trivial, ?_⟩
  rintro stop ⟨c', now⟩ ⟨⟨told, strike, hcalm, hanswer⟩, hnow⟩
  obtain ⟨rfl, rfl⟩ := Prod.mk.inj hanswer
  obtain rfl : now = asked ++ [.stopping] := hnow
  have hgoing : told = false := (hcalm trivial).1
  subst hgoing
  exact h

/-- A scan has asked for some blocks and for nothing else. -/
def AskedUpTo (plan : Plan) (registry : Registry) (held : PointSet) (k : Nat) : List Call :=
  (List.range k).flatMap (plan.callsAt registry held)

theorem askedUpTo_succ (k : Nat) : AskedUpTo plan registry held (k + 1) =
    AskedUpTo plan registry held k ++ [.stopping] ++ [.scroll (plan.cursorAt held k) plan.pageSize] ++
      plan.workAt registry held k := by
  rw [AskedUpTo, List.range_succ, List.flatMap_append, List.flatMap_singleton, Plan.callsAt]
  simp [AskedUpTo]

include hworks in
/-- **The loop.**  A scan that is at a block asks for it and then for those behind it. -/
theorem traced_pages (hsize : 0 < plan.pageLength) (bound : Nat) :
    ∀ (k : Nat) (t : Tally) (c : Collection), k < plan.pageCount held →
      plan.pageCount held ≤ bound + k → Cleared plan registry held k c →
      (pages plan name bound t (plan.cursorAt held k)).Keeps (fun _ _ => True)
        (Traces registry name)
        (Ending (fun _ next => next.2 = AskedUpTo plan registry held (plan.pageCount held))
          fun _ => False)
        (c, AskedUpTo plan registry held k) := by
  induction bound with
  | zero =>
      intro k t c hk hbound
      omega
  | succ bound ih =>
      intro k t c hk hbound h
      refine keeps_going ?_
      have hcursor := Plan.cursorAt_stands hsize hk
      refine Keeps.andThen (traced_call (meets_fetch plan registry name True held hcursor h)
        ⟨trivial, fun _ _ hnext => hnext⟩) ?_ fun _ _ hfalse => hfalse
      rintro _ ⟨last, now⟩ ⟨⟨hlast, rfl⟩, rfl⟩
      refine Keeps.andThen (traced_work hworks _ hlast) ?_ fun _ _ hfalse => hfalse
      rintro t ⟨after, now⟩ ⟨hafter, rfl⟩
      dsimp only
      rw [← askedUpTo_succ]
      cases hnext : held.toList[(k + 1) * plan.pageLength]? with
      | none =>
          -- no point follows, so this was the last block
          rw [Plan.succ_eq_pageCount hsize hk hnext]
          exact (rfl : AskedUpTo plan registry held _ = _)
      | some next =>
          have hcursor' : plan.cursorAt held (k + 1) = some next := hnext
          dsimp only
          rw [if_neg (cursor_ne_next plan held hsize hcursor hnext), ← hcursor']
          exact ih (k + 1) t after (Plan.succ_lt_pageCount hsize hnext) (by omega) hafter

include hworks in
/-- **A scan that nothing strikes asks for the blocks of its set**, one after the other. -/
theorem traced_scan (hsize : 0 < plan.pageLength) (h : c.contents = .points held) :
    (scan plan name c.contents.pageBound).Keeps (fun _ _ => True) (Traces registry name)
      (Ending (fun _ next => next.2 = AskedUpTo plan registry held (plan.pageCount held))
        fun _ => False)
      (c, []) := by
  have hstart : Cleared plan registry held 0 c := by
    rw [Cleared, Nat.zero_mul, PointSet.cleared_zero]
    exact h
  have hbound : plan.pageCount held ≤ c.contents.pageBound + 0 := by
    rw [h]
    exact Plan.pageCount_le_pageBound hsize
  exact keeps_shows.mpr (Keeps.andThen (traced_pages hworks hsize _ 0 _ c
    ((Plan.lt_pageCount hsize).mpr (Or.inl rfl)) hbound hstart) (fun _ _ h => h) (fun _ _ h => h))

end Scan

/-! ## Worlds in which nothing strikes -/

/-- A world that comes from another one, and in which nothing strikes the scan of a collection. -/
structure World.Spares (stop : Nat) (name : String) (before w : World) : Prop where
  registry : w.registry = before.registry
  schedule : w.schedule = before.schedule
  going    : w.stopping stop = false
  quiet    : (w.collection name).Quiet before.schedule name

theorem World.Spares.answer {stop : Nat} {name : String} {before w : World}
    (h : World.Spares stop name before w) (call : Call) :
    World.Spares stop name before (World.answer stop name call w).state where
  registry := by rw [World.registry_answer, h.registry]
  schedule := by rw [World.schedule_answer, h.schedule]
  going := by
    rw [World.stopping, World.signals_answer, World.aborted_answer, h.schedule,
      (h.quiet.strike call).nudges]
    exact h.going
  quiet := by
    rw [World.collection_answer]
    exact h.quiet.answer _ _ _ _

/-- Its collection answers as it does by itself. -/
theorem World.Spares.answers {stop : Nat} {name : String} {before w : World}
    (h : World.Spares stop name before w) (call : Call) :
    (w.collection name).Answers True before.registry name call (World.answer stop name call w).result
      ((World.answer stop name call w).state.collection name) := by
  refine ⟨w.stopping stop, (w.collection name).strike w.schedule name call, ?_, ?_⟩
  · intro _
    rw [h.schedule]
    exact ⟨h.going, (h.quiet.strike call).failure⟩
  · rw [World.collection_answer, World.result_answer, h.registry]

/-- What is kept of the collection by itself, with what it is asked, holds in such a world. -/
theorem World.Spares.run_traces {α : Type} {stop : Nat} {name : String} {w : World} {talk : Talk α}
    {post : α → Collection × List Call → Prop} (h : World.Spares stop name w w)
    (hkeeps : talk.Keeps (fun _ _ => True) (Traces w.registry name) post (w.collection name, [])) :
    post (talk.run (World.answer stop name) w).result
      ((talk.run (World.answer stop name) w).state.collection name,
        (Line.answered (talk.run (World.answer stop name) w).transcript).map (·.1)) := by
  let view (said : Said) (v : World) : Collection × List Call := (v.collection name, said.map (·.1))
  have hstart : talk.Keeps (fun _ _ => True) (Traces w.registry name) post (view [] w) := hkeeps
  exact (Dialogue.Keeps.run (fun _ => World.Spares stop name w) view
    (fun call said v hv _ => ⟨hv.answer call, hv.answers call, List.map_append⟩) h hstart).2

/-- A scan in such a world goes through and asks for the blocks of its set. -/
theorem World.Spares.asks_blocks {plan : Plan} {stop : Nat} {name : String} {w : World}
    {held : PointSet} (h : World.Spares stop name w w)
    (hheld : (w.collection name).contents = .points held) (hsize : 0 < plan.pageLength)
    (hworks : w.registry.Works) :
    let scanned :=
      (scan plan name (w.collection name).contents.pageBound).run (World.answer stop name) w
    (∃ t, scanned.result = .ok t) ∧ (Line.answered scanned.transcript).map (·.1) =
      Scan.AskedUpTo plan w.registry held (plan.pageCount held) := by
  intro scanned
  have hend := h.run_traces (Scan.traced_scan hworks hsize hheld)
  cases hresult : scanned.result with
  | ok t =>
      rw [hresult] at hend
      exact ⟨⟨t, rfl⟩, hend⟩
  | error halt =>
      rw [hresult] at hend
      exact hend.elim

namespace Sweeper

variable (s : Sweeper)

/-- **A scan visits every point exactly once, in order**, although it deletes behind itself.  If
    nothing strikes it, a scan of a set asks for the blocks of the set and for nothing else: each is
    scrolled to, looked up, and relieved of its orphans before the next one.  The blocks are full but
    for the last, ascend from each to the next, and are together the set; they are scrolled from the
    nil id on and then from the first id of each.  An empty set is only scrolled. -/
theorem scanOne_visits_blocks (name : String) (w : World) (held : PointSet)
    (hheld : (w.collection name).contents = .points held) (hsize : 1 ≤ s.plan.pageSize)
    (hworks : w.registry.Works) (hgoing : w.stopping s.stop = false)
    (hquiet : (w.collection name).Quiet w.schedule name) :
    let scanned := s.scanOne name w
    let calls := (Line.answered scanned.transcript).map (·.1)
    let count := s.plan.pageCount held
    let block := s.plan.stretch held
    let offset k := (s.plan.cursorAt held k).getD .nil
    (∃ t, scanned.result = .ok t) ∧
    calls = (List.range count).flatMap (s.plan.callsAt w.registry held) ∧
    (List.range count).flatMap block = held.toList ∧
    (∀ k, k + 1 < count → (block k).length = s.plan.pageLength) ∧
    (∀ i j, i < j → ∀ p ∈ block i, ∀ q ∈ block j, p < q) ∧
    (∀ k, Call.request name (.scroll (s.plan.cursorAt held k) s.plan.pageSize) =
      some (.scroll { collection := name, offset := (offset k).text, limit := s.plan.pageSize })) ∧
    offset 0 = .nil ∧
    (∀ k, 0 < k → k < count → (block k).head? = some (offset k)) ∧
    (∀ i j, i < j → j < count → offset i < offset j) ∧
    (held.isEmpty = true → calls = [.stopping, .scroll none s.plan.pageSize]) := by
  intro scanned calls count block offset
  have hlength : 0 < s.plan.pageLength := Int.lt_toNat.mpr (by omega)
  obtain ⟨hresult, hcalls⟩ := World.Spares.asks_blocks ⟨rfl, rfl, hgoing, hquiet⟩ hheld hlength hworks
  refine ⟨hresult, hcalls, Plan.flatMap_stretch_pageCount hlength,
    fun k hk => Plan.length_stretch hlength hk, fun i j hij p hp q hq => Plan.stretch_lt hij hp hq,
    ?_, rfl, ?_, fun i j hij hj => Plan.cursorAt_lt hlength hij hj, ?_⟩
  · intro k
    show some _ = some (Event.scroll { offset := ((s.plan.cursorAt held k).getD .nil).text, .. })
    cases s.plan.cursorAt held k <;> rfl
  · intro k hpos hk
    obtain ⟨first, hfirst, hhead⟩ := Plan.cursorAt_of_pos hlength hpos hk
    show _ = some ((s.plan.cursorAt held k).getD .nil)
    rw [hfirst, hhead]
    rfl
  · intro hempty
    rw [show calls = _ from hcalls, Plan.pageCount_of_isEmpty hempty, Scan.AskedUpTo,
      List.range_one, List.flatMap_singleton, Plan.callsAt_of_isEmpty _ hempty]

/-- The nil id and another one, on pages of one id, and a row for the other one: both blocks are
    visited. -/
theorem scanOne_visits_blocks_two :
    let s : Sweeper := { plan := { pageSize := 1 } }
    let p := (PointId.ofNat? 1).getD .nil
    let held := PointSet.ofList [.nil, p]
    let w : World :=
      { collections := [{ name := "c", contents := .points held }]
        registry := { column_named := Registry.defaultColumn_named, rows := some [some p] } }
    let calls := (Line.answered (s.scanOne "c" w).transcript).map (·.1)
    (w.collection "c").contents = .points held ∧ w.registry.Works ∧
      (w.collection "c").Quiet w.schedule "c" ∧
      calls = [0, 1].flatMap (s.plan.callsAt w.registry held) ∧
      calls.filterMap (Call.request "c") =
        [.scroll { collection := "c", offset := PointId.nil.text, limit := 1 },
          .lookup (.ofList [.nil]), .delete { collection := "c", ids := [PointId.nil.text] },
          .scroll { collection := "c", offset := p.text, limit := 1 }, .lookup (.ofList [p])] := by
  intro s p held w calls
  have hworks : w.registry.Works := ⟨rfl, rfl, by decide, by decide +kernel⟩
  have hquiet : (w.collection "c").Quiet w.schedule "c" :=
    ⟨fun _ _ => ⟨rfl, rfl⟩, fun _ _ => ⟨rfl, rfl⟩, fun _ _ => ⟨rfl, rfl⟩⟩
  obtain ⟨-, hcalls, -⟩ :=
    s.scanOne_visits_blocks "c" w held rfl (by decide) hworks rfl hquiet
  have hcount : s.plan.pageCount held = 2 := by decide +kernel
  have hboth : calls = [0, 1].flatMap (s.plan.callsAt w.registry held) := by
    rw [show calls = _ from hcalls, hcount]
    rfl
  refine ⟨rfl, hworks, hquiet, hboth, ?_⟩
  rw [hboth]
  decide +kernel

end Sweeper

end OrphanSweep
