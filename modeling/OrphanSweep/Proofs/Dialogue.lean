import OrphanSweep.Dialogue

/-! # Invariants of dialogues

    A dialogue hears whatever it is answered.  `Keeps` says what holds of it under a rule for the
    answers: every question is one that may be asked in the state it is asked in, and at the end
    the value and the state are related.  It is defined by recursion on the dialogue, so every way
    to put dialogues together has one lemma here, and the loops that are built from them need an
    induction only on their own bounds.

    A rule speaks of a state of its own.  `Keeps.step` and `Keeps.run` carry what it promises over
    to a real way to answer, whose states are seen through a view: a function of what was answered
    so far and of the real state. -/

namespace OrphanSweep

variable {Ask : Type} {Reply : Ask → Type} {σ τ α β ε : Type}

/-- A question with its answer. -/
abbrev Answered (Ask : Type) (Reply : Ask → Type) := (ask : Ask) × Reply ask

/-- The questions of a transcript with their answers; what was shown is left out. -/
def Line.answered (lines : List (Line Ask Reply)) : List (Answered Ask Reply) :=
  lines.filterMap fun
    | shown _         => none
    | asked ask reply => some ⟨ask, reply⟩

namespace Line

@[simp] theorem answered_nil :
    answered ([] : List (Line Ask Reply)) = [] := rfl

@[simp] theorem answered_shown (event : Event) (lines : List (Line Ask Reply)) :
    answered (.shown event :: lines) = answered lines := rfl

@[simp] theorem answered_asked (ask : Ask) (reply : Reply ask)
    (lines : List (Line Ask Reply)) :
    answered (.asked ask reply :: lines) = ⟨ask, reply⟩ :: answered lines := rfl

@[simp] theorem answered_append (first second : List (Line Ask Reply)) :
    answered (first ++ second) = answered first ++ answered second :=
  List.filterMap_append

/-- Events that are only shown answer nothing. -/
@[simp] theorem answered_map_shown (events : List Event) :
    answered (events.map (shown : Event → Line Ask Reply)) = [] := by
  induction events with
  | nil => rfl
  | cons event events ih => exact ih

end Line

namespace Dialogue

/-- A question is answered once, whatever is shown beside it. -/
@[simp] theorem answered_heard (ask : Ask) (answered : Outcome σ (Reply ask)) :
    Line.answered (heard ask answered) = [⟨ask, answered.result⟩] := by
  rw [heard, Line.answered_asked, Line.answered_map_shown]

theorem eq_ended_of_isEnded {d : Dialogue Ask Reply α} (h : d.isEnded = true) :
    ∃ value, d = ended value := by
  cases d with
  | ended value => exact ⟨value, rfl⟩
  | shows event rest => cases h
  | asks ask resume => cases h

/-- Whatever the dialogue is answered within a rule, each of its questions is one that it `may`
    ask in the state it has come to, and the value at the end and the last state satisfy `post`. -/
def Keeps (may : Ask → σ → Prop) (rule : (ask : Ask) → σ → Reply ask → σ → Prop)
    (post : α → σ → Prop) : Dialogue Ask Reply α → σ → Prop
  | ended value, s     => post value s
  | shows _ rest, s    => rest.Keeps may rule post s
  | asks ask resume, s => may ask s ∧
      ∀ reply next, rule ask s reply next → (resume reply).Keeps may rule post next

variable {may : Ask → σ → Prop} {rule : (ask : Ask) → σ → Reply ask → σ → Prop}

section Combinators

variable {post : α → σ → Prop} {final : β → σ → Prop}

theorem keeps_ended {value : α} {s : σ} :
    (ended value : Dialogue Ask Reply α).Keeps may rule post s ↔ post value s :=
  Iff.rfl

theorem keeps_shows {event : Event} {rest : Dialogue Ask Reply α} {s : σ} :
    (shows event rest).Keeps may rule post s ↔ rest.Keeps may rule post s :=
  Iff.rfl

theorem keeps_asks {ask : Ask} {resume : Reply ask → Dialogue Ask Reply α} {s : σ} :
    (asks ask resume).Keeps may rule post s ↔
      may ask s ∧
        ∀ reply next, rule ask s reply next → (resume reply).Keeps may rule post next :=
  Iff.rfl

theorem keeps_showAll {events : List Event} {rest : Dialogue Ask Reply α} {s : σ} :
    (showAll events rest).Keeps may rule post s ↔ rest.Keeps may rule post s := by
  induction events with
  | nil => exact Iff.rfl
  | cons event events ih => exact keeps_shows.trans ih

/-- A weaker end is kept too. -/
theorem Keeps.mono {post' : α → σ → Prop} {d : Dialogue Ask Reply α} {s : σ}
    (h : d.Keeps may rule post s)
    (hpost : ∀ value last, post value last → post' value last) :
    d.Keeps may rule post' s := by
  induction d generalizing s with
  | ended value => exact hpost value s h
  | shows event rest ih => exact ih h
  | asks ask resume ih =>
      obtain ⟨hmay, hrest⟩ := h
      refine ⟨hmay, ?_⟩
      intro reply next hrule
      exact ih reply (hrest reply next hrule)

/-- What is kept of what a view shows is kept of the states behind it, if their answers follow the
    rule as the view shows them. -/
theorem Keeps.along {d : Dialogue Ask Reply α} {s : σ} (h : d.Keeps may rule post s) (view : τ → σ)
    (rule' : (ask : Ask) → τ → Reply ask → τ → Prop) {t : τ} (ht : view t = s)
    (hrule : ∀ ask t reply next, rule' ask t reply next → rule ask (view t) reply (view next)) :
    d.Keeps (fun ask t => may ask (view t)) rule' (fun value last => post value (view last)) t := by
  subst ht
  induction d generalizing t with
  | ended value => exact h
  | shows event rest ih => exact ih h
  | asks ask resume ih =>
      obtain ⟨hmay, hrest⟩ := h
      exact ⟨hmay, fun reply next hnext => ih reply (hrest reply _ (hrule ask t reply next hnext))⟩

/-- Two things that are kept are kept together. -/
theorem Keeps.and {post' : α → σ → Prop} {d : Dialogue Ask Reply α} {s : σ}
    (h : d.Keeps may rule post s) (h' : d.Keeps may rule post' s) :
    d.Keeps may rule (fun value last => post value last ∧ post' value last) s := by
  induction d generalizing s with
  | ended value => exact ⟨h, h'⟩
  | shows event rest ih => exact ih h h'
  | asks ask resume ih =>
      exact ⟨h.1, fun reply next hnext => ih reply (h.2 reply next hnext) (h'.2 reply next hnext)⟩

/-- What goes on from the value at the end is kept from there. -/
theorem keeps_bind {next : α → Dialogue Ask Reply β} {d : Dialogue Ask Reply α} {s : σ} :
    (d.bind next).Keeps may rule final s ↔
      d.Keeps may rule (fun value => (next value).Keeps may rule final) s := by
  induction d generalizing s with
  | ended value => exact Iff.rfl
  | shows event rest ih => exact ih
  | asks ask resume ih =>
      simp only [bind, keeps_asks]
      constructor
      · rintro ⟨hmay, hrest⟩
        exact ⟨hmay, fun reply last hrule => (ih reply).mp (hrest reply last hrule)⟩
      · rintro ⟨hmay, hrest⟩
        exact ⟨hmay, fun reply last hrule => (ih reply).mpr (hrest reply last hrule)⟩

/-- An error ends the whole; a value is gone on from. -/
theorem Keeps.andThen {mid : Except ε α → σ → Prop} {final : Except ε β → σ → Prop}
    {next : α → Dialogue Ask Reply (Except ε β)}
    {d : Dialogue Ask Reply (Except ε α)} {s : σ}
    (h : d.Keeps may rule mid s)
    (hok : ∀ value last, mid (.ok value) last →
      (next value).Keeps may rule final last)
    (herror : ∀ error last, mid (.error error) last → final (.error error) last) :
    (d.andThen next).Keeps may rule final s := by
  refine keeps_bind.mpr (h.mono ?_)
  intro result last hmid
  cases result with
  | ok value => exact hok value last hmid
  | error error => exact herror error last hmid

end Combinators

/-! ## Playing a dialogue that keeps its promises -/

section Playing

variable {answer : Answering Ask Reply τ} {post : α → σ → Prop}
variable (stable : List (Answered Ask Reply) → τ → Prop)
variable (view : List (Answered Ask Reply) → τ → σ)

/-- One node keeps them, if every answer follows the rule as the view shows it. -/
theorem Keeps.step
    (hanswer : ∀ ask said w, stable said w → may ask (view said w) →
      stable (said ++ [⟨ask, (answer ask w).result⟩]) (answer ask w).state ∧
      rule ask (view said w) (answer ask w).result
        (view (said ++ [⟨ask, (answer ask w).result⟩]) (answer ask w).state))
    {d : Dialogue Ask Reply α} {said : List (Answered Ask Reply)} {w : τ}
    (hstable : stable said w) (h : d.Keeps may rule post (view said w)) :
    let made := d.step answer w
    let now := said ++ Line.answered made.transcript
    stable now made.state ∧ made.result.Keeps may rule post (view now made.state) := by
  cases d with
  | ended value =>
      simp only [Dialogue.step, Line.answered_nil, List.append_nil]
      exact ⟨hstable, h⟩
  | shows event rest =>
      simp only [Dialogue.step, Line.answered_shown, Line.answered_nil, List.append_nil]
      exact ⟨hstable, h⟩
  | asks ask resume =>
      simp only [Dialogue.step, answered_heard]
      obtain ⟨hnext, hrule⟩ := hanswer ask said w hstable h.1
      exact ⟨hnext, h.2 _ _ hrule⟩

/-- So does the whole of it. -/
theorem Keeps.run
    (hanswer : ∀ ask said w, stable said w → may ask (view said w) →
      stable (said ++ [⟨ask, (answer ask w).result⟩]) (answer ask w).state ∧
      rule ask (view said w) (answer ask w).result
        (view (said ++ [⟨ask, (answer ask w).result⟩]) (answer ask w).state))
    {d : Dialogue Ask Reply α} {said : List (Answered Ask Reply)} {w : τ}
    (hstable : stable said w) (h : d.Keeps may rule post (view said w)) :
    let played := d.run answer w
    let now := said ++ Line.answered played.transcript
    stable now played.state ∧ post played.result (view now played.state) := by
  induction d generalizing said w with
  | ended value =>
      simp only [Dialogue.run, Line.answered_nil, List.append_nil]
      exact ⟨hstable, h⟩
  | shows event rest ih =>
      simp only [Dialogue.run, Line.answered_shown]
      exact ih hstable h
  | asks ask resume ih =>
      simp only [Dialogue.run, Line.answered_append, answered_heard, ← List.append_assoc]
      obtain ⟨hnext, hrule⟩ := hanswer ask said w hstable h.1
      exact ih _ hnext (h.2 _ _ hrule)

/-- The rule that a way to answer follows exactly. -/
def Exactly (answer : Answering Ask Reply σ) (ask : Ask) (s : σ) (reply : Reply ask) (next : σ) :
    Prop :=
  reply = (answer ask s).result ∧ next = (answer ask s).state

/-- What is kept under a rule holds after a run whose answers follow it. -/
theorem Keeps.run_follows {answer : Answering Ask Reply σ}
    (hanswer : ∀ ask s, rule ask s (answer ask s).result (answer ask s).state)
    {d : Dialogue Ask Reply α} {s : σ} (h : d.Keeps may rule post s) :
    post (d.run answer s).result (d.run answer s).state := by
  induction d generalizing s with
  | ended value => exact h
  | shows event rest ih => exact ih h
  | asks ask resume ih => exact ih _ (h.2 _ _ (hanswer ask s))

/-- What is kept under exactly the answers of a world holds once they have been given. -/
theorem Keeps.run_exactly {answer : Answering Ask Reply σ} {d : Dialogue Ask Reply α} {s : σ}
    (h : d.Keeps may (Exactly answer) post s) :
    post (d.run answer s).result (d.run answer s).state :=
  h.run_follows fun _ _ => ⟨rfl, rfl⟩

/-- What is kept whatever the answers are holds after every run. -/
theorem Keeps.run_any {post : α → Unit → Prop} {d : Dialogue Ask Reply α}
    (h : d.Keeps (fun _ _ => True) (fun _ _ _ _ => True) post ())
    (answer : Answering Ask Reply τ) (w : τ) : post (d.run answer w).result () := by
  induction d generalizing w with
  | ended value => exact h
  | shows event rest ih => exact ih h w
  | asks ask resume ih => exact ih _ (h.2 _ () trivial) _

end Playing

/-- One node leaves the state as it is, or as an answer leaves it. -/
theorem step_preserves {answer : Answering Ask Reply τ} (holds : τ → Prop) {w : τ}
    (d : Dialogue Ask Reply α) (h : holds w) (hanswer : ∀ ask, holds (answer ask w).state) :
    holds (d.step answer w).state := by
  cases d with
  | ended value => exact h
  | shows event rest => exact h
  | asks ask resume => exact hanswer ask

/-- What no answer destroys holds after the whole. -/
theorem run_preserves {answer : Answering Ask Reply τ} {holds : τ → Prop}
    (hanswer : ∀ ask w, holds w → holds (answer ask w).state)
    (d : Dialogue Ask Reply α) {w : τ} (h : holds w) : holds (d.run answer w).state := by
  induction d generalizing w with
  | ended value => exact h
  | shows event rest ih => exact ih h
  | asks ask resume ih => exact ih _ (hanswer ask w h)

section Shows

/-- Answers keep what `holds`, and show a sign whenever it comes to be `told` in them. -/
def Shows (answer : Answering Ask Reply τ) (holds told : τ → Prop) (sign : Event → Prop) : Prop :=
  ∀ ask w, holds w → holds (answer ask w).state ∧
    (told (answer ask w).state → told w ∨ ∃ event ∈ (answer ask w).log, sign event)

variable {answer : Answering Ask Reply τ} {holds told : τ → Prop} {sign : Event → Prop}

/-- What comes to be told in a node is shown there. -/
theorem Shows.step (hanswer : Shows answer holds told sign) (d : Dialogue Ask Reply α) {w : τ}
    (h : holds w) :
    holds (d.step answer w).state ∧ (told (d.step answer w).state →
      told w ∨ ∃ event, sign event ∧ .shown event ∈ (d.step answer w).transcript) := by
  cases d with
  | ended value => exact ⟨h, Or.inl⟩
  | shows event rest => exact ⟨h, Or.inl⟩
  | asks ask resume =>
      obtain ⟨hnext, hshown⟩ := hanswer ask w h
      refine ⟨hnext, fun htold => (hshown htold).imp_right ?_⟩
      rintro ⟨event, hevent, hsign⟩
      exact ⟨event, hsign, List.mem_cons_of_mem _ (List.mem_map_of_mem hevent)⟩

/-- So it is in the whole. -/
theorem Shows.run (hanswer : Shows answer holds told sign) (d : Dialogue Ask Reply α) {w : τ}
    (h : holds w) :
    holds (d.run answer w).state ∧ (told (d.run answer w).state →
      told w ∨ ∃ event, sign event ∧ .shown event ∈ (d.run answer w).transcript) := by
  induction d generalizing w with
  | ended value => exact ⟨h, Or.inl⟩
  | shows event rest ih =>
      obtain ⟨hlast, hshown⟩ := ih h
      refine ⟨hlast, fun htold => (hshown htold).imp_right ?_⟩
      rintro ⟨other, hsign, hmem⟩
      exact ⟨other, hsign, List.mem_cons_of_mem _ hmem⟩
  | asks ask resume ih =>
      obtain ⟨hnext, hfirst⟩ := hanswer ask w h
      obtain ⟨hlast, hrest⟩ := ih (answer ask w).result hnext
      refine ⟨hlast, fun htold => ?_⟩
      rcases hrest htold with hnow | ⟨event, hsign, hmem⟩
      · refine (hfirst hnow).imp_right ?_
        rintro ⟨event, hevent, hsign⟩
        exact ⟨event, hsign, List.mem_append_left _
          (List.mem_cons_of_mem _ (List.mem_map_of_mem hevent))⟩
      · exact Or.inr ⟨event, hsign, List.mem_append_right _ hmem⟩

end Shows

/-- What holds of every answer to a state that is kept holds of all that was answered. -/
theorem forall_answered {answer : Answering Ask Reply τ} {holds : τ → Prop}
    {good : (ask : Ask) → Reply ask → Prop}
    (hanswer : ∀ ask w, holds w → good ask (answer ask w).result ∧ holds (answer ask w).state)
    (d : Dialogue Ask Reply α) {w : τ} (h : holds w) :
    ∀ a ∈ Line.answered (d.run answer w).transcript, good a.1 a.2 := by
  induction d generalizing w with
  | ended value => exact List.forall_mem_nil _
  | shows event rest ih => exact ih h
  | asks ask resume ih =>
      obtain ⟨hgood, hnext⟩ := hanswer ask w h
      rw [run, Line.answered_append, answered_heard]
      exact List.forall_mem_cons.mpr ⟨hgood, ih _ hnext⟩

end Dialogue

end OrphanSweep
