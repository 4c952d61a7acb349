import OrphanSweep.Event

/-! # Dialogues

    A dialogue is a program that asks questions and hears the answers, shows events, and ends with
    a value.  It is data: `run` plays it to its end against a way to answer, and `step` plays one
    node of it, so that several dialogues can take turns.  What was asked, answered and shown is
    the transcript. -/

namespace OrphanSweep

/-- A value that was reached, with the events on the way and the state left behind. -/
structure Outcome (σ α : Type) where
  log    : List Event
  result : α
  state  : σ

/-- A program that asks questions of one kind; the type of an answer depends on the question. -/
inductive Dialogue (Ask : Type) (Reply : Ask → Type) (α : Type)
  /-- The end, with a value. -/
  | ended (value : α)
  /-- Shows an event and goes on. -/
  | shows (event : Event) (rest : Dialogue Ask Reply α)
  /-- Asks, and goes on with the answer. -/
  | asks (ask : Ask) (resume : Reply ask → Dialogue Ask Reply α)

/-- A line of a transcript. -/
inductive Line (Ask : Type) (Reply : Ask → Type)
  /-- An event was shown. -/
  | shown (event : Event)
  /-- A question was asked and answered. -/
  | asked (ask : Ask) (reply : Reply ask)

/-- What became of a dialogue. -/
structure Played (Ask : Type) (Reply : Ask → Type) (σ α : Type) where
  transcript : List (Line Ask Reply)
  result     : α
  state      : σ

/-- A way to answer, which may show events and change a state. -/
abbrev Answering (Ask : Type) (Reply : Ask → Type) (σ : Type) :=
  (ask : Ask) → σ → Outcome σ (Reply ask)

variable {Ask : Type} {Reply : Ask → Type} {σ α β ε : Type}

/-- The events of a transcript, a question counting as the request that it sends. -/
def Line.events (request : Ask → Option Event) (lines : List (Line Ask Reply)) : List Event :=
  lines.filterMap fun
    | shown event => some event
    | asked ask _ => request ask

namespace Dialogue

/-- Goes on with the value at the end. -/
def bind (next : α → Dialogue Ask Reply β) : Dialogue Ask Reply α → Dialogue Ask Reply β
  | ended value      => next value
  | shows event rest => shows event (rest.bind next)
  | asks ask resume  => asks ask fun reply => (resume reply).bind next

/-- Goes on with the value at the end, unless the end is an error. -/
def andThen (d : Dialogue Ask Reply (Except ε α)) (next : α → Dialogue Ask Reply (Except ε β)) :
    Dialogue Ask Reply (Except ε β) :=
  d.bind fun
    | .ok value    => next value
    | .error error => ended (.error error)

/-- Shows several events. -/
def showAll (events : List Event) (rest : Dialogue Ask Reply α) : Dialogue Ask Reply α :=
  events.foldr shows rest

/-- Whether the dialogue has come to its end. -/
def isEnded : Dialogue Ask Reply α → Bool
  | ended _ => true
  | _       => false

/-- The lines of a question: it comes first, then what is shown while it is answered. -/
def heard (ask : Ask) (answered : Outcome σ (Reply ask)) : List (Line Ask Reply) :=
  .asked ask answered.result :: answered.log.map .shown

/-- Plays one node. -/
def step (answer : Answering Ask Reply σ) :
    Dialogue Ask Reply α → σ → Played Ask Reply σ (Dialogue Ask Reply α)
  | ended value, s      => ⟨[], ended value, s⟩
  | shows event rest, s => ⟨[.shown event], rest, s⟩
  | asks ask resume, s  =>
      let answered := answer ask s
      ⟨heard ask answered, resume answered.result, answered.state⟩

/-- Plays a dialogue to its end. -/
def run (answer : Answering Ask Reply σ) : Dialogue Ask Reply α → σ → Played Ask Reply σ α
  | ended value, s      => ⟨[], value, s⟩
  | shows event rest, s =>
      let after := rest.run answer s
      { after with transcript := .shown event :: after.transcript }
  | asks ask resume, s  =>
      let answered := answer ask s
      let after := (resume answered.result).run answer answered.state
      { after with transcript := heard ask answered ++ after.transcript }

/-! ## Playing a dialogue in two parts -/

theorem run_bind (answer : Answering Ask Reply σ) (next : α → Dialogue Ask Reply β)
    (d : Dialogue Ask Reply α) (s : σ) :
    (d.bind next).run answer s =
      let first := d.run answer s
      let second := (next first.result).run answer first.state
      ⟨first.transcript ++ second.transcript, second.result, second.state⟩ := by
  induction d generalizing s with
  | ended value => simp [bind, run]
  | shows event rest ih => simp [bind, run, ih]
  | asks ask resume ih => simp [bind, run, ih]

/-- Playing a node first changes nothing. -/
theorem run_step (answer : Answering Ask Reply σ) (d : Dialogue Ask Reply α) (s : σ) :
    d.run answer s =
      let first := d.step answer s
      let second := first.result.run answer first.state
      ⟨first.transcript ++ second.transcript, second.result, second.state⟩ := by
  cases d <;> simp [run, step]

end Dialogue

end OrphanSweep
