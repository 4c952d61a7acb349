import Mathlib.Data.List.Chain
import OrphanSweep.Proofs.Dialogue

/-! # The moments of a run

    A transcript tells what was asked and answered, but not in which state.  The moments of a run
    tell both: each question, the state before it, its reply and the state after it.  They are the
    questions of the transcript (`answered_moments`), so what is said about the moment at which a
    state changes is said about a place in the transcript. -/

namespace OrphanSweep

variable {Ask : Type} {Reply : Ask → Type} {σ α β : Type}

/-- A question of a run, with the states before and after it. -/
structure Moment (Ask : Type) (Reply : Ask → Type) (σ : Type) where
  ask    : Ask
  before : σ
  reply  : Reply ask
  after  : σ

/-- The question and its reply. -/
def Moment.answered (m : Moment Ask Reply σ) : Answered Ask Reply := ⟨m.ask, m.reply⟩

namespace Dialogue

/-- The moments of the run of a dialogue. -/
def moments (answer : Answering Ask Reply σ) :
    Dialogue Ask Reply α → σ → List (Moment Ask Reply σ)
  | ended _, _      => []
  | shows _ rest, s => rest.moments answer s
  | asks ask resume, s =>
      let answered := answer ask s
      ⟨ask, s, answered.result, answered.state⟩ ::
        (resume answered.result).moments answer answered.state

variable {answer : Answering Ask Reply σ}

theorem moments_bind (next : α → Dialogue Ask Reply β) (d : Dialogue Ask Reply α) (s : σ) :
    (d.bind next).moments answer s =
      d.moments answer s ++
        (next (d.run answer s).result).moments answer (d.run answer s).state := by
  induction d generalizing s with
  | ended value => rfl
  | shows event rest ih => exact ih s
  | asks ask resume ih => exact congrArg (_ :: ·) (ih _ _)

/-- The moments are the questions of the transcript, with their answers. -/
theorem answered_moments (d : Dialogue Ask Reply α) (s : σ) :
    (d.moments answer s).map Moment.answered = Line.answered (d.run answer s).transcript := by
  induction d generalizing s with
  | ended value => rfl
  | shows event rest ih => exact ih s
  | asks ask resume ih =>
      rw [run, Line.answered_append, answered_heard]
      exact congrArg (_ :: ·) (ih _ _)

/-- What no answer destroys and holds after a moment still holds at the end. -/
theorem holds_of_moment {holds : σ → Prop} (hanswer : ∀ ask s, holds s → holds (answer ask s).state)
    (d : Dialogue Ask Reply α) {s : σ} {m : Moment Ask Reply σ} (hm : m ∈ d.moments answer s)
    (h : holds m.after) : holds (d.run answer s).state := by
  induction d generalizing s with
  | ended value => cases hm
  | shows event rest ih => exact ih hm
  | asks ask resume ih =>
      rcases List.mem_cons.mp hm with rfl | hlater
      · exact run_preserves hanswer (resume (answer ask s).result) h
      · exact ih _ hlater

/-! ## Chains of questions -/

/-- A rule that adds every answer to what was said. -/
def Adds (ask : Ask) (said : List (Answered Ask Reply)) (reply : Reply ask)
    (next : List (Answered Ask Reply)) : Prop :=
  next = said ++ [⟨ask, reply⟩]

/-- Where every question may be asked and every answer is added, what holds at the end holds of all
    that the run has said. -/
theorem Keeps.run_adds (answer : Answering Ask Reply σ)
    {post : α → List (Answered Ask Reply) → Prop} {d : Dialogue Ask Reply α}
    (h : d.Keeps (fun _ _ => True) Adds post []) (s : σ) :
    post (d.run answer s).result ((d.moments answer s).map Moment.answered) := by
  have hpost : True ∧ post (d.run answer s).result
      ([] ++ Line.answered (d.run answer s).transcript) :=
    Keeps.run (fun _ _ => True) (fun said _ => said) (fun _ _ _ _ _ => ⟨trivial, rfl⟩) trivial h
  rw [answered_moments]
  exact hpost.2

section Asked

variable {τ : Type} {may : Ask → τ → Prop} {rule : (ask : Ask) → τ → Reply ask → τ → Prop}
variable (read : List (Answered Ask Reply) → τ)

/-- Every question was one that may be asked after what was said before it, as `read` tells it. -/
def Asked (may : Ask → τ → Prop) (said : List (Answered Ask Reply)) : Prop :=
  ∀ earlier a later, said = earlier ++ a :: later → may a.1 (read earlier)

variable {read} {said : List (Answered Ask Reply)}

theorem asked_nil : Asked read may ([] : List (Answered Ask Reply)) := by
  intro earlier a later h
  cases earlier <;> cases h

/-- A question more has to be one that may be asked now. -/
theorem Asked.concat (h : Asked read may said) {a : Answered Ask Reply} (ha : may a.1 (read said)) :
    Asked read may (said ++ [a]) := by
  intro earlier b later heq
  rcases List.eq_nil_or_concat later with rfl | ⟨later', last, rfl⟩
  · obtain ⟨rfl, hlast⟩ := List.append_inj' heq rfl
    cases hlast
    exact ha
  · rw [List.concat_eq_append, ← List.cons_append, ← List.append_assoc] at heq
    obtain ⟨hsaid, -⟩ := List.append_inj' heq rfl
    exact h earlier b later' hsaid

/-- What holds before each question and at the end holds after every part of what was said. -/
theorem Asked.of_prefix {holds : τ → Prop} (h : Asked read (fun _ => holds) said)
    (hend : holds (read said)) {now : List (Answered Ask Reply)} (hnow : now <+: said) :
    holds (read now) := by
  obtain ⟨rest, rfl⟩ := hnow
  cases rest with
  | nil => rwa [List.append_nil] at hend
  | cons a later => exact h now a later rfl

/-- If all answers follow the rule, a run asks nothing but what it may, and at the end what it has
    said is as promised. -/
theorem Keeps.run_asked {answer : Answering Ask Reply σ}
    (holds : List (Answered Ask Reply) → σ → Prop)
    (hanswer : ∀ ask said s, holds said s →
      holds (said ++ [⟨ask, (answer ask s).result⟩]) (answer ask s).state ∧
      rule ask (read said) (answer ask s).result (read (said ++ [⟨ask, (answer ask s).result⟩])))
    {post : α → τ → Prop} {d : Dialogue Ask Reply α} {s : σ} (hs : holds [] s)
    (h : d.Keeps may rule post (read [])) :
    let played := d.run answer s
    let said := Line.answered played.transcript
    holds said played.state ∧ Asked read may said ∧ post played.result (read said) := by
  obtain ⟨⟨hholds, hasked⟩, hpost⟩ := Keeps.run (fun said s => holds said s ∧ Asked read may said)
    (fun said _ => read said) (fun ask said s hstable hmay =>
      ⟨⟨(hanswer ask said s hstable.1).1, hstable.2.concat hmay⟩, (hanswer ask said s hstable.1).2⟩)
    ⟨hs, asked_nil⟩ h
  exact ⟨hholds, hasked, hpost⟩

end Asked

/-- If each question may follow the answer before it, the run is a chain of such steps, and at the
    end all of it was said. -/
theorem Keeps.isChain (answer : Answering Ask Reply σ) {follows : Answered Ask Reply → Ask → Prop}
    {post : α → List (Answered Ask Reply) → Prop} {d : Dialogue Ask Reply α} :
    ∀ {said : List (Answered Ask Reply)} (s : σ),
      d.Keeps (fun ask said => ∀ a ∈ said.getLast?, follows a ask) Adds post said →
      said.IsChain (fun a b => follows a b.1) →
      let now := said ++ Line.answered (d.run answer s).transcript
      now.IsChain (fun a b => follows a b.1) ∧ post (d.run answer s).result now := by
  induction d with
  | ended value =>
      intro said s h hchain
      rw [Dialogue.run, Line.answered_nil, List.append_nil]
      exact ⟨hchain, h⟩
  | shows event rest ih => intro said s h hchain; exact ih s h hchain
  | asks ask resume ih =>
      intro said s h hchain
      obtain ⟨hmay, hrest⟩ := h
      rw [Dialogue.run, Line.answered_append, answered_heard, ← List.append_assoc]
      refine ih _ _ (hrest _ _ rfl) ?_
      rw [List.isChain_append]
      refine ⟨hchain, List.isChain_singleton _, ?_⟩
      intro a ha b hb
      cases hb
      exact hmay a ha

end Dialogue

end OrphanSweep
