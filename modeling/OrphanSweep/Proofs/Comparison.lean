import OrphanSweep.Proofs.Dialogue

/-! # Two dialogues side by side

    A comparison plays one dialogue against one way to answer and a second dialogue against another,
    and relates what became of the two: the transcripts agree, and the ends and the states satisfy a
    relation (`Pairs`).  It has one rule for each way to put dialogues together, so two loops are
    compared by one induction on their bounds, their bodies page by page.

    A comparison may be bounded: it then speaks only of second runs that stay `within` the bound,
    and a run that ends within it has been there all the time. -/

namespace OrphanSweep

variable {Ask : Type} {Reply : Ask → Type} {σ τ α β α' β' ε : Type}

/-- What holds after a run holds before it, if it cannot be brought about by an answer. -/
theorem Dialogue.run_reflects {answer : Answering Ask Reply σ} {holds : σ → Prop}
    (hanswer : ∀ ask s, holds (answer ask s).state → holds s) (d : Dialogue Ask Reply α) :
    ∀ s, holds (d.run answer s).state → holds s := by
  induction d with
  | ended value => intro s h; exact h
  | shows event rest ih => intro s h; exact ih s h
  | asks ask resume ih => intro s h; exact hanswer ask s (ih _ _ h)

/-- Two ways to answer, and what it is for two transcripts to agree. -/
structure Comparison (Ask : Type) (Reply : Ask → Type) (σ τ : Type) where
  /-- Answers the first dialogue. -/
  here          : Answering Ask Reply σ
  /-- Answers the second one. -/
  there         : Answering Ask Reply τ
  agree         : List (Line Ask Reply) → List (Line Ask Reply) → Prop
  /-- What the second run has to keep to. -/
  within        : τ → Prop
  agree_nil     : agree [] []
  agree_append  : ∀ {first first' second second'}, agree first first' → agree second second' →
    agree (first ++ second) (first' ++ second')
  within_answer : ∀ ask t, within (there ask t).state → within t

namespace Comparison

open Dialogue

variable (k : Comparison Ask Reply σ τ)

/-- If the second run stays within the bound, the transcripts of both agree, and their ends and last
    states are related. -/
def Pairs (post : α → β → σ → τ → Prop) (d : Dialogue Ask Reply α) (d' : Dialogue Ask Reply β)
    (s : σ) (t : τ) : Prop :=
  k.within (d'.run k.there t).state →
    k.agree (d.run k.here s).transcript (d'.run k.there t).transcript ∧
      post (d.run k.here s).result (d'.run k.there t).result (d.run k.here s).state
        (d'.run k.there t).state

variable {k} {post : α → β → σ → τ → Prop} {s : σ} {t : τ}

theorem pairs_ended {value : α} {value' : β} (h : post value value' s t) :
    k.Pairs post (ended value) (ended value') s t :=
  fun _ => ⟨k.agree_nil, h⟩

theorem pairs_shows {event event' : Event} {rest : Dialogue Ask Reply α}
    {rest' : Dialogue Ask Reply β} (hevent : k.agree [.shown event] [.shown event'])
    (h : k.Pairs post rest rest' s t) :
    k.Pairs post (shows event rest) (shows event' rest') s t := by
  intro hwithin
  obtain ⟨hagree, hpost⟩ := h hwithin
  exact ⟨k.agree_append hevent hagree, hpost⟩

/-- A question is compared by the answers that it gets. -/
theorem pairs_asks {ask : Ask} {resume : Reply ask → Dialogue Ask Reply α}
    {resume' : Reply ask → Dialogue Ask Reply β}
    (hheard : k.agree (heard ask (k.here ask s)) (heard ask (k.there ask t)))
    (h : k.Pairs post (resume (k.here ask s).result) (resume' (k.there ask t).result)
      (k.here ask s).state (k.there ask t).state) :
    k.Pairs post (asks ask resume) (asks ask resume') s t := by
  intro hwithin
  obtain ⟨hagree, hpost⟩ := h hwithin
  exact ⟨k.agree_append hheard hagree, hpost⟩

/-- What goes on from two ends is compared from there. -/
theorem Pairs.bind {final : α' → β' → σ → τ → Prop} {d : Dialogue Ask Reply α}
    {d' : Dialogue Ask Reply β} {next : α → Dialogue Ask Reply α'}
    {next' : β → Dialogue Ask Reply β'} (h : k.Pairs post d d' s t)
    (hnext : ∀ value value' s t, post value value' s t →
      k.Pairs final (next value) (next' value') s t) :
    k.Pairs final (d.bind next) (d'.bind next') s t := by
  intro hwithin
  rw [run_bind] at hwithin
  -- the first parts have ended within the bound, for the second parts go on from there
  obtain ⟨hfirst, hpost⟩ := h (run_reflects k.within_answer _ _ hwithin)
  obtain ⟨hsecond, hfinal⟩ := hnext _ _ _ _ hpost hwithin
  rw [run_bind, run_bind]
  exact ⟨k.agree_append hfirst hsecond, hfinal⟩

/-- The second dialogue may begin with a part of its own, if its transcript agrees with nothing. -/
theorem pairs_bind_alone {d : Dialogue Ask Reply α} {first : Dialogue Ask Reply α'}
    {next : α' → Dialogue Ask Reply β} {lines : List (Line Ask Reply)} {value : α'} {later : τ}
    (hrun : first.run k.there t = ⟨lines, value, later⟩) (hagree : k.agree [] lines)
    (h : k.Pairs post d (next value) s later) : k.Pairs post d (first.bind next) s t := by
  intro hwithin
  rw [run_bind, hrun] at hwithin ⊢
  obtain ⟨hrest, hpost⟩ := h hwithin
  exact ⟨k.agree_append hagree hrest, hpost⟩

/-- Two ends are values that are related, or errors that are. -/
inductive Alike (good : α → β → σ → τ → Prop) (bad : ε → ε → σ → τ → Prop) :
    Except ε α → Except ε β → σ → τ → Prop
  | ok {value : α} {value' : β} {s : σ} {t : τ} :
      good value value' s t → Alike good bad (.ok value) (.ok value') s t
  | error {error error' : ε} {s : σ} {t : τ} :
      bad error error' s t → Alike good bad (.error error) (.error error') s t

theorem Pairs.andThen {good : α → β → σ → τ → Prop} {bad : ε → ε → σ → τ → Prop}
    {final : Except ε α' → Except ε β' → σ → τ → Prop}
    {d : Dialogue Ask Reply (Except ε α)} {d' : Dialogue Ask Reply (Except ε β)}
    {next : α → Dialogue Ask Reply (Except ε α')} {next' : β → Dialogue Ask Reply (Except ε β')}
    (h : k.Pairs (Alike good bad) d d' s t)
    (hgood : ∀ value value' s t, good value value' s t →
      k.Pairs final (next value) (next' value') s t)
    (hbad : ∀ error error' s t, bad error error' s t → final (.error error) (.error error') s t) :
    k.Pairs final (d.andThen next) (d'.andThen next') s t := by
  refine h.bind ?_
  intro result result' s t hends
  cases hends with
  | ok hvalues => exact hgood _ _ _ _ hvalues
  | error herrors => exact pairs_ended (hbad _ _ _ _ herrors)

end Comparison

end OrphanSweep
