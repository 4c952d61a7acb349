import Mathlib.Data.List.TakeWhile
import OrphanSweep.Text.Blank

/-! # What trimming takes away

    Trimming takes away the characters of a class at both ends and nothing else: a text is its
    trimmed form with padding around it (`exists_padding`), and the trimmed form is bare, with no
    such character at either end (`bare_trimBy`).  There is no other way to take a text apart like
    that, for trimming gives back whatever bare text was padded (`trimBy_padded`). -/

namespace OrphanSweep.Text

variable {drop : Char → Bool} {s : List Char}

/-- A text of characters of a class alone. -/
def Padding (drop : Char → Bool) (s : List Char) : Prop := ∀ c ∈ s, drop c = true

-- Both instances are written out: a search could find one that goes through all characters.
instance (drop : Char → Bool) : DecidablePred (Padding drop) :=
  List.decidableBAll fun c => drop c = true

/-- A text that neither begins nor ends with a character of a class. -/
structure Bare (drop : Char → Bool) (s : List Char) : Prop where
  head : ∀ c ∈ s.head?, drop c = false
  last : ∀ c ∈ s.getLast?, drop c = false

instance (drop : Char → Bool) : DecidablePred (Bare drop) := fun s =>
  @decidable_of_iff _ ((∀ c ∈ s.head?, drop c = false) ∧ ∀ c ∈ s.getLast?, drop c = false)
    ⟨fun h => ⟨h.1, h.2⟩, fun h => ⟨h.head, h.last⟩⟩
    (@instDecidableAnd _ _ (Option.decidableForallMem _) (Option.decidableForallMem _))

theorem padding_reverse : Padding drop s.reverse ↔ Padding drop s := by
  simp [Padding]

theorem padding_takeWhile (s : List Char) : Padding drop (s.takeWhile drop) := by
  intro c hc
  exact List.mem_takeWhile_imp hc

/-- Padding in front is dropped, and nothing behind it. -/
theorem dropWhile_padded {before body : List Char} (hbefore : Padding drop before)
    (hbody : ∀ c ∈ body.head?, drop c = false) : (before ++ body).dropWhile drop = body := by
  rw [List.dropWhile_append_of_pos hbefore]
  cases body with
  | nil => rfl
  | cons c body =>
      rw [List.dropWhile_cons, hbody c rfl]
      rfl

/-- What is left of a text has no character of the class in front. -/
theorem head?_dropWhile (s : List Char) : ∀ c ∈ (s.dropWhile drop).head?, drop c = false := by
  intro c hc
  have hhead := List.head?_dropWhile_not drop s
  rw [Option.mem_def] at hc
  rwa [hc] at hhead

theorem trimBy_of_padding (h : Padding drop s) : trimBy drop s = [] := by
  have hdrop : s.dropWhile drop = [] := List.dropWhile_eq_nil_iff.mpr h
  rw [trimBy, hdrop]
  rfl

/-- **Trimming undoes padding** of a bare text. -/
theorem trimBy_padded {before body after : List Char} (hbefore : Padding drop before)
    (hbody : Bare drop body) (hafter : Padding drop after) :
    trimBy drop (before ++ body ++ after) = body := by
  by_cases hnil : body = []
  · subst hnil
    refine trimBy_of_padding ?_
    rw [List.append_nil]
    exact List.forall_mem_append.mpr ⟨hbefore, hafter⟩
  · have hfront : ∀ c ∈ (body ++ after).head?, drop c = false := by
      obtain ⟨c, rest, rfl⟩ := List.exists_cons_of_ne_nil hnil
      exact hbody.head
    have hback : ∀ c ∈ body.reverse.head?, drop c = false := by
      rw [List.head?_reverse]
      exact hbody.last
    rw [trimBy, List.append_assoc, dropWhile_padded hbefore hfront, List.reverse_append,
      dropWhile_padded (padding_reverse.mpr hafter) hback, List.reverse_reverse]

/-- A text without a character of the class is bare. -/
theorem bare_of_forall (h : ∀ c ∈ s, drop c = false) : Bare drop s where
  head _ hc := h _ (List.mem_of_head? hc)
  last _ hc := h _ (List.mem_of_getLast? hc)

/-- A text is its trimmed form with padding around it. -/
theorem exists_padding (drop : Char → Bool) (s : List Char) :
    ∃ before after, Padding drop before ∧ Padding drop after ∧
      s = before ++ trimBy drop s ++ after := by
  refine ⟨s.takeWhile drop, ((s.dropWhile drop).reverse.takeWhile drop).reverse,
    padding_takeWhile s, padding_reverse.mpr (padding_takeWhile _), ?_⟩
  rw [trimBy, List.append_assoc, ← List.reverse_append, List.takeWhile_append_dropWhile,
    List.reverse_reverse, List.takeWhile_append_dropWhile]

theorem bare_trimBy (drop : Char → Bool) (s : List Char) : Bare drop (trimBy drop s) where
  head := by
    -- a trimmed text is what stands in front of the padding that was taken from the end
    have hprefix : trimBy drop s <+: s.dropWhile drop := by
      rw [trimBy, ← List.reverse_suffix, List.reverse_reverse]
      exact List.dropWhile_suffix drop
    intro c hc
    obtain ⟨after, hafter⟩ := hprefix
    refine head?_dropWhile s c ?_
    rw [← hafter, List.head?_append]
    rw [Option.mem_def] at hc
    rw [hc]
    rfl
  last := by
    rw [trimBy, List.getLast?_reverse]
    exact head?_dropWhile _

theorem trimBy_eq_nil_iff : trimBy drop s = [] ↔ Padding drop s := by
  constructor
  · intro hnil
    obtain ⟨before, after, hbefore, hafter, hs⟩ := exists_padding drop s
    rw [hnil, List.append_nil] at hs
    rw [hs]
    exact List.forall_mem_append.mpr ⟨hbefore, hafter⟩
  · exact trimBy_of_padding

end OrphanSweep.Text
