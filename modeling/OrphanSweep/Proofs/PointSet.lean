import Mathlib.Data.List.Sort
import OrphanSweep.PointSet

/-! # Sets of point ids as ascending lists

    A set is its ascending list, so sets with the same members are equal (`ext_mem`), and every
    equation between sets is proved by comparing members.  The members from one on are those that it
    does not exceed (`le_iff_mem_drop`), which is why a page can be both a stretch of the list and a
    range of ids. -/

namespace OrphanSweep

namespace PointId

instance : Std.Irrefl ((· < ·) : PointId → PointId → Prop) where
  irrefl p := Nat.lt_irrefl p.val

instance : Std.Antisymm ((· < ·) : PointId → PointId → Prop) where
  antisymm _ _ h h' := absurd h' (Nat.lt_asymm h)

/-- No id precedes the nil id. -/
theorem nil_le (p : PointId) : nil ≤ p := Nat.zero_le p.val

theorem le_of_lt {p q : PointId} (h : p < q) : p ≤ q := Nat.le_of_lt h

theorem le_refl (p : PointId) : p ≤ p := Nat.le_refl p.val

theorem not_le_of_lt {p q : PointId} (h : p < q) : ¬ q ≤ p := Nat.not_le_of_lt h

end PointId

/-! ## Ascending lists -/

section Ascending

variable {l : List PointId}

theorem mem_take_or_mem_drop {n : Nat} {p : PointId} (hp : p ∈ l) :
    p ∈ l.take n ∨ p ∈ l.drop n := by
  rw [← List.take_append_drop n l] at hp
  exact List.mem_append.mp hp

/-- The members from one on are those that it does not exceed. -/
theorem le_iff_mem_drop (h : l.Pairwise (· < ·)) {n : Nat} {first : PointId}
    (hfirst : l[n]? = some first) {p : PointId} (hp : p ∈ l) :
    first ≤ p ↔ p ∈ l.drop n := by
  obtain ⟨hn, hget⟩ := List.getElem?_eq_some_iff.mp hfirst
  have hdrop : l.drop n = first :: l.drop (n + 1) := by
    rw [← hget]
    exact List.drop_eq_getElem_cons hn
  have hsplit := List.take_append_drop n l ▸ h
  rw [hdrop] at hsplit
  obtain ⟨-, htail, hcross⟩ := List.pairwise_append.mp hsplit
  constructor
  · intro hle
    cases mem_take_or_mem_drop (n := n) hp with
    | inl htake =>
        -- whatever stands before the member is below it
        exact absurd hle (PointId.not_le_of_lt (hcross p htake first List.mem_cons_self))
    | inr hp' => exact hp'
  · intro hp'
    rw [hdrop] at hp'
    cases List.mem_cons.mp hp' with
    | inl heq => exact heq ▸ PointId.le_refl first
    | inr htail' => exact PointId.le_of_lt ((List.pairwise_cons.mp htail).1 p htail')

end Ascending

namespace PointSet

variable {s t : PointSet}

theorem mem_toList {p : PointId} : p ∈ s.toList ↔ p ∈ s := Iff.rfl

/-- Sets with the same members are equal. -/
theorem ext_mem (h : ∀ p, p ∈ s ↔ p ∈ t) : s = t := by
  obtain ⟨l, hl⟩ := s
  obtain ⟨m, hm⟩ := t
  have : l = m := hl.eq_of_mem_iff hm h
  subst this
  rfl

/-- The set of an ascending list has just that list. -/
theorem toList_ofList {l : List PointId} (h : l.Pairwise (· < ·)) : (ofList l).toList = l :=
  (ofList l).ascending.eq_of_mem_iff h fun _ => mem_ofList

theorem isEmpty_iff : s.isEmpty = true ↔ ∀ p, p ∉ s := by
  rw [isEmpty, List.isEmpty_iff, List.eq_nil_iff_forall_not_mem]
  exact Iff.rfl

/-- What is left of a set without those that pass a test are those that do not. -/
theorem diff_filter (keep : PointId → Bool) : s \ s.filter keep = s.filter fun p => !keep p := by
  refine ext_mem fun p => ?_
  rw [mem_diff, mem_filter, mem_filter]
  cases keep p <;> simp

theorem toList_filter (keep : PointId → Bool) : (s.filter keep).toList = s.toList.filter keep :=
  rfl

end PointSet

end OrphanSweep
