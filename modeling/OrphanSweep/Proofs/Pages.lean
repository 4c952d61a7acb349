import OrphanSweep.Proofs.PointSet
import OrphanSweep.World.Collection

/-! # The pages of a set of points

    A scan of a set that deletes as it goes meets the same pages as one that does not: behind the
    cursor only spared points are left, and from the cursor on all of them (`PointSet.cleared`).
    So the page at a cursor is the next stretch of the set that the scan began with
    (`page_cleared`). -/

namespace OrphanSweep

/-! ## Pages that can be used -/

namespace Page

theorem pointIds_map (collection detail : String) (ids : List PointId) :
    Value.pointIds collection detail (ids.map Value.id) = .ok ids := by
  induction ids with
  | nil => rfl
  | cons p ids ih =>
      show (Value.pointIds collection detail (ids.map Value.id)).map (p :: ·) = _
      rw [ih]
      rfl

/-- A page of ids with an id for a cursor can be used as it is. -/
theorem ofRaw_ids (collection : String) (ids : List PointId) (next : Option PointId) :
    Page.ofRaw collection { records := ids.map .id, next := (next.map .id).getD .null } =
      .ok { ids, next } := by
  rw [ofRaw, pointIds_map]
  cases next <;> rfl

end Page

/-! ## What is left behind a cursor -/

namespace PointSet

/-- What is left of a set when all but the spared ones of its first members are gone. -/
def cleared (held : PointSet) (spare : PointId → Bool) (n : Nat) : PointSet :=
  held.filter fun p => spare p || (held.toList.drop n).contains p

variable {held ids : PointSet} {spare : PointId → Bool} {n size : Nat}

theorem mem_cleared {p : PointId} :
    p ∈ held.cleared spare n ↔ p ∈ held ∧ (spare p = true ∨ p ∈ held.toList.drop n) := by
  rw [cleared, mem_filter, Bool.or_eq_true, List.contains_iff_mem]

/-- Before the first member nothing is gone. -/
theorem cleared_zero : held.cleared spare 0 = held := by
  refine ext_mem fun p => ?_
  rw [mem_cleared]
  constructor
  · rintro ⟨hp, -⟩
    exact hp
  · intro hp
    exact ⟨hp, Or.inr hp⟩

/-- Behind the last member only the spared ones are left. -/
theorem cleared_all (h : held.size ≤ n) : held.cleared spare n = held.filter spare := by
  refine ext_mem fun p => ?_
  rw [mem_cleared, mem_filter, List.drop_of_length_le h]
  constructor
  · rintro ⟨hp, hspare | hmem⟩
    · exact ⟨hp, hspare⟩
    · cases hmem
  · rintro ⟨hp, hspare⟩
    exact ⟨hp, Or.inl hspare⟩

/-- What follows a place is the next stretch and what follows that. -/
theorem mem_drop_iff (size : Nat) {l : List PointId} {p : PointId} :
    p ∈ l.drop n ↔ p ∈ (l.drop n).take size ∨ p ∈ l.drop (n + size) := by
  rw [← List.drop_drop, ← List.mem_append, List.take_append_drop]

/-- To delete those of the next stretch that are not spared moves the place behind it. -/
theorem cleared_diff
    (hids : ∀ p, p ∈ ids ↔ p ∈ (held.toList.drop n).take size ∧ spare p = false) :
    held.cleared spare n \ ids = held.cleared spare (n + size) := by
  refine ext_mem fun p => ?_
  rw [mem_diff, mem_cleared, mem_cleared, hids, mem_drop_iff size]
  -- the list ascends, so no point is both in the stretch and behind it
  have hnodup : (held.toList.drop n).Nodup := held.ascending.drop.imp ne_of_irrefl
  have hasc : p ∈ held.toList.drop (n + size) → p ∉ (held.toList.drop n).take size := by
    rw [← List.drop_drop]
    intro hdrop htake
    exact List.disjoint_take_drop hnodup (Nat.le_refl size) htake hdrop
  cases spare p with
  | true => simp
  | false =>
      constructor
      · rintro ⟨⟨hp, hfalse | htake | hdrop⟩, hnot⟩
        · cases hfalse
        · exact absurd ⟨htake, rfl⟩ hnot
        · exact ⟨hp, Or.inr hdrop⟩
      · rintro ⟨hp, hfalse | hdrop⟩
        · cases hfalse
        · exact ⟨⟨hp, Or.inr (Or.inr hdrop)⟩, fun h => hasc hdrop h.1⟩

/-- So does nothing if all of the stretch are spared. -/
theorem cleared_of_spared (h : ∀ p ∈ (held.toList.drop n).take size, spare p = true) :
    held.cleared spare n = held.cleared spare (n + size) := by
  refine ext_mem fun p => ?_
  rw [mem_cleared, mem_cleared, mem_drop_iff size]
  constructor
  · rintro ⟨hp, hspare | htake | hdrop⟩
    · exact ⟨hp, Or.inl hspare⟩
    · exact ⟨hp, Or.inl (h p htake)⟩
    · exact ⟨hp, Or.inr hdrop⟩
  · rintro ⟨hp, hspare | hdrop⟩
    · exact ⟨hp, Or.inl hspare⟩
    · exact ⟨hp, Or.inr (Or.inr hdrop)⟩

/-- To delete them once more changes nothing. -/
theorem cleared_diff_again
    (hids : ∀ p, p ∈ ids ↔ p ∈ (held.toList.drop n).take size ∧ spare p = false) :
    held.cleared spare (n + size) \ ids = held.cleared spare (n + size) := by
  rw [← cleared_diff hids]
  refine ext_mem fun p => ?_
  rw [mem_diff, mem_diff, and_assoc, and_self]

/-! ## The page at a cursor -/

/-- A cursor stands at a place of a set: at the start, where none is needed, or at a member. -/
def CursorAt (held : PointSet) (n : Nat) (cursor : Option PointId) : Prop :=
  n = 0 ∧ cursor = none ∨ ∃ first, cursor = some first ∧ held.toList[n]? = some first

/-- From a cursor on nothing is gone. -/
theorem filter_cleared {cursor : Option PointId} (hcursor : held.CursorAt n cursor) :
    ((held.cleared spare n).filter fun p => cursor.getD .nil ≤ p).toList =
      held.toList.drop n := by
  -- a cursor compares points by where they stand
  have hfrom : ∀ p ∈ held.toList, cursor.getD .nil ≤ p ↔ p ∈ held.toList.drop n := by
    intro p hp
    rcases hcursor with ⟨rfl, rfl⟩ | ⟨first, rfl, hfirst⟩
    · exact ⟨fun _ => hp, fun _ => PointId.nil_le p⟩
    · exact le_iff_mem_drop held.ascending hfirst hp
  refine PointSet.ascending _ |>.eq_of_mem_iff held.ascending.drop fun p => ?_
  rw [mem_toList, mem_filter, mem_cleared, decide_eq_true_eq]
  constructor
  · rintro ⟨⟨hp, -⟩, hle⟩
    exact (hfrom p hp).mp hle
  · intro hp
    have hmem : p ∈ held.toList := List.mem_of_mem_drop hp
    exact ⟨⟨hmem, Or.inr hp⟩, (hfrom p hmem).mpr hp⟩

/-- **The page at a cursor** is the next stretch of the set, and its cursor is what follows. -/
theorem page_cleared {cursor : Option PointId} (hcursor : held.CursorAt n cursor) (limit : Int) :
    Contents.page (held.cleared spare n) (cursor.getD .nil) limit =
      { records := ((held.toList.drop n).take limit.toNat).map .id
        next    := (held.toList[n + limit.toNat]?.map .id).getD .null } := by
  rw [Contents.page, filter_cleared hcursor, List.drop_drop, List.head?_drop]

end PointSet

end OrphanSweep
