import OrphanSweep.PointId

/-! # Sets of point ids

    A set is the list of its members in ascending order, so equal sets are equal lists and a page
    of a collection is a stretch of the list. -/

namespace OrphanSweep

/-- Puts an id into its place in an ascending list, unless it is there. -/
def PointId.place (p : PointId) : List PointId → List PointId
  | []     => [p]
  | q :: r => if p < q then p :: q :: r else if p = q then q :: r else q :: place p r

/-- A finite set of point ids. -/
structure PointSet where
  /-- The members, each once, in ascending order. -/
  toList    : List PointId
  /-- Every member precedes those after it. -/
  ascending : toList.Pairwise (· < ·) := by simp
deriving DecidableEq

namespace PointSet

instance : EmptyCollection PointSet := ⟨{ toList := [] }⟩

instance : Inhabited PointSet := ⟨∅⟩

instance : Membership PointId PointSet := ⟨fun s p => p ∈ s.toList⟩

instance (p : PointId) (s : PointSet) : Decidable (p ∈ s) :=
  inferInstanceAs (Decidable (p ∈ s.toList))

theorem mem_place {p q : PointId} (l : List PointId) : q ∈ p.place l ↔ q = p ∨ q ∈ l := by
  induction l with
  | nil => simp [PointId.place]
  | cons r l ih =>
      unfold PointId.place
      split
      · simp
      · split
        · rename_i h; subst h; simp
        · simp [ih, or_left_comm]

theorem place_ascending {p : PointId} {l : List PointId} (h : l.Pairwise (· < ·)) :
    (p.place l).Pairwise (· < ·) := by
  induction l with
  | nil => simp [PointId.place]
  | cons r l ih =>
      obtain ⟨hr, hl⟩ := List.pairwise_cons.1 h
      unfold PointId.place
      split
      · rename_i hp
        refine List.pairwise_cons.2 ⟨fun q hq => ?_, h⟩
        rcases List.mem_cons.1 hq with rfl | hq
        · exact hp
        · exact Nat.lt_trans hp (hr q hq)
      · split
        · exact h
        · rename_i hp hne
          refine List.pairwise_cons.2 ⟨fun q hq => ?_, ih hl⟩
          rcases (mem_place l).1 hq with rfl | hq
          · refine Nat.lt_of_le_of_ne (Nat.le_of_not_lt hp) fun heq => hne ?_
            cases r; cases q; cases heq; rfl
          · exact hr q hq

/-- The set with one more member. -/
def insert (s : PointSet) (p : PointId) : PointSet where
  toList    := p.place s.toList
  ascending := place_ascending s.ascending

/-- The set of the ids in a list. -/
def ofList : List PointId → PointSet
  | []     => ∅
  | p :: l => (ofList l).insert p

/-- The members that pass a test. -/
def filter (s : PointSet) (keep : PointId → Bool) : PointSet where
  toList    := s.toList.filter keep
  ascending := s.ascending.filter keep

/-- The members of `s` that are not in `t`. -/
def diff (s t : PointSet) : PointSet := s.filter fun p => !t.toList.contains p

instance : SDiff PointSet := ⟨diff⟩

/-- The members of either set. -/
def union (s t : PointSet) : PointSet := ofList (s.toList ++ t.toList)

instance : Union PointSet := ⟨union⟩

/-- The number of members. -/
def size (s : PointSet) : Nat := s.toList.length

/-- Whether the set has no member. -/
def isEmpty (s : PointSet) : Bool := s.toList.isEmpty

/-- The canonical texts of the members, in order. -/
def texts (s : PointSet) : List String := s.toList.map PointId.text

/-! ## Membership -/

@[simp] theorem not_mem_empty (p : PointId) : p ∉ (∅ : PointSet) := List.not_mem_nil

@[simp] theorem mem_insert {p q : PointId} {s : PointSet} : q ∈ s.insert p ↔ q = p ∨ q ∈ s :=
  mem_place s.toList

@[simp] theorem mem_ofList {p : PointId} {l : List PointId} : p ∈ ofList l ↔ p ∈ l := by
  induction l with
  | nil => simp [ofList]
  | cons q l ih => simp [ofList, ih]

@[simp] theorem mem_filter {p : PointId} {s : PointSet} {keep : PointId → Bool} :
    p ∈ s.filter keep ↔ p ∈ s ∧ keep p = true :=
  List.mem_filter

@[simp] theorem mem_diff {p : PointId} {s t : PointSet} : p ∈ s \ t ↔ p ∈ s ∧ p ∉ t := by
  have h : p ∈ s \ t ↔ p ∈ s.filter fun p => !t.toList.contains p := Iff.rfl
  rw [h, mem_filter]
  simp [Membership.mem]

@[simp] theorem mem_union {p : PointId} {s t : PointSet} : p ∈ s ∪ t ↔ p ∈ s ∨ p ∈ t := by
  have h : p ∈ s ∪ t ↔ p ∈ ofList (s.toList ++ t.toList) := Iff.rfl
  rw [h, mem_ofList, List.mem_append]
  rfl

end PointSet

end OrphanSweep
