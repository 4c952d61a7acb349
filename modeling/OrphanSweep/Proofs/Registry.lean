import OrphanSweep.Proofs.PointSet
import OrphanSweep.Registry.Basic

/-! # What a lookup answers

    A lookup that does not have to connect sends nothing, one that cannot fails, and what becomes of
    one that can is up to its query (`lookup_of_refused`, `lookup_of_sound`, `lookup_of_spoiled`).
    A lookup that answers at all answers with exactly the ids that have a row (`lookup_ok`), and a
    registry whose table is there and can be reached always answers (`Works.lookup`). -/

namespace OrphanSweep.Registry

theorem defaultColumn_named : defaultColumn ≠ "" := by decide

/-- Whether an id has a row. -/
def hasRow (r : Registry) (p : PointId) : Bool := r.contents.contains (some p)

/-- A registry is that of a table of a database. -/
structure IsOf (r : Registry) (d : Database) (table column : String) : Prop where
  tableName : r.tableName = table
  rows      : r.rows = d.tables table column
  queryFate : r.queryFate = d.fate table column
  refused   : r.refused = d.refused

theorem IsOf.isNamed {r : Registry} {d : Database} {table column : String}
    (h : r.IsOf d table column) (htable : table ≠ "") : r.isNamed = true := by
  rw [Registry.isNamed, h.tableName]
  exact decide_eq_true htable

/-- A table can be defined in any database if its column has a name. -/
theorem define_of_named (d : Database) (table : String) {column : String} (h : column ≠ "") :
    ∃ r, define d table column = .ok r ∧ r.IsOf d table column := by
  rw [define, dif_neg h]
  exact ⟨_, rfl, rfl, rfl, rfl, rfl⟩

/-- What is defined is the registry of the table. -/
theorem isOf_of_define {r : Registry} {d : Database} {table column : String}
    (h : define d table column = .ok r) : r.IsOf d table column := by
  by_cases hcolumn : column = ""
  · rw [define, dif_pos hcolumn] at h
    cases h
  · obtain ⟨made, hmade, hisOf⟩ := define_of_named d table hcolumn
    cases h.symm.trans hmade
    exact hisOf

/-- The registry answers every lookup: its table is there and can be queried. -/
structure Works (r : Registry) : Prop where
  table     : r.rows.isSome = true
  reachable : r.refused = none
  named     : r.isNamed = true
  sound     : r.queryFate = .sound

section Lookup

variable {r : Registry} {ids : PointSet}

/-- A failure of the database to connect may pass. -/
theorem connectFailure_of_isOfDatabase {failure : Failure} (h : failure.isOfDatabase = true) :
    connectFailure failure =
      .transient (.text "point lookup") (.told (.text failure.message)) .null := by
  rw [connectFailure, if_pos h]

/-- Any other failure to connect is told as it is. -/
theorem connectFailure_of_not {failure : Failure} (h : failure.isOfDatabase = false) :
    connectFailure failure = failure := by
  rw [connectFailure, h]
  rfl

/-- A lookup that cannot connect sends nothing. -/
theorem lookup_of_refused (hids : ids.isEmpty = false) {failure : Failure}
    (h : r.refused = some failure) : r.lookup ids = ([], .error (connectFailure failure)) := by
  rw [lookup, if_neg (by rw [hids]; exact Bool.false_ne_true), obstacle?, h]
  rfl

/-- What keeps a lookup from being sent that can connect: its query cannot be written. -/
theorem obstacle?_of_open (hopen : r.refused = none) (hnamed : r.isNamed = true) :
    r.obstacle? = if r.queryFate = .unsent then some spoiled else none := by
  rw [obstacle?, hopen, hnamed, Option.map_none, Option.none_or, if_neg (by decide)]

/-- A lookup that can connect, with a sound query, sends it. -/
theorem lookup_of_sound (hids : ids.isEmpty = false) (hopen : r.refused = none)
    (hnamed : r.isNamed = true) (hsound : r.queryFate = .sound) :
    r.lookup ids = ([.query], r.reply ids) := by
  rw [lookup, if_neg (by rw [hids]; exact Bool.false_ne_true), obstacle?_of_open hopen hnamed,
    hsound]
  rfl

/-- A lookup that can connect, with a query that is not sound, fails. -/
theorem lookup_of_spoiled (hids : ids.isEmpty = false) (hopen : r.refused = none)
    (hnamed : r.isNamed = true) (hspoiled : r.queryFate ≠ .sound) :
    (r.lookup ids).1.length ≤ 1 ∧ (r.lookup ids).2 = .error spoiled := by
  rw [lookup, if_neg (by rw [hids]; exact Bool.false_ne_true), obstacle?_of_open hopen hnamed]
  cases hfate : r.queryFate with
  | sound => exact absurd hfate hspoiled
  | unsent =>
      rw [if_pos rfl]
      exact ⟨Nat.zero_le 1, rfl⟩
  | garbled =>
      rw [if_neg nofun, reply, if_pos hfate]
      exact ⟨Nat.le_refl 1, rfl⟩

/-- A sound query of a table that is there names the ids that have a row. -/
theorem reply_of_table (hsound : r.queryFate = .sound) (htable : r.rows.isSome = true) :
    r.reply ids = .ok (ids.filter r.hasRow) := by
  obtain ⟨rows, hrows⟩ := Option.isSome_iff_exists.mp htable
  have hcontents : r.contents = rows := by rw [contents, hrows]; rfl
  rw [reply, hsound, hrows]
  show Except.ok (owned rows ids) = _
  rw [owned, ← hcontents]
  rfl

/-- A sound query of a table that is missing fails. -/
theorem reply_of_missing (hsound : r.queryFate = .sound) (htable : ¬ r.rows.isSome = true) :
    r.reply ids = .error (noTable r.tableName) := by
  rw [reply, hsound, Option.not_isSome_iff_eq_none.mp htable]
  rfl

end Lookup

/-- An answer names the ids of the request that have a row, and no others. -/
theorem lookup_ok {r : Registry} {ids known : PointSet}
    (h : (r.lookup ids).2 = .ok known) : known = ids.filter r.hasRow := by
  rw [lookup] at h
  split at h
  · rename_i hempty
    cases h
    refine PointSet.ext_mem fun p => ?_
    have hp : p ∉ ids := PointSet.isEmpty_iff.mp hempty p
    simp [hp]
  · cases hobstacle : r.obstacle? with
    | some failure => rw [hobstacle] at h; cases h
    | none =>
        rw [hobstacle] at h
        dsimp only at h
        rw [reply] at h
        split at h
        · cases h
        · cases hrows : r.rows with
          | none => rw [hrows] at h; cases h
          | some rows =>
              rw [hrows] at h
              cases h
              have hcontents : r.contents = rows := by rw [contents, hrows]; rfl
              refine PointSet.ext_mem fun p => ?_
              rw [owned, PointSet.mem_filter, PointSet.mem_filter, hasRow, hcontents]

/-- A registry that works answers. -/
theorem Works.lookup {r : Registry} (h : r.Works) (ids : PointSet) :
    (r.lookup ids).2 = .ok (ids.filter r.hasRow) := by
  have hsome : ∃ known, (r.lookup ids).2 = .ok known := by
    cases hids : ids.isEmpty with
    | true =>
        rw [Registry.lookup, if_pos hids]
        exact ⟨_, rfl⟩
    | false =>
        rw [lookup_of_sound hids h.reachable h.named h.sound, reply_of_table h.sound h.table]
        exact ⟨_, rfl⟩
  obtain ⟨known, hknown⟩ := hsome
  rw [hknown, lookup_ok hknown]

end OrphanSweep.Registry
