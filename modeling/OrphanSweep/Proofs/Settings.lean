import OrphanSweep.Proofs.Registry
import OrphanSweep.Registry.Query.Plain
import OrphanSweep.Settings

/-! # What accepted settings promise

    Settings in which nothing is wrong have their numbers in range and two identifiers for names
    (`Valid`).  An identifier is never empty, so their table can be defined in any database; and where
    queries with identifiers are written as they are meant, the registry works as soon as its table is
    there and can be reached (`Valid.works`).  Queries with placeholders are so written, for an
    identifier holds neither a square bracket nor a blank (`Query.fate_of_isIdentifier`). -/

namespace OrphanSweep

/-! ## Identifiers -/

namespace Text

/-- The characters that could spoil a query: the opening square bracket and the blanks. -/
def spoilers : Ranges := (0x5B, 0x5B) :: blanks

/-- The tables of the characters that stand in identifiers. -/
def identifierTables : List Ranges :=
  [startersLow, startersIndic, startersBase, startersHigh, followersLow, followersHigh]

theorem areApart_spoilers :
    ∀ table ∈ identifierTables, Ranges.areApart table spoilers = true := by decide +kernel

theorem has_of_isFollower {c : Char} (h : isFollower c = true) :
    ∃ table ∈ identifierTables, Ranges.has table c = true := by
  simpa [isFollower, isStarter, identifierTables, or_assoc] using h

/-- A character of an identifier is neither an opening bracket nor a blank. -/
theorem plain_of_isFollower {c : Char} (h : isFollower c = true) :
    c ≠ '[' ∧ isBlank c = false := by
  obtain ⟨table, htable, hc⟩ := has_of_isFollower h
  have hnot : spoilers.has c = false :=
    Ranges.not_has_of_areApart (areApart_spoilers table htable) hc
  obtain ⟨hbracket, hblank⟩ : Ranges.has [(0x5B, 0x5B)] c = false ∧ blanks.has c = false := by
    simpa [spoilers, Ranges.has] using hnot
  refine ⟨?_, hblank⟩
  rintro rfl
  exact absurd hbracket (by decide)

theorem isFollower_of_isStarter {c : Char} (h : isStarter c = true) : isFollower c = true := by
  rw [isFollower, h]
  rfl

/-- An identifier is not empty, and every character of it may stand in one. -/
theorem isIdentifier_spec {s : String} (h : isIdentifier s = true) :
    s ≠ "" ∧ ∀ c ∈ s.toList, isFollower c = true := by
  rw [isIdentifier] at h
  split at h
  · cases h
  · rename_i first rest hs
    obtain ⟨hfirst, hrest⟩ := (Bool.and_eq_true _ _).mp h
    refine ⟨?_, ?_⟩
    · rintro rfl
      cases hs
    · intro c hc
      rw [hs] at hc
      rcases List.mem_cons.mp hc with rfl | hmem
      · exact isFollower_of_isStarter hfirst
      · exact List.all_eq_true.mp hrest c hmem

end Text

/-- What writes queries for a database writes those with identifiers for names as they are meant. -/
def Database.WritesIdentifiers (d : Database) : Prop :=
  ∀ table column, Text.isIdentifier table = true → Text.isIdentifier column = true →
    d.fate table column = .sound

/-- Queries with placeholders are written as they are meant if the names are identifiers. -/
theorem Query.fate_of_isIdentifier {table column : String} (htable : Text.isIdentifier table = true)
    (hcolumn : Text.isIdentifier column = true) : Query.fate table column = .sound := by
  obtain ⟨-, hplainTable⟩ := Text.isIdentifier_spec htable
  obtain ⟨-, hplainColumn⟩ := Text.isIdentifier_spec hcolumn
  refine fate_eq_sound ?_ ?_ ?_
  · intro hmem
    exact (Text.plain_of_isFollower (hplainTable _ hmem)).1 rfl
  · intro hmem
    exact (Text.plain_of_isFollower (hplainColumn _ hmem)).1 rfl
  · intro c hc hblank
    rw [(Text.plain_of_isFollower (hplainColumn c hc)).2] at hblank
    cases hblank

theorem Database.writesIdentifiers_placeholders
    (tables : (table column : String) → Option (List (Option PointId))) :
    WritesIdentifiers { tables, fate := Query.fate } := by
  intro table column htable hcolumn
  -- the fate has to be told to be that of the placeholders before it is looked at
  dsimp only
  exact Query.fate_of_isIdentifier htable hcolumn

/-! ## Settings -/

namespace Settings

/-- Settings in which nothing is wrong. -/
structure Valid (s : Settings) : Prop where
  pageSize   : 1 ≤ s.pageSize
  workers    : 1 ≤ s.workers
  maxRetries : 0 ≤ s.maxRetries
  table      : Text.isIdentifier s.table = true
  column     : Text.isIdentifier s.column = true

/-- A check that finds no problem passes, and so do those after it. -/
theorem passes {p : Prop} [Decidable p] {problem : String} {later : Option String}
    (h : (if p then some problem else later) = none) : ¬ p ∧ later = none := by
  split at h
  · cases h
  · rename_i hp
    exact ⟨hp, h⟩

theorem valid_of_problem? {s : Settings} (h : s.problem? = none) : s.Valid := by
  rw [problem?] at h
  obtain ⟨-, h⟩ := passes h
  obtain ⟨-, h⟩ := passes h
  obtain ⟨hpage, h⟩ := passes h
  obtain ⟨hworkers, h⟩ := passes h
  obtain ⟨-, h⟩ := passes h
  obtain ⟨hretries, h⟩ := passes h
  obtain ⟨hnames, -⟩ := passes h
  obtain ⟨htable, hcolumn⟩ : Text.isIdentifier s.table = true ∧
      Text.isIdentifier s.column = true := by
    simpa using hnames
  exact ⟨by omega, by omega, by omega, htable, hcolumn⟩

/-- **The registry of accepted settings works**, if their table is there and can be reached, and
    queries with identifiers are written as they are meant. -/
theorem Valid.works {s : Settings} (h : s.Valid) {d : Database} (hwrites : d.WritesIdentifiers)
    (hrows : (d.tables s.table s.column).isSome = true) (hreach : d.refused = none) {r : Registry}
    (hr : Registry.define d s.table s.column = .ok r) : r.Works := by
  have hisOf := Registry.isOf_of_define hr
  constructor
  case table => rw [hisOf.rows, hrows]
  case reachable => rw [hisOf.refused, hreach]
  case named => exact hisOf.isNamed (Text.isIdentifier_spec h.table).1
  case sound => rw [hisOf.queryFate, hwrites _ _ h.table h.column]

theorem ok_of_bind {α β : Type} {first : Except Failure α} {next : α → Except Failure β} {b : β}
    (h : (first >>= next) = .ok b) : ∃ a, first = .ok a ∧ next a = .ok b := by
  cases first with
  | error failure => cases h
  | ok a => exact ⟨a, rfl, h⟩

/-- The items and the flag of settings that were read stand in their variables. -/
theorem read_ok {env : Environment} {s : Settings} (h : read env = .ok s) :
    s.collections = list env "SYNC_COLLECTIONS" ∧
      s.dryRun = isYes (text env "SYNC_DRY_RUN" "false") := by
  rw [read] at h
  obtain ⟨poolSize, -, h⟩ := ok_of_bind h
  obtain ⟨timeout, -, h⟩ := ok_of_bind h
  obtain ⟨pageSize, -, h⟩ := ok_of_bind h
  obtain ⟨workers, -, h⟩ := ok_of_bind h
  obtain ⟨maxRetries, -, h⟩ := ok_of_bind h
  cases h
  constructor
  · dsimp only
  · dsimp only

end Settings

end OrphanSweep
