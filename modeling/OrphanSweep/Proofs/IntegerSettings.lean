import OrphanSweep.Proofs.Numerals
import OrphanSweep.Proofs.Settings

/-! # How the integer settings are read

    Five settings are integers.  A variable that is not set or blank gives its default, one whose
    text spells an integer, with blanks around it or none, gives that integer, and nothing else gives
    anything (`Gives`).  So settings are read unless a variable is set to something else, and the
    failure names the first such variable in the order of the table `integerSettings`
    (`read_integers`). -/

namespace OrphanSweep.Settings

/-- A setting that is an integer. -/
structure IntegerSetting where
  /-- The name of its variable. -/
  name    : String
  default : Int
  value   : Settings → Int

/-- The integer settings, in the order in which they are read. -/
def integerSettings : List IntegerSetting :=
  [⟨"DB_POOL_SIZE", 10, poolSize⟩,
   ⟨"QDRANT_TIMEOUT", 60, timeout⟩,
   ⟨"SYNC_PAGE_SIZE", 1000, pageSize⟩,
   ⟨"SYNC_WORKERS", 1, workers⟩,
   ⟨"SYNC_MAX_RETRIES", 0, maxRetries⟩]

/-- A text of blanks alone. -/
def Blank (raw : String) : Prop := Text.Padding Text.isBlank raw.toList

instance : DecidablePred Blank := fun raw =>
  inferInstanceAs (Decidable (Text.Padding Text.isBlank raw.toList))

/-- The text spells an integer, with blanks around it or none. -/
def Writes (raw : String) (n : Int) : Prop :=
  ∃ before body after, raw.toList = before ++ body ++ after ∧
    Text.Padding Text.isBlank before ∧ Text.Padding Text.isBlank after ∧ Numeral.Spells body n

/-- What a variable gives. -/
inductive Gives (env : Environment) (setting : IntegerSetting) : Int → Prop
  | unset : env setting.name = none → Gives env setting setting.default
  | blank {raw : String} : env setting.name = some raw → Blank raw →
      Gives env setting setting.default
  | written {raw : String} {n : Int} : env setting.name = some raw → Writes raw n →
      Gives env setting n

/-- A variable is set to a text that is neither blank nor that of an integer. -/
def Offends (env : Environment) (setting : IntegerSetting) (raw : String) : Prop :=
  env setting.name = some raw ∧ ¬ Blank raw ∧ ∀ n, ¬ Writes raw n

/-! ## One variable -/

section

variable {env : Environment} {setting : IntegerSetting}

/-- A text spells an integer if that is left when it is trimmed. -/
theorem writes_iff {raw : String} {n : Int} :
    Writes raw n ↔ Numeral.Spells (Text.trim raw.toList) n := by
  constructor
  · rintro ⟨before, body, after, hraw, hbefore, hafter, hspells⟩
    rw [hraw, Text.trim, Text.trimBy_padded hbefore hspells.bare hafter]
    exact hspells
  · intro hspells
    obtain ⟨before, after, hbefore, hafter, hraw⟩ := Text.exists_padding Text.isBlank raw.toList
    exact ⟨before, _, after, hraw, hbefore, hafter, hspells⟩

theorem toList_strip (raw : String) : (Text.strip raw).toList = Text.trim raw.toList :=
  String.toList_ofList

theorem strip_eq_empty_iff {raw : String} : Text.strip raw = "" ↔ Blank raw := by
  rw [← String.toList_inj, toList_strip]
  exact Text.trimBy_eq_nil_iff

theorem not_blank_of_writes {raw : String} {n : Int} (h : Writes raw n) : ¬ Blank raw := by
  intro hblank
  exact (writes_iff.mp h).ne_nil (Text.trimBy_of_padding hblank)

theorem integer_unset (h : env setting.name = none) :
    integer env setting.name setting.default = .ok setting.default := by
  rw [integer, text, h]
  rfl

theorem integer_blank {raw : String} (h : env setting.name = some raw) (hblank : Blank raw) :
    integer env setting.name setting.default = .ok setting.default := by
  rw [integer, text, h, Option.getD_some]
  exact if_pos (strip_eq_empty_iff.mpr hblank)

/-- A variable gives what is read from it. -/
theorem integer_of_gives {n : Int} (h : Gives env setting n) :
    integer env setting.name setting.default = .ok n := by
  cases h with
  | unset hnone => exact integer_unset hnone
  | blank hset hblank => exact integer_blank hset hblank
  | @written raw _ hset hwrites =>
      have hstrip : Text.strip raw ≠ "" := mt strip_eq_empty_iff.mp (not_blank_of_writes hwrites)
      have hn : Numeral.integer? (Text.strip raw).toList = some n := by
        rw [toList_strip]
        exact Numeral.integer?_eq_some_iff.mpr (writes_iff.mp hwrites)
      simp only [integer, text, hset, Option.getD_some, if_neg hstrip, hn]

theorem integer_of_offends {raw : String} (h : Offends env setting raw) :
    integer env setting.name setting.default =
      .error (notInteger setting.name (Text.strip raw)) := by
  obtain ⟨hset, hblank, hwrites⟩ := h
  have hstrip : Text.strip raw ≠ "" := mt strip_eq_empty_iff.mp hblank
  cases hn : Numeral.integer? (Text.strip raw).toList with
  | none => simp only [integer, text, hset, Option.getD_some, if_neg hstrip, hn]
  | some n =>
      rw [toList_strip] at hn
      exact absurd (writes_iff.mpr (Numeral.integer?_eq_some_iff.mp hn)) (hwrites n)

/-- A variable gives an integer or offends. -/
theorem gives_or_offends (env : Environment) (setting : IntegerSetting) :
    (∃ n, Gives env setting n) ∨ ∃ raw, Offends env setting raw := by
  cases hset : env setting.name with
  | none => exact Or.inl ⟨_, .unset hset⟩
  | some raw =>
      by_cases hblank : Blank raw
      · exact Or.inl ⟨_, .blank hset hblank⟩
      by_cases hwrites : ∃ n, Writes raw n
      · obtain ⟨n, hwrites⟩ := hwrites
        exact Or.inl ⟨n, .written hset hwrites⟩
      · exact Or.inr ⟨raw, hset, hblank, not_exists.mp hwrites⟩

theorem integer_ok_iff {n : Int} :
    integer env setting.name setting.default = .ok n ↔ Gives env setting n := by
  refine ⟨fun h => ?_, integer_of_gives⟩
  rcases gives_or_offends env setting with ⟨m, hgives⟩ | ⟨raw, hoffends⟩
  · rw [integer_of_gives hgives] at h
    cases h
    exact hgives
  · rw [integer_of_offends hoffends] at h
    cases h

theorem integer_error_iff {failure : Failure} :
    integer env setting.name setting.default = .error failure ↔
      ∃ raw, Offends env setting raw ∧ failure = notInteger setting.name (Text.strip raw) := by
  constructor
  · intro h
    rcases gives_or_offends env setting with ⟨m, hgives⟩ | ⟨raw, hoffends⟩
    · rw [integer_of_gives hgives] at h
      cases h
    · rw [integer_of_offends hoffends] at h
      cases h
      exact ⟨raw, hoffends, rfl⟩
  · rintro ⟨raw, hoffends, rfl⟩
    exact integer_of_offends hoffends

theorem not_offends_of_ok {n : Int}
    (h : integer env setting.name setting.default = .ok n) (raw : String) :
    ¬ Offends env setting raw := by
  intro hoffends
  rw [integer_of_offends hoffends] at h
  cases h

end

/-! ## All of them -/

/-- The integers of settings that were read are those of their variables. -/
theorem integers_of_read {env : Environment} {s : Settings} (h : read env = .ok s) :
    ∀ setting ∈ integerSettings,
      integer env setting.name setting.default = .ok (setting.value s) := by
  rw [read] at h
  obtain ⟨poolSize, hpool, h⟩ := ok_of_bind h
  obtain ⟨timeout, htimeout, h⟩ := ok_of_bind h
  obtain ⟨pageSize, hpage, h⟩ := ok_of_bind h
  obtain ⟨workers, hworkers, h⟩ := ok_of_bind h
  obtain ⟨maxRetries, hretries, h⟩ := ok_of_bind h
  cases h
  simp only [integerSettings, List.forall_mem_cons]
  exact ⟨hpool, htimeout, hpage, hworkers, hretries, List.forall_mem_nil _⟩

/-- One of some settings fails, and those in front of it do not. -/
inductive Fails (env : Environment) (failure : Failure) : List IntegerSetting → Prop
  | here {setting : IntegerSetting} {rest : List IntegerSetting} :
      integer env setting.name setting.default = .error failure → Fails env failure (setting :: rest)
  | later {setting : IntegerSetting} {rest : List IntegerSetting} {n : Int} :
      integer env setting.name setting.default = .ok n → Fails env failure rest →
      Fails env failure (setting :: rest)

/-- Reading one setting and then others fails at the first or at one of the others. -/
theorem Fails.of_bind {env : Environment} {failure : Failure} {setting : IntegerSetting}
    {rest : List IntegerSetting} {α : Type} {next : Int → Except Failure α}
    (h : (integer env setting.name setting.default >>= next) = .error failure)
    (hrest : ∀ n, next n = .error failure → Fails env failure rest) :
    Fails env failure (setting :: rest) := by
  cases hfirst : integer env setting.name setting.default with
  | error other =>
      rw [hfirst] at h
      cases h
      exact .here hfirst
  | ok n =>
      rw [hfirst] at h
      exact .later hfirst (hrest n h)

/-- Settings that are not read fail at an integer. -/
theorem fails_of_read {env : Environment} {failure : Failure} (h : read env = .error failure) :
    Fails env failure integerSettings := by
  rw [read] at h
  refine .of_bind h fun poolSize h => ?_
  refine .of_bind h fun timeout h => ?_
  refine .of_bind h fun pageSize h => ?_
  refine .of_bind h fun workers h => ?_
  refine .of_bind h fun maxRetries h => ?_
  cases h

/-- The failure is that of the first variable that offends. -/
theorem Fails.first {env : Environment} {failure : Failure} {settings : List IntegerSetting}
    (h : Fails env failure settings) : ∃ before setting after raw,
      settings = before ++ setting :: after ∧ (∀ other ∈ before, ∀ raw, ¬ Offends env other raw) ∧
      Offends env setting raw ∧ failure = notInteger setting.name (Text.strip raw) := by
  induction h with
  | here herror =>
      obtain ⟨raw, hoffends, hfailure⟩ := integer_error_iff.mp herror
      exact ⟨[], _, _, raw, rfl, List.forall_mem_nil _, hoffends, hfailure⟩
  | later hok _ ih =>
      obtain ⟨before, setting, after, raw, rfl, hbefore, hoffends, hfailure⟩ := ih
      exact ⟨_ :: before, setting, after, raw, rfl,
        List.forall_mem_cons.mpr ⟨not_offends_of_ok hok, hbefore⟩, hoffends, hfailure⟩

/-- **The integer settings are read by one grammar.**  Each of the five is what its variable gives.
    Reading fails exactly if one of the variables offends, and it names the first that does.  An
    integer that is written with blanks around it is read back. -/
theorem read_integers (env : Environment) :
    (∀ setting n, integer env setting.name setting.default = .ok n ↔ Gives env setting n) ∧
    (∀ s, read env = .ok s →
      ∀ setting ∈ integerSettings, ∀ n, setting.value s = n ↔ Gives env setting n) ∧
    ((∃ failure, read env = .error failure) ↔
      ∃ setting ∈ integerSettings, ∃ raw, Offends env setting raw) ∧
    (∀ failure, read env = .error failure → ∃ before setting after raw,
      integerSettings = before ++ setting :: after ∧
      (∀ other ∈ before, ∀ raw, ¬ Offends env other raw) ∧ Offends env setting raw ∧
      failure = .foreign .badValue
        [.text (setting.name ++ " must be an integer, got " ++ Text.quoted (Text.strip raw))]) ∧
    ∀ (setting : IntegerSetting) (n : Int) (before after : String),
      (Nat.toDigits 10 n.natAbs).length ≤ 4300 → Blank before → Blank after →
      env setting.name = some (before ++ toString n ++ after) → Gives env setting n := by
  refine ⟨fun setting n => integer_ok_iff, ?_, ?_, fun failure h => (fails_of_read h).first, ?_⟩
  · intro s hread setting hmem n
    have hinteger := integers_of_read hread setting hmem
    rw [← integer_ok_iff, hinteger, Except.ok.injEq]
  · constructor
    · rintro ⟨failure, hread⟩
      obtain ⟨before, setting, after, raw, hall, -, hoffends, -⟩ := (fails_of_read hread).first
      refine ⟨setting, ?_, raw, hoffends⟩
      rw [hall]
      exact List.mem_append_right before List.mem_cons_self
    · rintro ⟨setting, hmem, raw, hoffends⟩
      cases hread : read env with
      | error failure => exact ⟨failure, rfl⟩
      | ok s =>
          have hinteger := integers_of_read hread setting hmem
          exact absurd hoffends (not_offends_of_ok hinteger raw)
  · intro setting n before after hfew hbefore hafter hset
    refine .written hset ⟨before.toList, (toString n).toList, after.toList, ?_, hbefore, hafter,
      Numeral.spells_toString hfew⟩
    rw [String.toList_append, String.toList_append]

/-- A sign, an underscore and a digit of another script between blanks are read; of two words the
    one that is read first is named. -/
theorem read_integers_mixed :
    let spelled : Environment := fun name =>
      if name = "SYNC_PAGE_SIZE" then some "\t+1_0\u0663 " else none
    let wordy : Environment := fun name =>
      if name = "SYNC_WORKERS" ∨ name = "QDRANT_TIMEOUT" then some "many" else none
    (∃ s, read spelled = .ok s ∧ s.pageSize = 103 ∧ s.timeout = 60) ∧
      ∃ failure, read wordy = .error failure ∧
        failure.message = "QDRANT_TIMEOUT must be an integer, got 'many'" := by
  intro spelled wordy
  have hwrites : Writes "\t+1_0\u0663 " 103 :=
    ⟨['\t'], _, [' '], rfl, by decide, by decide,
      .plus (.parted (d := 1) rfl (.next (d := 0) rfl (.single (d := 3) rfl))) (by decide)⟩
  have hmany : ∀ n, ¬ Writes "many" n := by
    intro n h
    have hread := Numeral.integer?_eq_some_iff.mpr (writes_iff.mp h)
    rw [show Numeral.integer? (Text.trim "many".toList) = none by decide] at hread
    cases hread
  constructor
  · obtain ⟨-, hvalues, hfails, -⟩ := read_integers spelled
    have hnone : ¬ ∃ setting ∈ integerSettings, ∃ raw, Offends spelled setting raw := by
      rintro ⟨setting, hmem, raw, hset, -, hother⟩
      simp only [integerSettings, List.mem_cons, List.not_mem_nil, or_false] at hmem
      rcases hmem with rfl | rfl | rfl | rfl | rfl
      case inr.inr.inl =>
        cases hset
        exact hother 103 hwrites
      all_goals cases hset
    cases hread : read spelled with
    | error failure => exact absurd (hfails.mp ⟨failure, hread⟩) hnone
    | ok s =>
        have hpage : (⟨"SYNC_PAGE_SIZE", 1000, pageSize⟩ : IntegerSetting) ∈ integerSettings := by
          simp [integerSettings]
        have htimeout : (⟨"QDRANT_TIMEOUT", 60, timeout⟩ : IntegerSetting) ∈ integerSettings := by
          simp [integerSettings]
        exact ⟨s, rfl, (hvalues s hread _ hpage 103).mpr (.written rfl hwrites),
          (hvalues s hread _ htimeout 60).mpr (.unset rfl)⟩
  · obtain ⟨-, -, hfails, hfirst, -⟩ := read_integers wordy
    have htimeout : Offends wordy ⟨"QDRANT_TIMEOUT", 60, timeout⟩ "many" :=
      ⟨rfl, by decide, hmany⟩
    obtain ⟨failure, hread⟩ := hfails.mpr ⟨_, by simp [integerSettings], "many", htimeout⟩
    refine ⟨failure, hread, ?_⟩
    obtain ⟨before, setting, after, raw, hall, hbefore, hoffends, rfl⟩ := hfirst failure hread
    rcases before with _ | ⟨first, _ | ⟨second, rest⟩⟩
    · cases hall
      cases hoffends.1
    · cases hall
      cases hoffends.1
      decide
    · obtain ⟨-, hrest⟩ := List.cons.inj hall
      obtain ⟨rfl, -⟩ := List.cons.inj hrest
      exact absurd htimeout (hbefore _ (by simp) "many")

end OrphanSweep.Settings
