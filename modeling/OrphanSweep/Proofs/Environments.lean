import OrphanSweep.Proofs.IntegerSettings

/-! # What the settings depend on

    Reading can fail at the integer settings only.  So two environments with the same integers are
    read alike, and the settings that come out differ in what the other variables give
    (`read_overlaid`). -/

namespace OrphanSweep.Settings

variable {env env' : Environment}

theorem integer_congr {name : String} (h : env' name = env name) (default : Int) :
    integer env' name default = integer env name default := by
  rw [integer, integer, text, text, h]

/-- The settings with everything but the integers taken from another environment. -/
def overlaid (env : Environment) (s : Settings) : Settings :=
  { s with
    databaseUrl := text env "DATABASE_URL" ""
    table       := text env "POINT_TABLE" Registry.defaultTable
    column      := text env "POINT_ID_COLUMN" Registry.defaultColumn
    storeUrl    := text env "QDRANT_URL" "http://localhost:6333"
    apiKey      := (env "QDRANT_API_KEY").filter (· ≠ "")
    collections := list env "SYNC_COLLECTIONS"
    dryRun      := isYes (text env "SYNC_DRY_RUN" "false") }

/-- **Environments with the same integers are read alike.** -/
theorem read_overlaid (h : ∀ setting ∈ integerSettings, env' setting.name = env setting.name) :
    read env' = (read env).map (overlaid env') := by
  simp only [integerSettings, List.forall_mem_cons] at h
  obtain ⟨hpool, htimeout, hpage, hworkers, hretries, -⟩ := h
  show read env' = overlaid env' <$> read env
  rw [read, read, integer_congr hpool, integer_congr htimeout, integer_congr hpage,
    integer_congr hworkers, integer_congr hretries]
  simp only [map_bind, map_pure]
  rfl

/-- What was read from an environment is what the environment lays over it. -/
theorem overlaid_of_read {s : Settings} (h : read env = .ok s) : overlaid env s = s := by
  have hread : read env = (read env).map (overlaid env) := read_overlaid fun _ _ => rfl
  rw [h] at hread
  exact (Except.ok.inj hread).symm

end OrphanSweep.Settings
