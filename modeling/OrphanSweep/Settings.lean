import OrphanSweep.Registry.Basic
import OrphanSweep.Text.CommaList
import OrphanSweep.Text.Identifier
import OrphanSweep.VectorStore

/-! # Settings

    Every setting comes from a variable of the environment and has a default.  Reading fails at
    the first integer that is none (`Settings.read`); what can be read may still be out of range
    (`Settings.problem?`). -/

namespace OrphanSweep

/-- The variables of the environment. -/
abbrev Environment := String → Option String

/-- The names of the variables that are settings. -/
def Settings.names : List String :=
  ["DATABASE_URL", "DB_POOL_SIZE", "POINT_TABLE", "POINT_ID_COLUMN", "QDRANT_URL",
   "QDRANT_API_KEY", "QDRANT_TIMEOUT", "SYNC_PAGE_SIZE", "SYNC_WORKERS", "SYNC_MAX_RETRIES",
   "SYNC_COLLECTIONS", "SYNC_DRY_RUN"]

/-- The settings of a job. -/
structure Settings where
  databaseUrl : String
  poolSize    : Int
  table       : String
  column      : String
  storeUrl    : String
  apiKey      : Option String
  timeout     : Int
  pageSize    : Int
  workers     : Int
  maxRetries  : Int
  /-- The collections to sweep; all of them if none is named. -/
  collections : List String
  dryRun      : Bool
deriving DecidableEq

namespace Settings

/-- The greatest size of the pool of database connections, which is also its default. -/
def maxPoolSize : Int := 10

/-- The text of a variable, or its default if it is not set. -/
def text (env : Environment) (name default : String) : String := (env name).getD default

/-- The refusal of an integer that is none. -/
def notInteger (name raw : String) : Failure :=
  .foreign .badValue [.text (name ++ " must be an integer, got " ++ Text.quoted raw)]

/-- The integer in a variable, or its default if the variable is not set or blank. -/
def integer (env : Environment) (name : String) (default : Int) : Except Failure Int :=
  let raw := Text.strip (text env name "")
  if raw = "" then .ok default
  else
    match Numeral.integer? raw.toList with
    | some n => .ok n
    | none   => .error (notInteger name raw)

/-- The items in a variable. -/
def list (env : Environment) (name : String) : List String :=
  Text.commaItems (text env name "")

/-- The words for yes. -/
def yesWords : List String := ["1", "true", "yes", "on"]

/-- Whether the text of a flag is one of the words for yes, in either case. -/
def isYes (s : String) : Bool :=
  yesWords.contains (String.ofList ((Text.trim s.toList).map Char.toLower))

/-- Reads the settings; the integers are read in the order in which they stand here. -/
def read (env : Environment) : Except Failure Settings := do
  let poolSize   ← integer env "DB_POOL_SIZE" maxPoolSize
  let timeout    ← integer env "QDRANT_TIMEOUT" 60
  let pageSize   ← integer env "SYNC_PAGE_SIZE" VectorStore.defaultPageSize
  let workers    ← integer env "SYNC_WORKERS" 1
  let maxRetries ← integer env "SYNC_MAX_RETRIES" 0
  return {
    databaseUrl := text env "DATABASE_URL" ""
    poolSize    := poolSize
    table       := text env "POINT_TABLE" Registry.defaultTable
    column      := text env "POINT_ID_COLUMN" Registry.defaultColumn
    storeUrl    := text env "QDRANT_URL" "http://localhost:6333"
    apiKey      := (env "QDRANT_API_KEY").filter (· ≠ "")
    timeout     := timeout
    pageSize    := pageSize
    workers     := workers
    maxRetries  := maxRetries
    collections := list env "SYNC_COLLECTIONS"
    dryRun      := isYes (text env "SYNC_DRY_RUN" "false") }

/-- The first thing that is wrong with the settings. -/
def problem? (s : Settings) : Option String :=
  if s.databaseUrl = "" then some "DATABASE_URL is required"
  else if s.storeUrl = "" then some "QDRANT_URL is required"
  else if s.pageSize < 1 then some "SYNC_PAGE_SIZE must be at least 1"
  else if s.workers < 1 then some "SYNC_WORKERS must be at least 1"
  else if s.poolSize < 1 ∨ maxPoolSize < s.poolSize then
    some s!"DB_POOL_SIZE must be between 1 and {maxPoolSize}"
  else if s.maxRetries < 0 then some "SYNC_MAX_RETRIES cannot be negative"
  else if !Text.isIdentifier s.table || !Text.isIdentifier s.column then
    some "POINT_TABLE and POINT_ID_COLUMN must be plain SQL identifiers"
  else none

/-- The settings in one line. -/
def describe (s : Settings) : String :=
  let scope := if s.collections.isEmpty then "all collections" else ", ".intercalate s.collections
  let mode := if s.dryRun then "dry run" else "delete"
  s!"Qdrant {s.storeUrl} | {scope} | page size {s.pageSize} | workers {s.workers} | " ++
    s!"retries {s.maxRetries} | {mode}"

end Settings

end OrphanSweep
