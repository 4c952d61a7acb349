import OrphanSweep.Value

/-! # Failures

    A sweep ends early for one of four reasons of its own: a store failed for the moment, a page
    did not make sense, the sweep was cancelled, or some other reason that counts as one of the
    sweep's.  Everything else is a foreign failure, known by its cause.  `message` is the one
    place where failures get their wording. -/

namespace OrphanSweep

/-- What lies behind a failure that the sweep did not raise itself. -/
inductive Cause
  /-- No more is known. -/
  | general
  /-- A value out of its range. -/
  | badValue
  /-- A key that is not there. -/
  | missingKey
  /-- A state that does not allow the call. -/
  | runtime
  /-- A connection that was refused or lost. -/
  | connection
  /-- An answer that came too late. -/
  | timeout
  /-- The user stopped the program. -/
  | interrupt
  /-- The database refused. -/
  | database
  /-- A definition that cannot stand. -/
  | badDefinition
  /-- A position past the end. -/
  | outOfRange
  /-- A value of the wrong kind. -/
  | badType
deriving DecidableEq

/-- Whether a cause is one of the database's: it refuses, or it cannot stand a definition. -/
def Cause.isOfDatabase : Cause → Bool
  | database      => true
  | badDefinition => true
  | _             => false

/-- Why a store failed. -/
inductive Reason
  /-- The store said why. -/
  | told (words : Value)
  /-- The table that holds the rows does not exist. -/
  | missingTable (table : String)
  /-- The query did not come out as it was meant. -/
  | spoiledQuery

/-- A failure. -/
inductive Failure
  /-- A store failed in an operation; another attempt may succeed. -/
  | transient (operation : Value) (reason : Reason) (collection : Value)
  /-- A page held a value that cannot be used. -/
  | malformed (collection value detail : Value)
  /-- The sweep was told to stop. -/
  | cancelled (collection : Value)
  /-- Some other failure of the sweep. -/
  | other (details : List Value)
  /-- A failure from elsewhere. -/
  | foreign (cause : Cause) (details : List Value)

/-- The words of a reason. -/
def Reason.message : Reason → String
  | told words         => words.display
  | missingTable table => "no such table: " ++ table
  | spoiledQuery       => "the query cannot be read"

namespace Failure

/-- A detail of a malformed page: an id of a record. -/
def badPointId : String := "scan returned a point id that is not a UUID"

/-- A detail of a malformed page: the cursor of the next one. -/
def badCursor : String := "scroll cursor is not a point UUID"

/-- A detail of a malformed page: its cursor is the one it was asked for with. -/
def stuckCursor : String := "scroll cursor did not advance"

/-- The words of a failure of the operating system, its number in front. -/
def numbered (number words : Value) : String :=
  "[Errno " ++ number.display ++ "] " ++ words.display

/-- The same with the one or two files that the failure concerns; a file that is not given ends
    the message. -/
def numberedOn (number words file two : Value) : String :=
  match file, two with
  | .null, _  => numbered number words
  | _, .null  => numbered number words ++ ": " ++ file.literal
  | _, _      => numbered number words ++ ": " ++ file.literal ++ " -> " ++ two.literal

/-- The details of a failure of the operating system. -/
def systemMessage : List Value → String
  | [number, words]               => numbered number words
  | [number, words, file]         => numberedOn number words file .null
  | [number, words, file, _]      => numberedOn number words file .null
  | [number, words, file, _, two] => numberedOn number words file two
  | details                       => Value.tuple details

/-- The details of a failure: none, one in its own words, or all of them.  The database shows that
    there are none. -/
def detailsMessage : Cause → List Value → String
  | cause, []           => if cause.isOfDatabase then Value.tuple [] else ""
  | .missingKey, [key]  => key.literal
  | _, [detail]         => detail.display
  | .connection, details => systemMessage details
  | .timeout, details    => systemMessage details
  | _, details           => Value.tuple details

/-- The message of a failure. -/
def message : Failure → String
  | transient operation reason collection =>
      let target := if collection.isGiven then " on " ++ collection.display else ""
      operation.display ++ target ++ " failed: " ++ reason.message
  | malformed collection value detail =>
      "Cannot continue scan of " ++ collection.display ++ ": " ++ detail.display ++
        " (" ++ value.literal ++ ")"
  | cancelled collection =>
      "Sync cancelled" ++
        (if collection.isGiven then " while processing " ++ collection.display else "")
  | other details => detailsMessage .general details
  | foreign cause details => detailsMessage cause details

/-- Whether a failure is one of the sweep's own. -/
def isOwn : Failure → Bool
  | foreign _ _ => false
  | _           => true

/-- Whether a failure is one of the database's. -/
def isOfDatabase : Failure → Bool
  | foreign cause _ => cause.isOfDatabase
  | _               => false

/-- Whether a failure stops the program at once: nothing on its way takes it for its own. -/
def isInterrupt : Failure → Bool
  | foreign .interrupt _ => true
  | _                    => false

end Failure

end OrphanSweep
