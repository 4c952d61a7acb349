import OrphanSweep.Page
import OrphanSweep.Retry
import OrphanSweep.Tally
import OrphanSweep.VectorStore

/-! # The scan of a collection

    A scan goes through a collection page by page.  It looks up which points of a page have a row,
    deletes those that have none, and only then asks for the next page.  Before each page it asks
    whether to stop.  A scan that fails says how far it came (`Halt`). -/

namespace OrphanSweep

/-- A question that a scan asks. -/
inductive Call
  /-- Whether the scan has to stop. -/
  | stopping
  /-- The page from a cursor on, or the first one. -/
  | scroll (cursor : Option PointId) (limit : Int)
  /-- Which of some points have a row. -/
  | lookup (ids : PointSet)
  /-- To delete some points. -/
  | delete (ids : PointSet)

/-- The type of the answer to a question. -/
abbrev Call.Reply : Call → Type
  | stopping   => Bool
  | scroll _ _ => Except Failure RawPage
  | lookup _   => Except Failure PointSet
  | delete _   => Except Failure Unit

/-- The request that a question about a collection sends. -/
def Call.request (name : String) : Call → Option Event
  | stopping            => none
  | scroll cursor limit =>
      some (.scroll
        { collection := name, offset := ScrollRequest.offsetOf (cursor.map PointId.text), limit })
  | lookup ids          => some (.lookup ids)
  | delete ids          => some (.delete { collection := name, ids := ids.texts })

/-- How a scan ended too early. -/
structure Halt where
  failure : Failure
  /-- The counts up to the failure. -/
  reached : Tally

/-- A dialogue of a scan. -/
abbrev Talk (α : Type) := Dialogue Call Call.Reply α

/-- The transcript of a scan. -/
abbrev Transcript := List (Line Call Call.Reply)

/-- The transcript of the scan of a collection. -/
structure ScanRecord where
  name       : String
  transcript : Transcript := []

/-- The events of a scan. -/
def ScanRecord.events (r : ScanRecord) : List Event := Line.events (Call.request r.name) r.transcript

/-- How scans are made. -/
structure Plan where
  pageSize   : Int := VectorStore.defaultPageSize
  maxRetries : Nat := 0
  dryRun     : Bool := false

namespace Scan

variable (plan : Plan) (name : String)

/-- One attempt to get a page. -/
def fetch (cursor : Option PointId) : Talk (Except Failure (Page PointId)) :=
  .asks (.scroll cursor plan.pageSize) fun reply => .ended (VectorStore.scrolled name reply)

/-- One attempt to look up which points have a row. -/
def lookup (ids : PointSet) : Talk (Except Failure PointSet) :=
  .asks (.lookup ids) .ended

/-- One attempt to delete points. -/
def delete (ids : PointSet) : Talk (Except Failure Nat) :=
  .asks (.delete ids) fun reply =>
    .showAll (VectorStore.deletionEvents name ids.size reply)
      (.ended (VectorStore.deleted name ids.size reply))

/-- Makes a call with its retries; if it fails for good the scan halts where it is. -/
def call {α : Type} (what : String) (reached : Tally) (attempt : Talk (Except Failure α)) :
    Talk (Except Halt α) :=
  (retry plan.maxRetries s!"[{name}] {what}" attempt).bind fun result =>
    .ended (result.mapError fun failure => { failure, reached })

/-- The line that opens a scan. -/
def openingLine : String := s!"[{name}] Starting scan"

/-- The line that reports the orphans of a page. -/
def pageLine (page : Int) (orphans batch : Nat) : String :=
  s!"[{name}] Page {page}: {orphans} orphan point(s) of {batch}"

/-- The line that closes a scan. -/
def closingLine (t : Tally) : String :=
  let pruned := if plan.dryRun then "0 pruned (dry run)" else s!"{t.deleted} pruned"
  s!"[{name}] Done: {t.points} points in {t.pages} page(s), {t.found} orphan(s) found, {pruned}"

/-- Counts a page. -/
def counted (t : Tally) (page : Page PointId) : Tally :=
  { t with pages := t.pages + 1, points := t.points + page.ids.length, phase := .scanning }

/-- Deletes the orphans of a page, unless only the report is wanted. -/
def prune (t : Tally) (orphans : PointSet) : Talk (Except Halt Tally) :=
  if plan.dryRun then .ended (.ok t)
  else
    let t := { t with phase := .pruning }
    (call plan name "delete" t (delete name orphans)).andThen fun count =>
      .ended (.ok { t with deleted := t.deleted + count })

/-- Works on the ids of a page. -/
def work (t : Tally) (ids : List PointId) : Talk (Except Halt Tally) :=
  if ids.isEmpty then .ended (.ok t)
  else
    let batch := PointSet.ofList ids
    (call plan name "point lookup" t (lookup batch)).andThen fun known =>
      let orphans := batch \ known
      if orphans.isEmpty then .ended (.ok t)
      else
        let t := { t with found := t.found + orphans.size }
        .shows (.print (pageLine name t.pages orphans.size batch.size)) (prune plan name t orphans)

/-- The failure of a scan whose cursor does not move. -/
def stuck (cursor : PointId) : Failure :=
  .malformed (.text name) (.text cursor.text) (.text Failure.stuckCursor)

/-- The pages of a scan from a cursor on, at most as many as `bound`. -/
def pages : (bound : Nat) → Tally → Option PointId → Talk (Except Halt Tally)
  | 0, t, cursor         => .ended (.error ⟨stuck name (cursor.getD .nil), t⟩)
  | bound + 1, t, cursor =>
      .asks .stopping fun stop =>
        if stop then .ended (.error ⟨.cancelled (.text name), t⟩)
        else
          let t := { t with phase := .scanning }
          (call plan name "scroll" t (fetch plan name cursor)).andThen fun page =>
            (work plan name (counted t page) page.ids).andThen fun t =>
              match page.next with
              | none      => .ended (.ok t)
              | some next =>
                  if cursor = some next then .ended (.error ⟨stuck name next, t⟩)
                  else pages bound t (some next)

/-- The end of a scan that went through. -/
def close (t : Tally) : Talk (Except Halt Tally) :=
  .shows (.print (closingLine plan name t)) (.ended (.ok { t with phase := .done }))

end Scan

/-- The scan of a collection of at most `bound` pages. -/
def scan (plan : Plan) (name : String) (bound : Nat) : Talk (Except Halt Tally) :=
  .shows (.print (Scan.openingLine name))
    ((Scan.pages plan name bound { collection := name } none).andThen (Scan.close plan name))

end OrphanSweep
