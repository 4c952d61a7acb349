import OrphanSweep.Failure
import OrphanSweep.PointSet

/-! # Pages of a scan

    A store sends a page as records and a cursor of any kind (`RawPage`).  A scan works on pages
    whose ids and cursor have been checked (`Page`); a page with one bad value is refused as a
    whole, the first bad value being shown (`Page.ofRaw`). -/

namespace OrphanSweep

/-- One page of a scan: the ids in the order they came, and where the next page begins. -/
structure Page (Cursor : Type) where
  ids  : List PointId := []
  next : Option Cursor := none

/-- Whether no page follows. -/
def Page.isLast {Cursor : Type} (page : Page Cursor) : Bool := page.next.isNone

/-- A page as the store sends it: an id for each record, and a cursor or nothing. -/
structure RawPage where
  records : List Value := []
  next    : Value := .null

/-- The id that a value stands for: itself, or a text that spells one. -/
def Value.pointId? : Value → Option PointId
  | id p   => some p
  | text s => PointId.parse? s
  | _      => none

/-- The id that a value stands for, or a refusal that shows the value. -/
def Value.pointId (collection detail : String) (v : Value) : Except Failure PointId :=
  match v.pointId? with
  | some p => .ok p
  | none   => .error (.malformed (.text collection) v (.text detail))

/-- The ids of values in order, or the refusal of the first that stands for none. -/
def Value.pointIds (collection detail : String) : List Value → Except Failure (List PointId)
  | []      => .ok []
  | v :: vs =>
      match v.pointId collection detail with
      | .error failure => .error failure
      | .ok p          => (pointIds collection detail vs).map (p :: ·)

/-- The cursor that a value stands for. -/
def Value.cursor (collection : String) : Value → Except Failure (Option PointId)
  | null => .ok none
  | v    => (v.pointId collection Failure.badCursor).map some

/-- Checks a page: its records in order, then its cursor. -/
def Page.ofRaw (collection : String) (raw : RawPage) : Except Failure (Page PointId) :=
  match Value.pointIds collection Failure.badPointId raw.records with
  | .error failure => .error failure
  | .ok ids        => (raw.next.cursor collection).map fun next => { ids, next }

end OrphanSweep
