import OrphanSweep.Scan
import OrphanSweep.World.Basic

/-! # The answers of a world

    A call is counted, the nudges of its strike act, and it is carried out.  Only the collection
    that a scan is for and the signals change. -/

namespace OrphanSweep.World

/-- The world after a call, with what its nudges show; `c` is the collection that the call was
    for, as it is now. -/
def struck {α : Type} (w : World) (strike : Strike) (c : Collection) (reply : α) :
    Outcome World α :=
  let nudged := Strike.nudgeAll w.signals strike.nudges
  ⟨nudged.1, reply, { w.store c with signals := nudged.2 }⟩

/-- Answers a scroll. -/
def scroll (name : String) (w : World) (cursor : Option PointId) (limit : Int) :
    Outcome World (Except Failure RawPage) :=
  let c := w.collection name
  let strike := w.schedule .scroll name (c.scrolls + 1)
  let made := strike.around (Contents.scroll name (cursor.getD .nil) limit) c.contents
  w.struck strike { c with contents := made.2, scrolls := c.scrolls + 1 } made.1

/-- Answers a lookup; a fault strikes the connection to the database. -/
def lookup (name : String) (w : World) (ids : PointSet) : Outcome World (Except Failure PointSet) :=
  let c := w.collection name
  let strike := w.schedule .lookup name (c.lookups + 1)
  let registry := { w.registry with refused := strike.failure.or w.registry.refused }
  w.struck strike { c with lookups := c.lookups + 1 } (registry.lookup ids).2

/-- Answers a deletion. -/
def delete (name : String) (w : World) (ids : PointSet) : Outcome World (Except Failure Unit) :=
  let c := w.collection name
  let strike := w.schedule .delete name (c.deletions + 1)
  let made := strike.around (Contents.delete name ids) c.contents
  w.struck strike { c with contents := made.2, deletions := c.deletions + 1 } made.1

/-- Answers the questions of a scan of a collection; `stop` is the event that the sweep heeds. -/
def answer (stop : Nat) (name : String) : Answering Call Call.Reply World
  | .stopping, w            => ⟨[], w.stopping stop, w⟩
  | .scroll cursor limit, w => w.scroll name cursor limit
  | .lookup ids, w          => w.lookup name ids
  | .delete ids, w          => w.delete name ids

/-- Answers which collections the store hosts. -/
def hosts : Answering Unit (fun _ => Except Failure (List String)) World := fun _ w =>
  let strike := w.schedule .list none (w.listings + 1)
  let nudged := Strike.nudgeAll w.signals strike.nudges
  let reply := match strike.failure with
    | none         => .ok w.hosted
    | some failure => .error failure
  ⟨nudged.1, reply, { w with listings := w.listings + 1, signals := nudged.2 }⟩

end OrphanSweep.World
