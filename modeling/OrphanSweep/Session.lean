import OrphanSweep.Sweep

/-! # Sessions

    A session is a row of steps with one sweeper: runs, scans of single collections, and changes of
    the world between them. -/

namespace OrphanSweep

namespace Session

/-- One step; scans at the same time take the turns that a run gives. -/
inductive Step
  | run (allowed : List String) (turns : List Nat := [])
  | collection (name : String)
  | cancel
  | uncancel
  | addPoints (name : String) (ids : List PointId)
  | removePoints (name : String) (ids : List PointId)
  | addRows (ids : List PointId)
  | removeRows (ids : List PointId)

/-- What a step answers. -/
inductive Answer
  | nothing
  | summary (summary : Summary)
  | tally (tally : Tally)

/-- What became of a step. -/
structure Record where
  log     : List Event := []
  /-- The scans that the step made. -/
  records : List ScanRecord := []
  result  : Except Failure Answer := .ok .nothing
  state   : World

/-- What became of a change of the world from outside, which can be refused. -/
def Record.ofChange (w : World) : Except Failure World → Record
  | .ok next       => { state := next }
  | .error failure => { result := .error failure, state := w }

end Session

namespace Sweeper

variable (s : Sweeper)

/-- Makes one step. -/
def after (w : World) : Session.Step → Session.Record
  | .run allowed turns     =>
      let swept := s.run turns allowed w
      { log := swept.log, records := swept.records, result := swept.result.map .summary,
        state := swept.state }
  | .collection name       =>
      let played := s.scanOne name w
      let record : ScanRecord := ⟨name, played.transcript⟩
      { log := record.events, records := [record],
        result := (played.result.mapError Halt.failure).map .tally, state := played.state }
  | .cancel                => { state := { w with signals := w.signals.set s.stop } }
  | .uncancel              => { state := { w with signals := w.signals.clear s.stop } }
  | .addPoints name ids    => .ofChange w (w.addPoints name (.ofList ids))
  | .removePoints name ids => .ofChange w (w.removePoints name (.ofList ids))
  | .addRows ids           => { state := w.addRows ids }
  | .removeRows ids        => { state := w.removeRows ids }

/-- Makes all steps, each in the world that the one before left. -/
def session (w : World) : List Session.Step → List Session.Record
  | []            => []
  | step :: steps => s.after w step :: session (s.after w step).state steps

end Sweeper

end OrphanSweep
