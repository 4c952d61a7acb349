import OrphanSweep.Dialogue
import OrphanSweep.Registry.Basic

/-! # Histories of a registry

    A history is a row of steps: changes of the table, changes of the way to it, and lookups. -/

namespace OrphanSweep.Registry

/-- One step. -/
inductive Step
  | lookup (ids : PointSet)
  | insert (ids : List PointId)
  | insertEmpty
  | remove (ids : List PointId)
  | drop
  | refuse (failure : Option Failure)
  | dispose

/-- The outcome of a change of rows; a table without a name stays as it is. -/
def changed (r next : Registry) : Outcome Registry (Except Failure (Option PointSet)) :=
  if r.isNamed then ⟨[], .ok none, next⟩ else ⟨[], .error unnamedTable, r⟩

/-- Makes one step; only a lookup has an answer. -/
def after (r : Registry) : Step → Outcome Registry (Except Failure (Option PointSet))
  | .lookup ids     => ⟨(r.lookup ids).1, (r.lookup ids).2.map some, r⟩
  | .insert ids     => r.changed (r.insert ids)
  | .insertEmpty    => r.changed r.insertEmpty
  | .remove ids     => r.changed (r.remove ids)
  | .drop           => ⟨[], .ok none, r.drop⟩
  | .refuse failure => ⟨[], .ok none, r.refuse failure⟩
  | .dispose        => ⟨[.dispose], .ok none, r⟩

/-- Makes all steps, each on what the one before left. -/
def history (r : Registry) : List Step → List (Outcome Registry (Except Failure (Option PointSet)))
  | []            => []
  | step :: steps => r.after step :: (r.after step).state.history steps

end OrphanSweep.Registry
