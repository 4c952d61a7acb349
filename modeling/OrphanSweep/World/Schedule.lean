import OrphanSweep.Signals
import OrphanSweep.Failure

/-! # Schedules of faults

    A schedule says, for each call by its number, what strikes it: nudges that come before it is
    carried out, and a failure in the place of its answer, before or after it has taken effect.
    Rules describe a schedule (`Schedule.ofRules`). -/

namespace OrphanSweep

/-- A kind of call. -/
inductive CallKind
  | list
  | scroll
  | lookup
  | delete
deriving DecidableEq

/-- Something that happens to the program while a call is made. -/
inductive Nudge
  /-- A stop event is set; it need not be the one that the sweep heeds. -/
  | cancel (event : Nat)
  /-- A signal arrives. -/
  | signal (signal : Signal)
deriving DecidableEq

/-- What strikes one call. -/
structure Strike where
  nudges  : List Nudge := []
  failure : Option Failure := none
  /-- The call takes effect before it fails. -/
  late    : Bool := false

/-- What strikes the `n`th call of a kind for a collection, counted from one; a listing is for no
    collection. -/
abbrev Schedule := CallKind → Option String → (n : Nat) → Strike

/-- The schedule without faults. -/
def Schedule.calm : Schedule := fun _ _ _ => {}

namespace Strike

/-- Carries out a call that the strike may keep from its effect or from its answer.  A call that
    fails by itself fails with its own failure. -/
def around {σ α : Type} (strike : Strike) (act : σ → Except Failure α × σ) (s : σ) :
    Except Failure α × σ :=
  match strike.failure with
  | none         => act s
  | some failure =>
      if strike.late then
        match act s with
        | (.ok _, s')      => (.error failure, s')
        | (.error own, s') => (.error own, s')
      else (.error failure, s)

/-- Lets a nudge act. -/
def nudge (p : Signals) : Nudge → List Event × Signals
  | .cancel event => ([], p.set event)
  | .signal s     => (p.firedEvents s, p.fired s)

/-- Lets nudges act in order. -/
def nudgeAll (p : Signals) : List Nudge → List Event × Signals
  | []      => ([], p)
  | n :: ns =>
      let first := nudge p n
      let rest := nudgeAll first.2 ns
      (first.1 ++ rest.1, rest.2)

end Strike

/-! ## Rules -/

/-- What a rule does to a call. -/
inductive Blow
  | nudge (nudge : Nudge)
  | failure (failure : Failure) (late : Bool)

/-- A rule strikes some calls in a row, of one kind and for one collection or for each. -/
structure Rule where
  kind       : CallKind
  first      : Int
  times      : Int := 1
  collection : Option String := none
  blow       : Blow

/-- Whether a rule strikes a call. -/
def Rule.strikes (r : Rule) (kind : CallKind) (collection : Option String) (n : Nat) : Bool :=
  r.kind = kind && (r.collection.isNone || r.collection = collection) &&
    r.first ≤ n && n < r.first + r.times

/-- The strike of several blows in order; the first failure ends it. -/
def Strike.ofBlows : List Blow → Strike
  | []                        => {}
  | .nudge nudge :: blows     =>
      let rest := ofBlows blows
      { rest with nudges := nudge :: rest.nudges }
  | .failure failure late :: _ => { failure, late }

/-- The schedule that rules describe. -/
def Schedule.ofRules (rules : List Rule) : Schedule := fun kind collection n =>
  .ofBlows ((rules.filter fun r => r.strikes kind collection n).map Rule.blow)

end OrphanSweep
