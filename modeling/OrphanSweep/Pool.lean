import OrphanSweep.World.Answer

/-! # Scans that take turns

    A pool holds the scans of several collections.  At any time the first few of them that have
    not ended may make a move, and a list of turns says which ones do: `turns` makes those moves,
    and `drain` lets every scan that is left run to its end, in order.  The sweep heeds a scan that
    has failed when it gets a turn of its own; from then on the scans that have not begun are called
    off, and the others are aborted at their next page. -/

namespace OrphanSweep

/-- A scan in a pool: what is left of it, and its transcript so far. -/
structure Scanner where
  record : ScanRecord
  talk   : Talk (Except Halt Tally)

/-- Whether a scan has begun: it has shown or asked something. -/
def Scanner.hasBegun (scanner : Scanner) : Bool := !scanner.record.transcript.isEmpty

/-- The scans of several collections, in the order of the collections. -/
structure Pool where
  scanners  : List Scanner
  /-- The tallies of the scans that went through, in the order in which they ended. -/
  tallies   : List Tally := []
  /-- The failure of the first scan that failed. -/
  failure   : Option Failure := none
  /-- Scans that have not begun are called off. -/
  calledOff : Bool := false
  world     : World

namespace Pool

/-- The pool that scans the collections of some names. -/
def start (plan : Plan) (names : List String) (w : World) : Pool where
  scanners := names.map fun name =>
    { record := { name }, talk := scan plan name (w.collection name).contents.pageBound }
  world    := w

/-- The pool and its world after a scan has moved.  If the scan has ended, its tally is noted, or
    its failure. -/
def note (pool : Pool) (scanners : List Scanner) (w : World) : Talk (Except Halt Tally) → Pool
  | .ended (.ok tally)   =>
      { pool with scanners, world := w, tallies := pool.tallies ++ [tally] }
  | .ended (.error halt) =>
      { pool with scanners, world := w, failure := pool.failure.or (some halt.failure) }
  | _                    => { pool with scanners, world := w }

/-- The pool after the sweep has looked for a failure: if there is one, the scans are aborted, and
    those that have not begun are called off. -/
def heed (pool : Pool) : Pool :=
  { pool with
    calledOff := pool.calledOff || pool.failure.isSome
    world     := { pool.world with aborted := pool.world.aborted || pool.failure.isSome } }

/-- Whether a scan of the pool goes on: it has not ended, and it is not called off. -/
def goesOn (pool : Pool) (scanner : Scanner) : Bool :=
  !scanner.talk.isEnded && (scanner.hasBegun || !pool.calledOff)

/-- Whether the scan at a place may move: it goes on, and it is among the first `workers` that have
    not ended. -/
def mayMove (pool : Pool) (workers place : Nat) : Bool :=
  pool.scanners[place]?.any pool.goesOn &&
    (pool.scanners.take place).countP (fun scanner => !scanner.talk.isEnded) < workers

/-- Lets the scan at a place make one move. -/
def move (stop : Nat) (pool : Pool) (place : Nat) : Pool :=
  match pool.scanners[place]? with
  | none         => pool
  | some scanner =>
      let name := scanner.record.name
      let made := scanner.talk.step (World.answer stop name) pool.world
      let moved : Scanner :=
        { record := { name, transcript := scanner.record.transcript ++ made.transcript }
          talk   := made.result }
      pool.note (pool.scanners.set place moved) made.state made.result

/-- Makes the moves of a list of turns.  A turn of a scan that may not move passes, and a turn past
    the last scan is the sweep's own. -/
def turns (stop workers : Nat) (pool : Pool) : List Nat → Pool
  | []             => pool
  | place :: later =>
      if pool.mayMove workers place then turns stop workers (pool.move stop place) later
      else if pool.scanners.length ≤ place then turns stop workers pool.heed later
      else turns stop workers pool later

/-- Lets the scan at a place run to its end, if it goes on. -/
def finish (stop : Nat) (pool : Pool) (place : Nat) : Pool :=
  match pool.scanners[place]? with
  | none         => pool
  | some scanner =>
      if !pool.goesOn scanner then pool
      else
        let name := scanner.record.name
        let made := scanner.talk.run (World.answer stop name) pool.world
        let ended : Scanner :=
          { record := { name, transcript := scanner.record.transcript ++ made.transcript }
            talk   := .ended made.result }
        pool.note (pool.scanners.set place ended) made.state (.ended made.result)

/-- Lets all scans run to their ends, one after the other; the sweep heeds each end. -/
def drain (stop : Nat) (pool : Pool) : Pool :=
  (List.range pool.scanners.length).foldl (fun pool place => (pool.finish stop place).heed) pool

/-- Makes the moves of a list of turns and lets the scans that are left run to their ends. -/
def run (stop workers : Nat) (pool : Pool) (list : List Nat) : Pool :=
  (pool.turns stop workers list).drain stop

/-- The tally of a name: the one that came last, if there are several. -/
def tally? (pool : Pool) (name : String) : Option Tally :=
  pool.tallies.reverse.find? fun t => t.collection = name

end Pool

end OrphanSweep
