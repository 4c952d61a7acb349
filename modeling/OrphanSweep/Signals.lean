import OrphanSweep.Dialogue

/-! # Signals

    A program has one handler for each of two signals.  Installing puts the same new handler in
    both places and makes a stop event for it; a signal that it handles sets that event.
    Restoring puts handlers back. -/

namespace OrphanSweep

/-- A signal that asks the program to stop. -/
inductive Signal
  | interrupt
  | terminate
deriving DecidableEq

/-- The number of a signal. -/
def Signal.number : Signal → Nat
  | interrupt => 2
  | terminate => 15

/-- The signal of a number. -/
def Signal.ofNumber? (n : Int) : Option Signal :=
  [interrupt, terminate].find? fun s => (s.number : Int) = n

/-- What a signal leads to. -/
inductive Handler
  /-- Whatever was there before any was installed. -/
  | outside
  /-- The handler that sets a stop event. -/
  | stop (event : Nat)
deriving DecidableEq

/-- The handler of each signal. -/
structure Handlers where
  interrupt : Handler := .outside
  terminate : Handler := .outside
deriving DecidableEq

/-- The handler of a signal. -/
def Handlers.get (h : Handlers) : Signal → Handler
  | .interrupt => h.interrupt
  | .terminate => h.terminate

/-- The signal handlers of a program and its stop events, by number. -/
structure Signals where
  handlers : Handlers := {}
  /-- Whether each stop event is set. -/
  events   : List Bool := []
deriving DecidableEq

namespace Signals

/-- Whether a stop event is set. -/
def isSet (p : Signals) (event : Nat) : Bool := p.events.getD event false

/-- Sets a stop event. -/
def set (p : Signals) (event : Nat) : Signals := { p with events := p.events.set event true }

/-- Clears a stop event. -/
def clear (p : Signals) (event : Nat) : Signals := { p with events := p.events.set event false }

/-- Makes a stop event; its number is the number of events before it. -/
def newEvent (p : Signals) : Signals := { p with events := p.events ++ [false] }

/-- Makes a stop event and lets both signals set it. -/
def install (p : Signals) : Signals :=
  { p.newEvent with handlers := ⟨.stop p.events.length, .stop p.events.length⟩ }

/-- The line that a handler shows. -/
def signalLine (s : Signal) : String :=
  s!"\x1b[33mReceived signal {s.number}, stopping after the current page...\x1b[0m"

/-- What is shown when a signal arrives. -/
def firedEvents (p : Signals) (s : Signal) : List Event :=
  match p.handlers.get s with
  | .outside => []
  | .stop _  => [.print (signalLine s)]

/-- What a signal does. -/
def fired (p : Signals) (s : Signal) : Signals :=
  match p.handlers.get s with
  | .outside => p
  | .stop k  => p.set k

/-- Puts back the handlers that are given, and leaves the others. -/
def restore (p : Signals) (previous : Signal → Option Handler) : Signals :=
  { p with
    handlers :=
      ⟨(previous .interrupt).getD p.handlers.interrupt,
       (previous .terminate).getD p.handlers.terminate⟩ }

end Signals

/-! ## Histories -/

namespace Signals

/-- One step in the life of a program. -/
inductive Step
  | install
  | fire (signal : Signal)
  /-- Restores the handlers that an install found, those of some signals left out. -/
  | restore (install : Nat) (without : List Signal)

/-- The signal handling of a program, and the handlers that each install found. -/
structure Life where
  signals : Signals := {}
  found   : List Handlers := []

/-- Makes one step; an install answers with the handlers it found. -/
def Life.after (l : Life) : Step → Outcome Life (Option Handlers)
  | .install =>
      ⟨[], some l.signals.handlers,
       { signals := l.signals.install, found := l.found ++ [l.signals.handlers] }⟩
  | .fire s => ⟨l.signals.firedEvents s, none, { l with signals := l.signals.fired s }⟩
  | .restore k without =>
      let previous := fun s =>
        if without.contains s then none else l.found[k]?.map fun h => h.get s
      ⟨[], none, { l with signals := l.signals.restore previous }⟩

/-- Makes all steps. -/
def Life.history (l : Life) : List Step → List (Outcome Life (Option Handlers))
  | []            => []
  | step :: steps => l.after step :: (l.after step).state.history steps

end Signals

end OrphanSweep
