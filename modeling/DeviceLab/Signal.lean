/-!
# Interruption

The first signal cancels a run, the second one ends the program at once, and later ones are
ignored.  Signals are counted in eight bits; the request to cancel is never taken back.
-/

namespace DeviceLab

/-- What a signal leads to. -/
inductive SignalAction where
  | cancel
  | exit
  | ignore
  deriving DecidableEq, Repr

/-- The signals so far, and whether the run is to be cancelled. -/
structure SignalState where
  received : UInt8 := 0
  cancelled : Bool := false
  deriving DecidableEq, Repr

namespace SignalState

/-- Asks for the run to be cancelled. -/
def cancel (s : SignalState) : SignalState := { s with cancelled := true }

/-- Counts a signal; the count before it decides. -/
def onSignal (s : SignalState) : SignalAction × SignalState :=
  let counted := { s with received := s.received + 1 }
  if s.received = 0 then (.cancel, counted.cancel)
  else if s.received = 1 then (.exit, counted)
  else (.ignore, counted)

end SignalState

end DeviceLab
