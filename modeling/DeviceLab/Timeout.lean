import DeviceLab.Time.Duration

/-!
# Time limits of a running suite

A suite may run for so long altogether and be silent for so long.  The watch over it is told the
length of its output from time to time; only a length above every earlier one is a sign of life.

* `SuiteTimeouts.withOverrides`: a suite's own limits in place of the usual ones.
* `TimeoutWatch.check`: which limit is passed at an instant, the overall one first.
* `Heartbeat.due`: whether a line is due that keeps the build log alive.
-/

namespace DeviceLab

open Decimal

/-- The limits of a suite. -/
structure SuiteTimeouts where
  overall : Duration
  /-- Absent when silence is not limited. -/
  idle : Option Duration
  deriving DecidableEq, Repr

namespace SuiteTimeouts

/-- Two hours altogether and half an hour of silence. -/
def standard : SuiteTimeouts := ⟨.ofSeconds 7200, some (.ofSeconds 1800)⟩

/-- A suite's own limits, in seconds, in place of the usual ones. -/
def withOverrides (usual : SuiteTimeouts) (overallSecs idleSecs : Option Binary64) :
    Except DurationError SuiteTimeouts := do
  let overall ← match overallSecs with
    | some x => Duration.fromSeconds x
    | none => pure usual.overall
  let idle ← match idleSecs with
    | some x => some <$> Duration.fromSeconds x
    | none => pure usual.idle
  return ⟨overall, idle⟩

end SuiteTimeouts

/-- Which limit is passed. -/
inductive TimeoutStatus where
  | ok
  | overall
  | idle
  deriving DecidableEq, Repr

namespace TimeoutStatus

/-- Whether a limit is passed. -/
def isTimeout (s : TimeoutStatus) : Bool := s != .ok

/-- The limit that is passed, in words. -/
def reason : TimeoutStatus → Option String
  | .ok => none
  | .overall => some "overall timeout"
  | .idle => some "no output timeout"

end TimeoutStatus

/-- The watch over one run of a suite. -/
structure TimeoutWatch where
  limits : SuiteTimeouts
  start : Instant
  lastActivity : Instant
  /-- The greatest length of the output so far. -/
  outputLength : Nat
  deriving Repr

namespace TimeoutWatch

/-- The watch over a run that starts at an instant. -/
def startedAt (limits : SuiteTimeouts) (start : Instant) : TimeoutWatch := ⟨limits, start, start, 0⟩

/-- A sign of life. -/
def recordActivity (w : TimeoutWatch) (now : Instant) : TimeoutWatch :=
  { w with lastActivity := now }

/-- The length of the output at an instant; growth is a sign of life. -/
def observeOutput (w : TimeoutWatch) (length : Nat) (now : Instant) : TimeoutWatch :=
  if w.outputLength < length then { w with outputLength := length, lastActivity := now } else w

/-- Which limit is passed at an instant. -/
def check (w : TimeoutWatch) (now : Instant) : TimeoutStatus :=
  if w.limits.overall.nanos < (now.since w.start).nanos then .overall
  else
    match w.limits.idle with
    | some idle => if idle.nanos < (now.since w.lastActivity).nanos then .idle else .ok
    | none => .ok

/-- What is left of the overall limit at an instant. -/
def overallRemaining (w : TimeoutWatch) (now : Instant) : Duration :=
  ⟨w.limits.overall.nanos - (now.since w.start).nanos⟩

end TimeoutWatch

/-- A reminder that comes back after an interval; an interval of zero is never over. -/
structure Heartbeat where
  interval : Duration
  last : Instant
  deriving Repr

namespace Heartbeat

def startedAt (interval : Duration) (start : Instant) : Heartbeat := ⟨interval, start⟩

/-- Whether the interval is over at an instant; if it is, it begins anew. -/
def due (h : Heartbeat) (now : Instant) : Bool × Heartbeat :=
  if h.interval.nanos = 0 then (false, h)
  else if h.interval.nanos < (now.since h.last).nanos then (true, { h with last := now })
  else (false, h)

end Heartbeat

end DeviceLab
