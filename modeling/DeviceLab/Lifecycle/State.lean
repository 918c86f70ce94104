/-!
# The phases of a run

A run goes through nine phases in a fixed order, and can fail in each but the last; a failed run
goes nowhere.

* `Phase.next`, `Phase.canFollow`: the order.
* `Lifecycle`: the phase of a run with everything before it; `Lifecycle.transition` and
  `Lifecycle.fail` are its only steps.
-/

namespace DeviceLab

/-- A phase of a run. -/
inductive Phase where
  | idle
  | acquiringDevices
  | devicesStarting
  | devicesHealthy
  | artifactInstalling
  | suitesRunning
  | resultsCollected
  | devicesStopped
  | done
  | failed
  deriving DecidableEq, Repr, Inhabited

namespace Phase

/-- Every phase in its order, the failed one at the end. -/
def all : List Phase :=
  [.idle, .acquiringDevices, .devicesStarting, .devicesHealthy, .artifactInstalling,
    .suitesRunning, .resultsCollected, .devicesStopped, .done, .failed]

/-- The place of a phase in the order. -/
def rank : Phase → Nat
  | .idle => 0
  | .acquiringDevices => 1
  | .devicesStarting => 2
  | .devicesHealthy => 3
  | .artifactInstalling => 4
  | .suitesRunning => 5
  | .resultsCollected => 6
  | .devicesStopped => 7
  | .done => 8
  | .failed => 9

/-- The name of a phase. -/
def name : Phase → String
  | .idle => "IDLE"
  | .acquiringDevices => "ACQUIRING_DEVICES"
  | .devicesStarting => "DEVICES_STARTING"
  | .devicesHealthy => "DEVICES_HEALTHY"
  | .artifactInstalling => "ARTIFACT_INSTALLING"
  | .suitesRunning => "SUITES_RUNNING"
  | .resultsCollected => "RESULTS_COLLECTED"
  | .devicesStopped => "DEVICES_STOPPED"
  | .done => "DONE"
  | .failed => "FAILED"

def ofName? (name : String) : Option Phase := all.find? fun p => p.name == name

/-- Whether a run ends here. -/
def isTerminal (p : Phase) : Bool := p == .done || p == .failed

/-- The phase that follows when all goes well. -/
def next : Phase → Option Phase
  | .idle => some .acquiringDevices
  | .acquiringDevices => some .devicesStarting
  | .devicesStarting => some .devicesHealthy
  | .devicesHealthy => some .artifactInstalling
  | .artifactInstalling => some .suitesRunning
  | .suitesRunning => some .resultsCollected
  | .resultsCollected => some .devicesStopped
  | .devicesStopped => some .done
  | .done => none
  | .failed => none

/-- Whether the second phase can follow the first. -/
def canFollow (p target : Phase) : Bool :=
  !p.isTerminal && (target == .failed || p.next == some target)

end Phase

/-- A step that a run cannot take. -/
structure PhaseTransitionError where
  source : Phase
  target : Phase
  deriving DecidableEq, Repr

def PhaseTransitionError.message (e : PhaseTransitionError) : String :=
  s!"invalid lifecycle transition from {e.source.name} to {e.target.name}"

/-- The phase of a run and those before it. -/
structure Lifecycle where
  phase : Phase := .idle
  /-- The phase in which the run failed. -/
  failedFrom : Option Phase := none
  /-- Every phase entered, in order. -/
  history : List Phase := [.idle]
  deriving DecidableEq, Repr

namespace Lifecycle

def isFailed (l : Lifecycle) : Bool := l.phase == .failed

/-- Enters a phase, if it can follow. -/
def transition (l : Lifecycle) (target : Phase) : Except PhaseTransitionError Lifecycle :=
  if l.phase.canFollow target then
    .ok { phase := target
          failedFrom := if target = .failed then some l.phase else l.failedFrom
          history := l.history ++ [target] }
  else .error ⟨l.phase, target⟩

/-- Fails the run, unless it has ended. -/
def fail (l : Lifecycle) : Lifecycle :=
  match l.transition .failed with
  | .ok l => l
  | .error _ => l

end Lifecycle

end DeviceLab
