import DeviceLab.Dispatch.Command
import DeviceLab.Timeout

/-!
# One run of a suite

A run goes through three states: running, exited, classified.  The judgement is attached only after
the exit was seen, so that the output it was made from is complete.

* `SuiteRun.markExited`, `SuiteRun.markClassified`: the two steps; each is refused in any state but
  its own, and then nothing changes.
* `SuiteRun.logFileName`: the name of the file that keeps the output.
-/

namespace DeviceLab

/-- How far a run has come. -/
inductive SuiteState where
  | running
  | exited
  | classified
  deriving DecidableEq, Repr

namespace SuiteState

def all : List SuiteState := [.running, .exited, .classified]

def name : SuiteState → String
  | .running => "RUNNING"
  | .exited => "EXITED"
  | .classified => "CLASSIFIED"

/-- The name of a state in an error text. -/
def title : SuiteState → String
  | .running => "Running"
  | .exited => "Exited"
  | .classified => "Classified"

def ofName? (name : String) : Option SuiteState := all.find? fun s => s.name == name

/-- Whether the second state follows the first. -/
def canFollow : SuiteState → SuiteState → Bool
  | .running, .exited => true
  | .exited, .classified => true
  | _, _ => false

end SuiteState

/-- A step that a run cannot take. -/
structure SuiteTransitionError where
  suite : String
  source : SuiteState
  target : SuiteState
  deriving DecidableEq, Repr

def SuiteTransitionError.message (e : SuiteTransitionError) : String :=
  s!"suite '{e.suite}': invalid state transition from {e.source.title} to {e.target.title}"

/-- One run of a suite on a device. -/
structure SuiteRun where
  suite : String
  category : String
  command : SuiteCommand
  deviceIndex : Nat
  device : String
  process : ProcessId
  /-- Counted from one. -/
  attempt : Nat
  watch : TimeoutWatch
  state : SuiteState := .running
  outcome : Option ExitOutcome := none
  /-- Why the harness ended the process, if it did. -/
  timeoutReason : Option String := none
  classification : Option Classification := none
  deriving Repr

namespace SuiteRun

/-- The exit code for the judgement; there is none when the harness ended the process, even if the
process then exited in order. -/
def exitCode (run : SuiteRun) : Option Int :=
  if run.timeoutReason.isSome then none else run.outcome.bind ExitOutcome.code

/-- The state after a step, if the step can be taken. -/
def advance (run : SuiteRun) (target : SuiteState) : Except SuiteTransitionError SuiteRun :=
  if run.state.canFollow target then .ok { run with state := target }
  else .error ⟨run.suite, run.state, target⟩

/-- The process has ended. -/
def markExited (run : SuiteRun) (outcome : ExitOutcome) (timeoutReason : Option String) :
    Except SuiteTransitionError SuiteRun :=
  (run.advance .exited).map fun run => { run with outcome := some outcome, timeoutReason }

/-- The output has been judged. -/
def markClassified (run : SuiteRun) (classification : Classification) :
    Except SuiteTransitionError SuiteRun :=
  (run.advance .classified).map fun run => { run with classification := some classification }

/-- The name of the file that keeps the output; runs after the first are told apart. -/
def logFileName (run : SuiteRun) : String :=
  if 1 < run.attempt then s!"{run.suite}-{run.device}-run{run.attempt}.log"
  else s!"{run.suite}-{run.device}.log"

end SuiteRun

end DeviceLab
