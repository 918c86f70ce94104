import DeviceLab.Classifier.Scan
import DeviceLab.Device.Basic
import DeviceLab.Lifecycle.State
import DeviceLab.Severity
import DeviceLab.Text.Blank
import DeviceLab.Time.Timestamp

/-!
# The summary of a run

A run is summed up by the outcomes of its phases, one record for each suite and one for each device.

* `FailureKind`: why a phase or a suite did not succeed, and how bad that is at least.
* `SuiteSummary` with its four makers: classified, blocked, errored and cancelled.
* `RunSummary.make`: the verdict is the worst one of all phases and suites, and fatal when the run
  failed; totals are clamped to the greatest count.
-/

/-! ## Kinds of failure -/

namespace DeviceLab

/-- Why a phase or a suite did not succeed. -/
inductive FailureKind where
  | launch
  | startup
  | acquire
  | install
  | dispatch
  | timeoutOverall
  | timeoutIdle
  | rerunExhausted
  | ambiguous
  | cancelled
  deriving DecidableEq, Repr

namespace FailureKind

def all : List FailureKind :=
  [.launch, .startup, .acquire, .install, .dispatch, .timeoutOverall, .timeoutIdle,
    .rerunExhausted, .ambiguous, .cancelled]

/-- The name of a kind. -/
def name : FailureKind → String
  | .launch => "LAUNCH"
  | .startup => "STARTUP"
  | .acquire => "ACQUIRE"
  | .install => "INSTALL"
  | .dispatch => "DISPATCH"
  | .timeoutOverall => "TIMEOUT_OVERALL"
  | .timeoutIdle => "TIMEOUT_IDLE"
  | .rerunExhausted => "RERUN_EXHAUSTED"
  | .ambiguous => "AMBIGUOUS"
  | .cancelled => "CANCELLED"

def ofName? (name : String) : Option FailureKind := all.find? fun k => k.name == name

/-- The kind in words. -/
def description : FailureKind → String
  | .launch => "Process launch failed"
  | .startup => "Device startup failed"
  | .acquire => "Device acquisition failed"
  | .install => "Installation failed"
  | .dispatch => "Suite command could not be built"
  | .timeoutOverall => "Suite timed out"
  | .timeoutIdle => "Suite produced no output"
  | .rerunExhausted => "Suite rerun limit reached"
  | .ambiguous => "No recognised test output"
  | .cancelled => "Run cancelled"

/-- The least severity of a failure of this kind. -/
def severity : FailureKind → Severity
  | .timeoutOverall | .timeoutIdle | .ambiguous => .failure
  | _ => .fatal

/-- The kind of a passed limit, by its description: silence speaks of output. -/
def ofTimeoutReason (reason : String) : FailureKind :=
  if Text.occursIn "output" reason then .timeoutIdle else .timeoutOverall

end FailureKind

end DeviceLab

/-! ## Suites and runs -/

namespace DeviceLab

/-- How far a suite got. -/
inductive SuiteStatus where
  /-- It ran to its end, or was ended for passing a limit, and was judged. -/
  | classified
  /-- It was never launched. -/
  | blocked
  /-- It was ended because the run was cancelled. -/
  | cancelled
  /-- It could not be followed to its end. -/
  | errored
  deriving DecidableEq, Repr

namespace SuiteStatus

def all : List SuiteStatus := [.classified, .blocked, .cancelled, .errored]

/-- The name of a status. -/
def name : SuiteStatus → String
  | .classified => "classified"
  | .blocked => "blocked"
  | .cancelled => "cancelled"
  | .errored => "errored"

def ofName? (name : String) : Option SuiteStatus := all.find? fun s => s.name == name

end SuiteStatus

/-- The record of one suite. -/
structure SuiteSummary where
  suite : String
  category : String
  device : String
  status : SuiteStatus
  verdict : Severity
  /-- The number of times the suite was launched. -/
  attempts : Nat
  classification : Option Classification
  failureKind : Option FailureKind
  message : Option String
  /-- The file that keeps the output, if there is one. -/
  logPath : Option String
  durationMs : Nat
  deriving DecidableEq, Repr

namespace SuiteSummary

/-- A suite that was judged; a failure makes the verdict at least as bad as its kind. -/
def classified (suite category device : String) (attempts : Nat) (c : Classification)
    (kind : Option FailureKind) (durationMs : Nat) : SuiteSummary :=
  { suite, category, device, attempts, durationMs
    status := .classified
    verdict := (kind.map fun k => c.severity.join k.severity).getD c.severity
    classification := some c
    failureKind := kind
    message := some (c.summaryLine suite)
    logPath := none }

/-- A suite that was never launched. -/
def blocked (suite category device : String) (kind : FailureKind) (message : String) :
    SuiteSummary :=
  { suite, category, device
    status := .blocked
    verdict := kind.severity
    attempts := 0
    classification := none
    failureKind := some kind
    message := some message
    logPath := none
    durationMs := 0 }

/-- A suite that could not be followed to its end. -/
def errored (suite category device : String) (attempts : Nat) (kind : FailureKind)
    (message : String) : SuiteSummary :=
  { blocked suite category device kind message with attempts, status := .errored }

/-- A suite that was ended because the run was cancelled. -/
def cancelled (suite category device : String) (attempts durationMs : Nat) : SuiteSummary :=
  { suite, category, device, attempts, durationMs
    status := .cancelled
    verdict := .fatal
    classification := none
    failureKind := some .cancelled
    message := some s!"{suite}: cancelled"
    logPath := none }

/-- The number of passed tests. -/
def passed (s : SuiteSummary) : Nat := (s.classification.map Classification.passed).getD 0

/-- The number of failed tests. -/
def failed (s : SuiteSummary) : Nat := (s.classification.map Classification.failed).getD 0

end SuiteSummary

/-- The outcome of one phase. -/
structure PhaseOutcome where
  phase : Phase
  severity : Severity
  failureKind : Option FailureKind
  message : String
  deriving DecidableEq, Repr

namespace PhaseOutcome

/-- An outcome without a kind of failure. -/
def plain (phase : Phase) (severity : Severity) (message : String) : PhaseOutcome :=
  ⟨phase, severity, none, message⟩

def failure (phase : Phase) (kind : FailureKind) (message : String) : PhaseOutcome :=
  ⟨phase, kind.severity, some kind, message⟩

end PhaseOutcome

/-- The record of one device. -/
structure DeviceSummary where
  name : String
  deviceId : String
  consolePort : Nat
  health : HealthState
  launchedPids : List Nat
  deriving DecidableEq, Repr

/-- The record of a device at the end of a run. -/
def DeviceSummary.ofDevice (d : Device) : DeviceSummary :=
  ⟨d.name, d.deviceId, d.slot.consolePort, d.health, d.launchedPids⟩

/-- The summary of a run. -/
structure RunSummary where
  schemaVersion : Nat
  schemaId : String
  createdAt : Timestamp
  verdict : Severity
  ciStatus : CiStatus
  exitCode : Int
  finalState : Phase
  failedFrom : Option Phase
  phases : List PhaseOutcome
  suites : List SuiteSummary
  devices : List DeviceSummary
  testsPassed : Nat
  testsFailed : Nat
  suitesBlocked : Nat
  durationMs : Nat
  humanSummary : String
  deriving DecidableEq, Repr

namespace RunSummary

def currentVersion : Nat := 1

/-- The name of the layout. -/
def currentSchema : String := "emu-harness/run_summary@1"

/-- The name of the file below the upload directory. -/
def fileName : String := "run_summary.json"

/-- The verdict over phases and suites; a run that failed is fatal. -/
def verdictOf (phases : List PhaseOutcome) (suites : List SuiteSummary)
    (failedFrom : Option Phase) : Severity :=
  let worst := Severity.aggregate (phases.map (·.severity) ++ suites.map (·.verdict))
  if failedFrom.isSome then worst.join .fatal else worst

/-- A sum of counts, clamped to the greatest one. -/
def total (counts : List Nat) : Nat := counts.foldl addCounts 0

/-- The summary in words. -/
def wordsFor (status : CiStatus) (suites : List SuiteSummary) (failedFrom : Option Phase) :
    String :=
  let clean := (suites.filter fun s => s.verdict == .success).length
  s!"{status.label}: {clean}/{suites.length} suites clean" ++
    match failedFrom with
    | some phase => s!", run failed during {phase.name}"
    | none => ""

/-- Sums up a run. -/
def make (finalState : Phase) (failedFrom : Option Phase) (phases : List PhaseOutcome)
    (suites : List SuiteSummary) (devices : List DeviceSummary) (durationMs : Nat)
    (createdAt : Timestamp) : RunSummary :=
  let verdict := verdictOf phases suites failedFrom
  { schemaVersion := currentVersion
    schemaId := currentSchema
    createdAt, verdict, finalState, failedFrom, phases, suites, devices, durationMs
    ciStatus := verdict.ciStatus
    exitCode := verdict.ciStatus.exitCode
    testsPassed := total (suites.map SuiteSummary.passed)
    testsFailed := total (suites.map SuiteSummary.failed)
    suitesBlocked := (suites.filter fun s => s.status == .blocked).length
    humanSummary := wordsFor verdict.ciStatus suites failedFrom }

end RunSummary

end DeviceLab
