import DeviceLab.Decimal.Powers
import DeviceLab.Classifier.Json
import DeviceLab.Config.Json
import DeviceLab.Dispatch.SuiteRun
import DeviceLab.Summary.Basic

/-!
# Summaries as JSON

The documents of phases, states, suites, devices and whole runs.  Fields without a value are left
out of suites, phases and runs.
-/

namespace DeviceLab

open Json

def Phase.decode : Decoder Phase := variant Phase.ofName?

def FailureKind.decode : Decoder FailureKind := variant FailureKind.ofName?

def SuiteStatus.decode : Decoder SuiteStatus := variant SuiteStatus.ofName?

/-- The state of a run from its name. -/
def SuiteState.decode : Decoder SuiteState := variant SuiteState.ofName?

def HealthState.decode : Decoder HealthState := variant HealthState.ofName?

/-- Numbers of 32 bits. -/
def decodeNat32 : Decoder Nat := natural (Decimal.twoTo 32)

/-- A point in time from its text. -/
def Timestamp.decode : Decoder Timestamp := fun d => do
  (Timestamp.ofText? (← Json.text d)).elim (.error .unfit) .ok

/-- A field that is left out when it has no value. -/
def present (name : String) (toJson : α → Value) : Option α → List (String × Value)
  | none => []
  | some a => [(name, toJson a)]

namespace SuiteSummary

/-- The fields that have a value. -/
def toJson (s : SuiteSummary) : Value :=
  .object ([("suite", .string s.suite), ("category", .string s.category),
      ("device", .string s.device), ("status", .string s.status.name),
      ("verdict", s.verdict.toJson), ("attempts", .nat s.attempts)] ++
    present "classification" Classification.toJson s.classification ++
    present "failure_kind" (.string ·.name) s.failureKind ++
    present "message" .string s.message ++
    present "log_path" .string s.logPath ++
    [("duration_ms", .nat s.durationMs)])

/-- What is left out when written may be left out when read. -/
def decode : Decoder SuiteSummary :=
  Record.decoder <|
    SuiteSummary.mk <$> .required "suite" text
      <*> .required "category" text
      <*> .required "device" text
      <*> .required "status" SuiteStatus.decode
      <*> .required "verdict" Severity.decode
      <*> .required "attempts" decodeNat32
      <*> .nullableWithDefault "classification" Classification.decode
      <*> .nullableWithDefault "failure_kind" FailureKind.decode
      <*> .nullableWithDefault "message" text
      <*> .nullableWithDefault "log_path" text
      <*> .required "duration_ms" decodeCount

end SuiteSummary

namespace PhaseOutcome

/-- The fields that have a value. -/
def toJson (p : PhaseOutcome) : Value :=
  .object ([("phase", .string p.phase.name), ("severity", p.severity.toJson)] ++
    present "failure_kind" (.string ·.name) p.failureKind ++ [("message", .string p.message)])

/-- What is left out when written may be left out when read. -/
def decode : Decoder PhaseOutcome :=
  Record.decoder <|
    PhaseOutcome.mk <$> .required "phase" Phase.decode
      <*> .required "severity" Severity.decode
      <*> .nullableWithDefault "failure_kind" FailureKind.decode
      <*> .required "message" text

end PhaseOutcome

namespace DeviceSummary

/-- The record with all its fields. -/
def toJson (d : DeviceSummary) : Value :=
  .object [("name", .string d.name), ("device_id", .string d.deviceId),
    ("console_port", .nat d.consolePort), ("health", .string d.health.name),
    ("launched_pids", .array (d.launchedPids.map .nat))]

/-- All fields have to be there. -/
def decode : Decoder DeviceSummary :=
  Record.decoder <|
    DeviceSummary.mk <$> .required "name" text
      <*> .required "device_id" text
      <*> .required "console_port" decodePort
      <*> .required "health" HealthState.decode
      <*> .required "launched_pids" (list decodeNat32)

end DeviceSummary

namespace RunSummary

/-- The summary with all its fields. -/
def toJson (s : RunSummary) : Value :=
  .object ([("schema_version", .nat s.schemaVersion), ("schema_id", .string s.schemaId),
      ("created_at", .string s.createdAt.text), ("verdict", s.verdict.toJson),
      ("ci_status", s.ciStatus.toJson), ("exit_code", .int s.exitCode),
      ("final_state", .string s.finalState.name)] ++
    present "failed_from" (.string ·.name) s.failedFrom ++
    [("phases", .array (s.phases.map PhaseOutcome.toJson)),
      ("suites", .array (s.suites.map SuiteSummary.toJson)),
      ("devices", .array (s.devices.map DeviceSummary.toJson)),
      ("tests_passed", .nat s.testsPassed), ("tests_failed", .nat s.testsFailed),
      ("suites_blocked", .nat s.suitesBlocked), ("duration_ms", .nat s.durationMs),
      ("human_summary", .string s.humanSummary)])

/-- The summary without what differs from run to run: no times, devices with the number of their
emulators, and suites in the order of their names. -/
def lastingJson (s : RunSummary) : Value :=
  let without (names : List String) : Value → Value
    | .object fields => .object (fields.filter fun field => !names.contains field.1)
    | v => v
  let device (d : DeviceSummary) : Value :=
    match d.toJson with
    | .object fields => .object (fields.map fun (name, v) =>
        (name, if name = "launched_pids" then .nat d.launchedPids.length else v))
    | v => v
  let suites := s.suites.mergeSort fun a b => decide (a.suite ≤ b.suite)
  match without ["created_at", "duration_ms", "suites", "devices"] s.toJson with
  | .object fields => .object (fields ++
      [("suites", .array (suites.map fun suite => without ["duration_ms"] suite.toJson)),
        ("devices", .array (s.devices.map device))])
  | v => v

/-- What is left out when written may be left out when read. -/
def decode : Decoder RunSummary :=
  Record.decoder <|
    RunSummary.mk <$> .required "schema_version" decodeNat32
      <*> .required "schema_id" text
      <*> .required "created_at" Timestamp.decode
      <*> .required "verdict" Severity.decode
      <*> .required "ci_status" CiStatus.decode
      <*> .required "exit_code" decodeExitCode
      <*> .required "final_state" Phase.decode
      <*> .nullableWithDefault "failed_from" Phase.decode
      <*> .required "phases" (list PhaseOutcome.decode)
      <*> .required "suites" (list SuiteSummary.decode)
      <*> .required "devices" (list DeviceSummary.decode)
      <*> .required "tests_passed" decodeCount
      <*> .required "tests_failed" decodeCount
      <*> .required "suites_blocked" decodeCount
      <*> .required "duration_ms" decodeCount
      <*> .required "human_summary" text

def text (s : RunSummary) : String := s.toJson.pretty

def ofText (text : String) : Except Fault RunSummary := decodeText decode text

end RunSummary

end DeviceLab
