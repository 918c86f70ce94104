import DeviceLab.Summary.Json

/-!
# Summaries from what has happened

A summary can be made from an object that tells what became of each phase and each suite, rather
than what is to be written about it.
-/

namespace DeviceLab

open Json

/-- The outcome of a phase: a kind of failure, or a severity. -/
def PhaseOutcome.decodeEvent : Decoder PhaseOutcome := fun d => do
  let (phase, kind, message) ← Record.decoder
    ((fun phase kind message => (phase, kind, message)) <$> .required "phase" Phase.decode
      <*> .nullable "kind" FailureKind.decode <*> .required "message" text) d
  match kind with
  | some kind => return .failure phase kind message
  | none => return .plain phase (← Record.decoder (.required "severity" Severity.decode) d) message

/-- What became of a suite that has the given names. -/
def SuiteSummary.decodeFate (suite category device fate : String) : Decoder SuiteSummary :=
  Record.decoder <| match fate with
    | "classified" => classified suite category device <$> .required "attempts" decodeNat32
        <*> .required "classification" Classification.decode
        <*> .nullable "kind" FailureKind.decode <*> .required "duration_ms" decodeCount
    | "blocked" => blocked suite category device <$> .required "kind" FailureKind.decode
        <*> .required "message" text
    | "errored" => errored suite category device <$> .required "attempts" decodeNat32
        <*> .required "kind" FailureKind.decode <*> .required "message" text
    | _ => cancelled suite category device <$> .required "attempts" decodeNat32
        <*> .required "duration_ms" decodeCount

/-- What became of a suite, and the file that keeps its output. -/
def SuiteSummary.decodeEvent : Decoder SuiteSummary := fun d => do
  let decode ← Record.decoder (decodeFate <$> .required "suite" text <*> .required "category" text
    <*> .required "device" text <*> .required "ctor" text) d
  let logPath ← Record.decoder (.nullable "log_path" text) d
  return { ← decode d with logPath }

/-- The summary of a run at the beginning of time. -/
def RunSummary.decodeEvents : Decoder RunSummary :=
  Record.decoder <|
    (RunSummary.make · · · · · · .epoch) <$> .required "final_state" Phase.decode
      <*> .nullable "failed_from" Phase.decode
      <*> .withDefault "phases" (list PhaseOutcome.decodeEvent) []
      <*> .withDefault "suites" (list SuiteSummary.decodeEvent) []
      <*> .required "devices" (list DeviceSummary.decode)
      <*> .required "duration_ms" decodeCount

end DeviceLab
