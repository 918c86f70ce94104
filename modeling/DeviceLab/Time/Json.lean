import DeviceLab.Decimal.Powers
import DeviceLab.Config.Timing

/-!
# Times and limits in JSON

A duration is written as whole seconds and the nanoseconds above them.
-/

namespace DeviceLab

open Json

/-- The duration as seconds and nanoseconds. -/
def Duration.toJson (d : Duration) : Value := .array [.nat d.seconds, .nat d.subsecNanos]

/-- A duration from seconds and nanoseconds, of 64 and of 32 bits; nanoseconds that make up a second
are carried. -/
def Duration.decode : Decoder Duration
  | .array [seconds, nanos] ending => do
    let seconds ← natural (Decimal.twoTo 64) seconds
    let nanos ← natural (Decimal.twoTo 32) nanos
    ending.fault?.elim (.ok ⟨seconds * Decimal.tenTo 9 + nanos⟩) .error
  | .array _ _ => .error .unfit
  | d => .error d.mismatch

/-- The waits as an object. -/
def Backoff.toJson : Backoff → Value
  | .fixed delay => .object [("fixed", delay.toJson)]
  | .escalating first subsequent =>
    .object [("first", first.toJson), ("subsequent", subsequent.toJson)]

def RetryPolicy.toJson (p : RetryPolicy) : Value :=
  .object [("max_attempts", .nat p.maxAttempts), ("backoff", p.backoff.toJson)]

/-- The limits as an object. -/
def SuiteTimeouts.toJson (t : SuiteTimeouts) : Value :=
  .object [("overall", t.overall.toJson), ("idle", .ofOption Duration.toJson t.idle)]

/-- The limits from an object; only the overall one has to be there. -/
def SuiteTimeouts.decode : Decoder SuiteTimeouts :=
  Record.decoder <|
    SuiteTimeouts.mk <$> .required "overall" Duration.decode <*> .nullable "idle" Duration.decode

/-- The policies and durations as an object. -/
def Timing.toJson (t : Timing) : Value :=
  .object [("redirect", t.redirect.toJson), ("agent", t.agent.toJson),
    ("startup", t.startup.toJson), ("poll_interval", t.pollInterval.toJson),
    ("heartbeat_interval", t.heartbeatInterval.toJson),
    ("terminate_grace", t.terminateGrace.toJson), ("connect", t.console.connect.toJson),
    ("read", t.console.read.toJson), ("install_timeout", t.installTimeout.toJson),
    ("suite", t.suite.toJson)]

end DeviceLab
