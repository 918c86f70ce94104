import DeviceLab.Decimal.Powers
import DeviceLab.Retry
import DeviceLab.Timeout
import DeviceLab.Decimal.Shortest
import DeviceLab.Json.Decode

/-!
# Timing

How often things are tried and how long they may take, as numbers of seconds in a configuration
and as policies and durations at run time.

* `TimingSettings.validate`: what is wrong with the numbers, if anything is.
* `TimingSettings.toTiming`: the policies and durations.
-/

namespace DeviceLab

open Decimal

/-- The numbers of a configuration; all times are in seconds. -/
structure TimingSettings where
  redirectAttempts : Nat := 5
  redirectFirstDelay : Binary64 := .ofNat 10
  redirectDelay : Binary64 := .ofNat 30
  agentAttempts : Nat := 4
  agentDelay : Binary64 := .ofNat 30
  startupAttempts : Nat := 3
  startupDelay : Binary64 := .ofNat 30
  pollInterval : Binary64 := .ofNat 30
  heartbeatInterval : Binary64 := .ofNat 300
  terminateGrace : Binary64 := .ofNat 10
  connectTimeout : Binary64 := .ofNat 10
  readTimeout : Binary64 := .ofNat 10
  installTimeout : Binary64 := .ofNat 600
  suiteTimeout : Binary64 := .ofNat 7200
  /-- Zero means that silence is not limited. -/
  suiteIdleTimeout : Binary64 := .ofNat 1800
  deriving DecidableEq, Repr

/-- A field with a value that is not allowed. -/
structure InvalidValue where
  field : String
  reason : String
  deriving DecidableEq, Repr

/-- How long a console may take to be reached and to answer. -/
structure ConsoleTimeouts where
  connect : Duration
  read : Duration
  deriving DecidableEq, Repr

/-- Ten seconds each. -/
def ConsoleTimeouts.standard : ConsoleTimeouts := ⟨.ofSeconds 10, .ofSeconds 10⟩

/-- Policies and durations at run time. -/
structure Timing where
  /-- For the redirection of ports. -/
  redirect : RetryPolicy
  /-- For the prompt of the agent in a device. -/
  agent : RetryPolicy
  /-- For the start of all devices. -/
  startup : RetryPolicy
  pollInterval : Duration
  heartbeatInterval : Duration
  terminateGrace : Duration
  console : ConsoleTimeouts
  installTimeout : Duration
  suite : SuiteTimeouts
  deriving DecidableEq, Repr

namespace TimingSettings

/-- The numbers of attempts by their fields. -/
def attempts (t : TimingSettings) : List (String × Nat) :=
  [("redirect_attempts", t.redirectAttempts), ("agent_attempts", t.agentAttempts),
    ("startup_attempts", t.startupAttempts)]

/-- The times by their fields. -/
def durations (t : TimingSettings) : List (String × Binary64) :=
  [("redirect_first_delay_secs", t.redirectFirstDelay),
    ("redirect_delay_secs", t.redirectDelay),
    ("agent_delay_secs", t.agentDelay),
    ("startup_delay_secs", t.startupDelay),
    ("poll_interval_secs", t.pollInterval),
    ("heartbeat_interval_secs", t.heartbeatInterval),
    ("terminate_grace_secs", t.terminateGrace),
    ("connect_timeout_secs", t.connectTimeout),
    ("read_timeout_secs", t.readTimeout),
    ("install_timeout_secs", t.installTimeout),
    ("suite_timeout_secs", t.suiteTimeout),
    ("suite_idle_timeout_secs", t.suiteIdleTimeout)]

/-- The times that must not be zero. -/
def mandatory (t : TimingSettings) : List (String × Binary64) :=
  [("poll_interval_secs", t.pollInterval),
    ("connect_timeout_secs", t.connectTimeout),
    ("read_timeout_secs", t.readTimeout),
    ("install_timeout_secs", t.installTimeout),
    ("suite_timeout_secs", t.suiteTimeout)]

/-- A field of the timing table with a value that is not allowed. -/
def invalid (field reason : String) : InvalidValue := ⟨"timing." ++ field, reason⟩

/-- Refuses a value unless a condition holds. -/
def require (holds : Bool) (e : ε) : Except ε Unit := if holds then .ok () else .error e

/-- The first value that is not allowed. -/
def validate (t : TimingSettings) : Except InvalidValue Unit := do
  t.attempts.forM fun (field, attempts) =>
    require (attempts != 0) (invalid field "must be at least 1")
  t.durations.forM fun (field, secs) =>
    require secs.isFiniteNonneg
      (invalid field s!"must be a non-negative number of seconds, got {secs.text}")
  t.mandatory.forM fun (field, secs) =>
    require (!secs.isZero) (invalid field "must be greater than zero")
  require (!t.suiteIdleTimeout.finiteGt t.suiteTimeout)
    (invalid "suite_idle_timeout_secs"
      s!"must not exceed suite_timeout_secs ({t.suiteTimeout.text})")

/-- The policies and durations, unless a time is too long to be one. -/
def toTiming (t : TimingSettings) : Except DurationError Timing := do
  let redirectFirst ← Duration.fromSeconds t.redirectFirstDelay
  let redirectDelay ← Duration.fromSeconds t.redirectDelay
  let agentDelay ← Duration.fromSeconds t.agentDelay
  let startupDelay ← Duration.fromSeconds t.startupDelay
  let pollInterval ← Duration.fromSeconds t.pollInterval
  let heartbeatInterval ← Duration.fromSeconds t.heartbeatInterval
  let terminateGrace ← Duration.fromSeconds t.terminateGrace
  let connect ← Duration.fromSeconds t.connectTimeout
  let read ← Duration.fromSeconds t.readTimeout
  let installTimeout ← Duration.fromSeconds t.installTimeout
  let overall ← Duration.fromSeconds t.suiteTimeout
  let idle ← if t.suiteIdleTimeout.finiteGt (.zero false)
    then some <$> Duration.fromSeconds t.suiteIdleTimeout
    else pure none
  return {
    redirect := .escalating t.redirectAttempts redirectFirst redirectDelay
    agent := .fixed t.agentAttempts agentDelay
    startup := .fixed t.startupAttempts startupDelay
    pollInterval, heartbeatInterval, terminateGrace
    console := ⟨connect, read⟩
    installTimeout
    suite := ⟨overall, idle⟩ }

open Json

/-- The numbers as a document. -/
def toJson (t : TimingSettings) : Value :=
  .object [("redirect_attempts", .nat t.redirectAttempts),
    ("redirect_first_delay_secs", .real t.redirectFirstDelay),
    ("redirect_delay_secs", .real t.redirectDelay),
    ("agent_attempts", .nat t.agentAttempts),
    ("agent_delay_secs", .real t.agentDelay),
    ("startup_attempts", .nat t.startupAttempts),
    ("startup_delay_secs", .real t.startupDelay),
    ("poll_interval_secs", .real t.pollInterval),
    ("heartbeat_interval_secs", .real t.heartbeatInterval),
    ("terminate_grace_secs", .real t.terminateGrace),
    ("connect_timeout_secs", .real t.connectTimeout),
    ("read_timeout_secs", .real t.readTimeout),
    ("install_timeout_secs", .real t.installTimeout),
    ("suite_timeout_secs", .real t.suiteTimeout),
    ("suite_idle_timeout_secs", .real t.suiteIdleTimeout)]

/-- A field that is missing has its usual value. -/
def decode : Decoder TimingSettings :=
  let usual : TimingSettings := {}
  Record.decoder <|
    TimingSettings.mk
      <$> .withDefault "redirect_attempts" (natural (twoTo 32)) usual.redirectAttempts
      <*> .withDefault "redirect_first_delay_secs" number usual.redirectFirstDelay
      <*> .withDefault "redirect_delay_secs" number usual.redirectDelay
      <*> .withDefault "agent_attempts" (natural (twoTo 32)) usual.agentAttempts
      <*> .withDefault "agent_delay_secs" number usual.agentDelay
      <*> .withDefault "startup_attempts" (natural (twoTo 32)) usual.startupAttempts
      <*> .withDefault "startup_delay_secs" number usual.startupDelay
      <*> .withDefault "poll_interval_secs" number usual.pollInterval
      <*> .withDefault "heartbeat_interval_secs" number usual.heartbeatInterval
      <*> .withDefault "terminate_grace_secs" number usual.terminateGrace
      <*> .withDefault "connect_timeout_secs" number usual.connectTimeout
      <*> .withDefault "read_timeout_secs" number usual.readTimeout
      <*> .withDefault "install_timeout_secs" number usual.installTimeout
      <*> .withDefault "suite_timeout_secs" number usual.suiteTimeout
      <*> .withDefault "suite_idle_timeout_secs" number usual.suiteIdleTimeout

end TimingSettings

end DeviceLab
