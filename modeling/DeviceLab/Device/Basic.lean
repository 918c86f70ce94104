import DeviceLab.Config.Basic
import DeviceLab.Console.Basic
import DeviceLab.Dispatch.Template
import DeviceLab.Process.Launch

/-!
# Devices

A device is a configured slot together with what a run has learned about it.

* `Device`: a device, and how far it has come.
* `DeviceError`: why a step with a device failed; `DeviceError.isFatal` tells those that another
  try cannot mend.
* `InstallError`: why a package was not installed.
-/

namespace DeviceLab

/-- How far a device has come. -/
inductive HealthState where
  | notStarted
  | launched
  | redirected
  | healthy
  | unhealthy
  | stopped
  deriving DecidableEq, Repr, Inhabited

namespace HealthState

def all : List HealthState :=
  [.notStarted, .launched, .redirected, .healthy, .unhealthy, .stopped]

/-- The name of a state. -/
def name : HealthState → String
  | .notStarted => "NOT_STARTED"
  | .launched => "LAUNCHED"
  | .redirected => "REDIRECTED"
  | .healthy => "HEALTHY"
  | .unhealthy => "UNHEALTHY"
  | .stopped => "STOPPED"

def ofName? (name : String) : Option HealthState := all.find? fun s => s.name == name

end HealthState

/-- A device slot during a run. -/
structure Device where
  index : Nat
  slot : DeviceSlot
  health : HealthState := .notStarted
  /-- The emulator that runs at present, or ran last. -/
  process : Option ProcessId := none
  /-- The companion that captures the device's log. -/
  logcat : Option ProcessId := none
  /-- The process number of every emulator launched for the slot. -/
  launchedPids : List Nat := []
  /-- The last status report of the console. -/
  statusReport : Option String := none
  deriving DecidableEq, Repr, Inhabited

namespace Device

def name (d : Device) : String := d.slot.name

def deviceId (d : Device) : String := d.slot.deviceId

/-- The redirections to the agent inside the device. -/
def redirects (d : Device) (emulator : EmulatorSettings) : List Redirect :=
  [⟨d.slot.agentPort1, emulator.deviceAgentPort1⟩, ⟨d.slot.agentPort2, emulator.deviceAgentPort2⟩]

end Device

end DeviceLab

/-! ## Errors of devices -/

namespace DeviceLab

/-- Why a step with a device failed. -/
inductive DeviceError where
  | launch (cause : LaunchError)
  /-- The command of the emulator names a value that there is not. -/
  | command (device : String) (cause : UnresolvedPlaceholder)
  | redirect (device : String) (cause : ConsoleError)
  | agent (device : String) (cause : AgentError)
  | exited (device : String) (outcome : ExitOutcome)
  | notLaunched (device : String)
  | supervisor (cause : SupervisorError)
  deriving DecidableEq, Repr

namespace DeviceError

/-- The text of the error. -/
def message : DeviceError → String
  | .launch cause => cause.message
  | .command device cause => s!"{device}: emulator command: {cause.message}"
  | .redirect device cause => s!"{device}: port redirection failed: {cause.message}"
  | .agent device cause => s!"{device}: agent unreachable: {cause.message}"
  | .exited device outcome => s!"{device}: emulator exited early ({outcome.text})"
  | .notLaunched device => s!"{device}: not launched"
  | .supervisor cause => cause.message

/-- Whether another try would fail in the same way: nothing could be launched. -/
def isFatal : DeviceError → Bool
  | .launch _ | .command _ _ | .supervisor (.launch _) => true
  | _ => false

end DeviceError

/-- Why a package was not installed. -/
inductive InstallError where
  | missingArtifact (package path : String)
  /-- The installer ended in a way told in words, with some output. -/
  | failed (device package ending output : String)
  | timedOut (device package : String)
  | command (device : String) (cause : UnresolvedPlaceholder)
  | supervisor (cause : SupervisorError)
  deriving DecidableEq, Repr

/-- The text of the error. -/
def InstallError.message : InstallError → String
  | .missingArtifact package path => s!"{package}: {path} not found"
  | .failed device package ending output =>
    s!"{device}: installing {package} failed ({ending}): {output}"
  | .timedOut device package => s!"{device}: installing {package} timed out"
  | .command device cause => s!"{device}: install command: {cause.message}"
  | .supervisor cause => cause.message

end DeviceLab
