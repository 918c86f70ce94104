import DeviceLab.Host.IoError
import DeviceLab.Text.Classes

/-!
# Consoles and agents

The console of an emulator takes commands on a port of the host; an agent inside a device shows a
prompt on another one, once the ports of the host lead to those of the device.

* `Redirect`: a port that leads to one of a device, and the command that makes it.
* `ConnectError`, `ConsoleError`, `AgentError`: what can go wrong on the way to a device.
-/

namespace DeviceLab

open Text

/-- A port of the host that leads to one of a device. -/
structure Redirect where
  localPort : Nat
  devicePort : Nat
  deriving DecidableEq, Repr

/-- The console command that makes a redirection. -/
def Redirect.command (r : Redirect) : String := s!"redir add tcp:{r.localPort}:{r.devicePort}"

/-- Every attempt to connect failed. -/
structure ConnectError where
  /-- The address as `host:port`. -/
  target : String
  attempts : Nat
  /-- Why the last attempt failed. -/
  last : IoError
  deriving DecidableEq, Repr

def ConnectError.message (e : ConnectError) : String :=
  s!"connection to {e.target} failed after {e.attempts} attempt(s): {e.last.message}"

/-- What can go wrong with the console of an emulator. -/
inductive ConsoleError where
  | connect (cause : ConnectError)
  | unexpectedReply (expected got : String)
  deriving DecidableEq, Repr

def ConsoleError.message : ConsoleError → String
  | .connect cause => cause.message
  | .unexpectedReply expected got =>
    s!"unexpected console reply (expected '{expected}'): {quoted got}"

/-- What can go wrong with the agent inside a device. -/
inductive AgentError where
  | connect (cause : ConnectError)
  | noPrompt (port attempts : Nat) (got : String)
  deriving DecidableEq, Repr

/-- The text of the error. -/
def AgentError.message : AgentError → String
  | .connect cause => cause.message
  | .noPrompt port attempts got =>
    s!"agent on port {port} did not show prompt after {attempts} attempt(s); " ++
      s!"last output: {quoted got}"

end DeviceLab
