import DeviceLab.Config.Timing
import DeviceLab.Supervisor.Basic

/-!
# Reaching consoles and agents

How often to try, how long to wait in between, and the error at the end.  The connection to a
console is tried more than once and the conversation is not; with an agent both are.
-/

namespace DeviceLab

namespace Lab

/-- A pause between attempts, with a line in the log unless it is empty. -/
def pauseBetween (host : Host σ) (d : Duration) : StateM (Lab σ) Unit := do
  unless d.nanos = 0 do note .info "retrying after pause"
  pause host d

/-- One attempt to connect. -/
def connectOnce (host : Host σ) (address : String) (port : Nat) (limit : Duration) :
    StateM (Lab σ) (Except ConnectError Unit) := do
  match ← sys (host.connect address port limit).run with
  | .ok () => return .ok ()
  | .error cause => return .error ⟨s!"{address}:{port}", 1, cause⟩

/-- Attempts to connect; the error tells how many there were. -/
def connect (host : Host σ) (address : String) (port : Nat) (limit : Duration)
    (policy : RetryPolicy) : StateM (Lab σ) (Except ConnectError Unit) := do
  let attempt : StateM (Lab σ) (Except ConnectError Unit) := do
    note .info "connecting"
    match ← connectOnce host address port limit with
    | .ok () => return .ok ()
    | .error e =>
      note .info "connect attempt failed"
      return .error e
  match ← policy.run (pauseBetween host) fun _ => attempt with
  | .ok () => return .ok ()
  | .error spent => return .error { spent.last with attempts := spent.attempts }

end Lab

namespace Console

open Lab

/-- Asks a console for redirections; gives its replies. -/
def redirect (host : Host σ) (address : String) (port : Nat) (redirects : List Redirect)
    (policy : RetryPolicy) (timeouts : ConsoleTimeouts) :
    StateM (Lab σ) (Except ConsoleError String) := do
  match ← Lab.connect host address port timeouts.connect policy with
  | .error e => return .error (.connect e)
  | .ok () => sys (host.askRedirects redirects timeouts.read)

/-- Asks a console for its view of the device, once. -/
def statusReport (host : Host σ) (address : String) (port : Nat) (timeouts : ConsoleTimeouts) :
    StateM (Lab σ) (Except ConsoleError String) := do
  match ← connectOnce host address port timeouts.connect with
  | .error e => return .error (.connect e)
  | .ok () => sys (host.askStatus timeouts.read)

end Console

namespace Agent

open Lab

/-- One look for the prompt of an agent. -/
def probeOnce (host : Host σ) (address : String) (port : Nat) (timeouts : ConsoleTimeouts)
    (attempt : Nat) : StateM (Lab σ) (Except AgentError Unit) := do
  match ← connectOnce host address port timeouts.connect with
  | .error e => return .error (.connect e)
  | .ok () =>
    match ← sys (host.awaitPrompt timeouts.read) with
    | none => return .ok ()
    | some got => return .error (.noPrompt port attempt got)

/-- Looks for the prompt of an agent; the error tells how often. -/
def probe (host : Host σ) (address : String) (port : Nat) (policy : RetryPolicy)
    (timeouts : ConsoleTimeouts) : StateM (Lab σ) (Except AgentError Unit) := do
  match ← policy.run (pauseBetween host) (probeOnce host address port timeouts) with
  | .ok () => return .ok ()
  | .error ⟨attempts, .connect e⟩ => return .error (.connect { e with attempts })
  | .error ⟨attempts, .noPrompt _ _ got⟩ => return .error (.noPrompt port attempts got)

end Agent

end DeviceLab
