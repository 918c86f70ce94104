import DeviceLab.Host.Basic

/-!
# Supervised processes

The supervisor owns every process that a run starts, together with the file that captures its
output.  Standard output and error go to the same file, so the file is complete once the exit has
been observed.

* `Supervisor`: the processes by their handles, and the process groups that may still be alive.
* `Event`: what is worth a line in the log, and what the order of steps is judged by.
* `Lab`: the supervisor on a host, with everything that has happened.
-/

namespace DeviceLab

/-- A process under supervision. -/
structure Supervised where
  label : String
  /-- The process number that the system gave. -/
  pid : Nat
  /-- The file with the output. -/
  capture : String
  /-- How the process ended, once that was observed. -/
  outcome : Option ExitOutcome := none
  /-- A part of the names of processes that are swept once this one has ended. -/
  strayPattern : Option String := none
  deriving DecidableEq, Repr

/-- The processes of a run. -/
structure Supervisor where
  /-- In the order of their handles. -/
  procs : List (ProcessId × Supervised) := []
  nextId : Nat := 1
  /-- The time between the two signals that end a process. -/
  grace : Duration := .ofSeconds 10
  /-- The directory for output, or where temporary files go. -/
  captureDir : Option String := none
  /-- The groups to kill when the program is interrupted for good, in ascending order. -/
  groups : List Nat := []
  deriving Repr

namespace Supervisor

/-- Every handle that has not been released. -/
def ids (s : Supervisor) : List ProcessId := s.procs.map (·.1)

def proc? (s : Supervisor) (id : ProcessId) : Option Supervised :=
  (s.procs.find? fun entry => entry.1 == id).map (·.2)

/-- How the process of a handle ended, if that was observed. -/
def outcome? (s : Supervisor) (id : ProcessId) : Option ExitOutcome :=
  (s.proc? id).bind Supervised.outcome

/-- The processes that have not been observed to exit. -/
def running (s : Supervisor) : List ProcessId :=
  (s.procs.filter fun entry => entry.2.outcome.isNone).map (·.1)

/-- Changes the process of a handle. -/
def update (s : Supervisor) (id : ProcessId) (change : Supervised → Supervised) : Supervisor :=
  { s with procs := s.procs.map fun (other, p) =>
      if other = id then (other, change p) else (other, p) }

/-- Enters a group, in ascending order and once. -/
def insertGroup (pid : Nat) : List Nat → List Nat
  | [] => [pid]
  | other :: rest =>
    if pid < other then pid :: other :: rest
    else if pid = other then other :: rest
    else other :: insertGroup pid rest

def listGroup (s : Supervisor) (pid : Nat) : Supervisor :=
  { s with groups := insertGroup pid s.groups }

/-- Takes a process group off the list. -/
def unlistGroup (s : Supervisor) (pid : Nat) : Supervisor :=
  { s with groups := s.groups.filter (· != pid) }

/-- Keeps the list of groups in another one from now on; what is listed stays listed. -/
def useGroups (s : Supervisor) (shared : List Nat) : Supervisor :=
  { s with groups := s.groups.foldl (fun groups pid => insertGroup pid groups) shared }

/-- Takes up a process under the next handle. -/
def enroll (s : Supervisor) (p : Supervised) : ProcessId × Supervisor :=
  (⟨s.nextId⟩, { s.listGroup p.pid with
    procs := s.procs ++ [(⟨s.nextId⟩, p)], nextId := s.nextId + 1 })

def forget (s : Supervisor) (id : ProcessId) : Supervisor :=
  { s with procs := s.procs.filter fun entry => entry.1 != id }

end Supervisor

/-- How loud a line of the log is. -/
inductive LogLevel where
  | info
  | warn
  | error
  deriving DecidableEq, Repr

def LogLevel.name : LogLevel → String
  | .info => "INFO"
  | .warn => "WARN"
  | .error => "ERROR"

/-- Something that has happened. -/
inductive Event where
  | launched (id : ProcessId) (spec : LaunchSpec)
  /-- The exit of a process was observed. -/
  | exited (id : ProcessId) (outcome : ExitOutcome)
  | terminating (id : ProcessId)
  | graceExpired (id : ProcessId)
  | strayKilled (pid : Nat) (command : String)
  /-- All processes whose command contains a pattern have been killed. -/
  | swept (pattern : String)
  | sweepFailed (pattern : String)
  | terminateFailed (id : ProcessId)
  | preserved (id : ProcessId) (file : String)
  | released (id : ProcessId)
  /-- The supervisor was given up while processes ran. -/
  | abandoned (running : Nat)
  | note (level : LogLevel) (message : String)
  deriving DecidableEq, Repr

/-- The line of the log that tells an event, if there is one. -/
def Event.line? : Event → Option (LogLevel × String)
  | .launched _ spec => some (.info, s!"launched: {spec.commandLine}")
  | .exited _ _ => none
  | .terminating _ => some (.info, "terminating")
  | .graceExpired _ => some (.warn, "grace period expired, killing")
  | .strayKilled _ _ => some (.info, "killing stray process")
  | .swept _ => none
  | .sweepFailed _ => some (.warn, "stray process sweep failed")
  | .terminateFailed _ => some (.warn, "terminate failed")
  | .preserved _ _ => some (.info, "preserved output")
  | .released _ => none
  | .abandoned _ => some (.info, "supervisor dropped with live children")
  | .note level message => some (level, message)

/-- A supervisor on a host. -/
structure Lab (σ : Type) where
  system : σ
  supervisor : Supervisor := {}
  /-- What has happened, in order. -/
  journal : List Event := []

namespace Lab

variable {m : Type → Type} [MonadState (Lab σ) m]

/-- Carries out an operation of the system. -/
def sys (operation : StateM σ α) : m α :=
  modifyGet fun lab =>
    let r := operation lab.system
    (r.1, { lab with system := r.2 })

def modifySupervisor (change : Supervisor → Supervisor) : m Unit :=
  modify fun lab => { lab with supervisor := change lab.supervisor }

/-- Writes down an event. -/
def record (event : Event) : m Unit :=
  modify fun lab => { lab with journal := lab.journal ++ [event] }

/-- Writes a line to the log. -/
def note (level : LogLevel) (message : String) : m Unit := record (.note level message)

/-- Lets time pass. -/
def pause (host : Host σ) (d : Duration) : m Unit :=
  modify fun lab => { lab with system := (host.pause d lab.supervisor.groups lab.system).2 }

end Lab

end DeviceLab
