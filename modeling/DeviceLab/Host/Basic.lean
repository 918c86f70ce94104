import DeviceLab.Console.Basic
import DeviceLab.Process.Launch
import DeviceLab.Text.Utf8
import DeviceLab.Time.Duration
import DeviceLab.Time.Timestamp

/-!
# The host

Everything that a run asks of the system it runs on.  A host is a record of operations on states of
some type; nothing is assumed about them, so what is proved for all hosts holds whatever processes
do, whenever they end, whichever call fails, and whenever the run is cancelled.
-/

namespace DeviceLab

open Text

/-- How a process or a group of processes is asked to end. -/
inductive StopSignal where
  /-- It may put its things in order first. -/
  | term
  /-- At once. -/
  | kill
  deriving DecidableEq, Repr

/-- An operation of the system that may fail. -/
abbrev Attempt (σ : Type) := ExceptT IoError (StateM σ)

/-- The operations of a system. -/
structure Host (σ : Type) where
  /-- The time on a clock that never goes back. -/
  now : StateM σ Instant
  /-- The time of day. -/
  timestamp : StateM σ Timestamp
  /-- Lets time pass.  Someone who interrupts the program for good in the meantime kills the given
  process groups. -/
  pause : Duration → List Nat → StateM σ Unit
  /-- Whether the run is to be cancelled, in one step. -/
  cancelRequested : StateM σ Bool
  requestCancel : StateM σ Unit
  /-- Makes an empty file for output in a directory, or where temporary files go. -/
  createCapture : Option String → Attempt σ String
  /-- Starts a program with its output going to a file, as the leader of a process group of its own;
  gives its process number. -/
  spawn : LaunchSpec → String → Attempt σ Nat
  /-- How a child ended, if it has. -/
  tryWait : Nat → Attempt σ (Option ExitOutcome)
  /-- Waits until a child ends. -/
  wait : Nat → Attempt σ ExitOutcome
  /-- Signals a process group; tells whether there was one. -/
  signalGroup : Nat → StopSignal → StateM σ Bool
  /-- Signals what a number addresses: a process if it is positive, else a group of processes or
  all of them.  Tells whether there was one. -/
  signalProcess : Int → StopSignal → StateM σ Bool
  /-- The number of the program's own process. -/
  ownPid : StateM σ Nat
  /-- The number and the command of every process, one per line. -/
  listProcesses : Attempt σ Bytes
  readFile : String → Attempt σ Bytes
  fileSize : String → Attempt σ Nat
  /-- Whether there is something at a path. -/
  pathExists : String → StateM σ Bool
  writeFile : String → Bytes → Attempt σ Unit
  /-- Copies a file over another one. -/
  copyFile : String → String → Attempt σ Unit
  removeFile : String → Attempt σ Unit
  /-- Makes a directory and those above it, unless they are there. -/
  createDirectories : String → Attempt σ Unit
  /-- Tries to reach a port of an address within a time.  The conversations below are held with
  whoever was reached last. -/
  connect : String → Nat → Duration → Attempt σ Unit
  /-- Asks a console for redirections; gives its replies. -/
  askRedirects : List Redirect → Duration → StateM σ (Except ConsoleError String)
  /-- Asks a console for its view of the device. -/
  askStatus : Duration → StateM σ (Except ConsoleError String)
  /-- Waits for the prompt of an agent; gives what it showed instead, if it showed none. -/
  awaitPrompt : Duration → StateM σ (Option String)

namespace Host

/-- The text of a file. -/
def readText (host : Host σ) (path : String) : Attempt σ String := do
  match Utf8.decode? (← host.readFile path) with
  | some text => return text
  | none => throw .invalidUtf8

end Host

/-- A host on a state that is a part of another one. -/
def Host.along (host : Host σ) (view : τ → σ) (put : σ → τ → τ) : Host τ :=
  let lift {α : Type} (operation : StateM σ α) : StateM τ α :=
    modifyGet fun t =>
      let r := operation (view t)
      (r.1, put r.2 t)
  { now := lift host.now
    timestamp := lift host.timestamp
    pause := fun d groups => lift (host.pause d groups)
    cancelRequested := lift host.cancelRequested
    requestCancel := lift host.requestCancel
    createCapture := fun directory => lift (host.createCapture directory)
    spawn := fun spec capture => lift (host.spawn spec capture)
    tryWait := fun pid => lift (host.tryWait pid)
    wait := fun pid => lift (host.wait pid)
    signalGroup := fun pid signal => lift (host.signalGroup pid signal)
    signalProcess := fun target signal => lift (host.signalProcess target signal)
    ownPid := lift host.ownPid
    listProcesses := lift host.listProcesses
    readFile := fun path => lift (host.readFile path)
    fileSize := fun path => lift (host.fileSize path)
    pathExists := fun path => lift (host.pathExists path)
    writeFile := fun path bytes => lift (host.writeFile path bytes)
    copyFile := fun source target => lift (host.copyFile source target)
    removeFile := fun path => lift (host.removeFile path)
    createDirectories := fun path => lift (host.createDirectories path)
    connect := fun address port limit => lift (host.connect address port limit)
    askRedirects := fun redirects limit => lift (host.askRedirects redirects limit)
    askStatus := fun limit => lift (host.askStatus limit)
    awaitPrompt := fun limit => lift (host.awaitPrompt limit) }

end DeviceLab
