import DeviceLab.Run.Basic
import DeviceLab.Summary.Json

/-!
# The report of a run

When all is over the run is summed up.  If the verdict is worse than success, the output of every
process is kept below the upload directory; the summary is written there in any case.
-/

namespace DeviceLab

/-- Everything that a run reports. -/
structure RunReport where
  summary : RunSummary
  /-- The phases entered, in order. -/
  history : List Phase
  /-- The file with the summary, if it could be written. -/
  summaryPath : Option String
  /-- The directory with the output of processes, if it was kept. -/
  logsDir : Option String
  deriving DecidableEq, Repr

/-- Writes a summary to a file. -/
def RunSummary.write (host : Host σ) (path : String) (summary : RunSummary) : Attempt σ Unit := do
  (Path.parent? path).forM host.createDirectories
  host.writeFile path (Text.Utf8.encode summary.text)

def RunSummary.read (host : Host σ) (path : String) : Attempt σ (Except Json.Fault RunSummary) := do
  return RunSummary.ofText (← host.readText path)

namespace Run

/-- The directory for the output of processes, below the upload directory. -/
def logsDirName : String := "logs"

/-- A character that may stand in the name of a file with output. -/
def isSafe (c : Char) : Bool := c.isAlphanum || c == '-' || c == '_' || c == '.'

/-- The name of the file with the output of a process that is no suite. -/
def captureFileName (label : String) : String :=
  String.ofList (label.toList.map fun c => if isSafe c then c else '-') ++ ".log"

/-- The name of the file that is to keep the output of a process. -/
def outputFileName (run : Run σ β) (id : ProcessId) : String :=
  match run.logNames.find? fun entry => entry.1 == id with
  | some (_, name) => name
  | none => captureFileName (((run.lab.supervisor.proc? id).map Supervised.label).getD "process")

/-- The directory for the output of processes. -/
def logsDir (s : Setup σ β) : String := Path.join s.plan.context.uploadDir logsDirName

def outputFile (s : Setup σ β) (run : Run σ β) (id : ProcessId) : String :=
  Path.join (logsDir s) (run.outputFileName id)

/-- Keeps the output of processes in a directory; gives the files by their processes. -/
def keepEach (s : Setup σ β) (dir : String) :
    List ProcessId → StateM (Run σ β) (List (ProcessId × String))
  | [] => return []
  | id :: rest => do
    let run ← get
    match ← onLab (Lab.preserve s.host id dir (run.outputFileName id)).run with
    | .ok file => return (id, file) :: (← keepEach s dir rest)
    | .error _ => keepEach s dir rest

/-- Releases every process. -/
def releaseAll (s : Setup σ β) : StateM (Run σ β) Unit := do
  (← get).lab.supervisor.ids.forM fun id => do
    discard <| onLab (Lab.release s.host id).run

/-- Tells the records of suites where the output of their last attempts is kept. -/
def linkLogs (kept : List (ProcessId × String)) (resultLogs : List (Nat × ProcessId))
    (suites : List SuiteSummary) : List SuiteSummary :=
  resultLogs.foldl (fun suites (index, id) =>
    suites.modify index fun suite =>
      { suite with logPath := (kept.find? fun entry => entry.1 == id).map (·.2) }) suites

/-- Keeps all output; gives the directory and the records of suites with their files. -/
def preserveAll (s : Setup σ β) (suites : List SuiteSummary) :
    StateM (Run σ β) (String × List SuiteSummary) := do
  let run ← get
  let kept ← keepEach s (logsDir s) run.lab.supervisor.ids
  return (logsDir s, linkLogs kept run.resultLogs suites)

/-- Keeps all output unless the run succeeded; gives the directory, and the summary with the files. -/
def keepOutput (s : Setup σ β) (summary : RunSummary) :
    StateM (Run σ β) (Option String × RunSummary) := do
  if summary.verdict = .success then return (none, summary)
  let (dir, suites) ← preserveAll s summary.suites
  return (some dir, { summary with suites })

/-- Sums up a run that began at an instant. -/
def sumUp (s : Setup σ β) (started : Instant) : StateM (Run σ β) RunSummary := do
  let run ← get
  let elapsed := (← onLab (Lab.sys s.host.now)).since started
  let createdAt ← onLab (Lab.sys s.host.timestamp)
  return .make run.machine.phase run.machine.failedFrom run.phases run.results
    (run.devices.map DeviceSummary.ofDevice) elapsed.millis createdAt

/-- Keeps what is to be kept of a run that has been summed up, and cleans up after it. -/
def finish (s : Setup σ β) (summary : RunSummary) : StateM (Run σ β) RunReport := do
  let history := (← get).machine.history
  let (logsDir, summary) ← keepOutput s summary
  releaseAll s
  let path := Path.join s.plan.context.uploadDir RunSummary.fileName
  let summaryPath := match ← onLab (Lab.sys (summary.write s.host path).run) with
    | .ok () => some path
    | .error _ => none
  return { summary, history, summaryPath, logsDir }

end Run

end DeviceLab
