import DeviceLab.Bench.Schedule
import DeviceLab.Host.Basic
import DeviceLab.Tools.Table

/-!
# A bench as a host

`Bench.host` is a host whose files, processes and clock are values: a whole run can be carried out
on it without any device, and what a run leaves behind can be looked at.  Nobody listens on any
port of it.  A bench knows bytes only, so that texts become bytes on the way in.
-/

namespace DeviceLab.Bench

open Text Unix

namespace World

/-- The ending of a process, as its parent sees it. -/
def outcomeOf : Ending → ExitOutcome
  | .code n => .exited n
  | .signal n => .signaled (Signal.name n)

/-- The files, at the time that it is. -/
def filesNow (w : World) : Files := { w.files with now := w.calendarTime }

/-- Works on the files, which keep what was done to them before a failure. -/
def onFiles (operation : ExceptT IoError (StateM Files) α) : Attempt World α := do
  let w ← get
  let (result, files) := operation.run.run w.filesNow
  set { w with files }
  match result with
  | .ok a => return a
  | .error e => throw e

/-- Changes the files, unless that fails. -/
def changeFiles (change : Files → Except IoError Files) : Attempt World Unit :=
  onFiles do
    match change (← get) with
    | .ok files => set files
    | .error e => throw e

/-- Looks at the files. -/
def inFiles (look : Files → Except IoError α) : Attempt World α :=
  onFiles do
    match look (← get) with
    | .ok a => return a
    | .error e => throw e

/-- A name for a file for output; all of them are of the same length. -/
def captureName (n : Nat) : String :=
  let digits := toString n
  "emu-" ++ String.ofList (List.replicate (6 - digits.length) '0') ++ digits ++ ".log"

/-- A new empty file for output. -/
def createCapture (directory : Option String) : Attempt World String := do
  let w ← get
  let home := (directory.map Octets.ofText).getD (Files.pathOf w.temporary)
  let path := Path.join home (captureName w.captures)
  changeFiles fun files => do
    let (_, files) ← files.opened w.directory path 0o600
    return files
  let place ← inFiles fun files => files.locate w.directory path
  modify fun w => { w with captures := w.captures + 1 }
  return Octets.toText (Files.pathOf place)

/-! ### Starting programs -/

/-- Variables with some more, which replace those of the same name. -/
def withVariables (environment more : Environment) : Environment :=
  more.foldl (fun env (name, value) => env.filter (fun entry => entry.1 != name) ++ [(name, value)])
    environment

/-- What a program finds in the place of a variable whose name holds an equals sign: the name ends
at the first one, and the value starts behind it. -/
def seenByChild (given : String × String) : String × String :=
  let name := given.1.toList.takeWhile (· != '=')
  if name.length = given.1.length then given
  else
    let rest := given.1.toList.drop (name.length + 1)
    (String.ofList name, String.ofList rest ++ "=" ++ given.2)

/-- The directory in which a program is started. -/
def startDirectory (w : World) (cwd : Option String) : Except IoError Place :=
  match cwd with
  | none => .ok w.directory
  | some path => do
    let place ← w.files.locate w.directory path
    w.files.enter place "."

/-- The directories in which programs are looked for when nothing else is said. -/
def usualSearchPath : String := "/bin:/usr/bin"

/-- The paths under which a word is looked for: those in the directories of a search path, of which
an empty one is the directory at hand, unless the word is a path itself. -/
def candidates (searchPath word : String) : List String :=
  if word.toList.contains '/' then [word]
  else (searchPath.splitOn ":").map fun home => Path.join home word

/-- The shell that carries out files which are no programs. -/
def shellPath : String := "/bin/sh"

/-- The process that has become the first program among some paths.  Otherwise it is told that one of
them may not be started, or why the last one could not be; one that is no program is handed to a shell
if `lenient`. -/
def firstProgram (w : World) (p : Process) (words : List String) (environment : Environment)
    (lenient : Bool) : IoError → List String → Except IoError Process
  | failure, [] => .error failure
  | failure, path :: rest =>
    match w.becoming p path words environment with
    | .ok p => .ok p
    | .error .notExecutable =>
      if lenient then w.becoming p shellPath (shellPath :: path :: words.drop 1) environment
      else .error .notExecutable
    | .error .permissionDenied =>
      firstProgram w p words environment lenient .permissionDenied rest
    | .error e =>
      if e = .notFound || e = .notADirectory then
        let failure := if failure = .permissionDenied then failure else e
        firstProgram w p words environment lenient failure rest
      else .error e

/-- An open file at a path. -/
def openAt (w : World) (path : String) : World × List Nat :=
  match w.files.locate w.directory path with
  | .error _ => (w, [])
  | .ok place =>
    match w.files.number? place with
    | none => (w, [])
    | some number =>
      let (n, w) := w.enterOpen { target := .file number place }
      (w, [n])

/-- Starts a program with its output going to a file.  It is looked for along the search path that
it is given itself, if it is given one. -/
def launch (spec : LaunchSpec) (capture : String) : Attempt World Nat := do
  let w ← get
  let words := spec.argv.map Octets.ofText
  let cwd := spec.cwd.map Octets.ofText
  let more := spec.env.map fun (name, value) => (Octets.ofText name, Octets.ofText value)
  let texts := words ++ cwd.toList ++ more.flatMap fun (name, value) => [name, value]
  if texts.any fun text => text.toList.contains '\x00' then
    throw (.invalidInput "nul byte found in provided data")
  let directory ← w.startDirectory cwd
  let environment := withVariables w.environment (more.map seenByChild)
  let searchPath := (more.lookup "PATH").or (w.environment.lookup "PATH")
  let word := words.headD ""
  let p : Process :=
    { pid := 0, group := 0, session := ownPid, parent := ownPid, command := "", activity := default
      directory }
  if word.isEmpty then throw .notFound
  if !word.toList.contains '/' && Files.nameLimit < word.length then throw .nameTooLong
  let paths := candidates (searchPath.getD usualSearchPath) word
  let isLenient := (more.lookup "PATH").isSome
  let p ← match w.firstProgram p words environment isLenient .notFound paths with
    | .ok p => pure p
    | .error e => throw e
  let (w, input) := w.openAt "/dev/null"
  let (w, output) := w.openAt (Octets.ofText capture)
  let descriptors := input.map ((0, ·)) ++ output.map ((1, ·)) ++ output.map ((2, ·))
  let (pid, w) := w.spawn startTime fun pid => { p with group := pid, descriptors }
  set w
  return pid

/-- How a child ended, if it has; it leaves the table then. -/
def tryWait (pid : Nat) : Attempt World (Option ExitOutcome) := do
  let w ← get
  match w.reap pid with
  | some (ending, w) =>
    set w
    return some (outcomeOf ending)
  | none =>
    if (w.process? pid).isSome then return none
    throw (.other "No child processes (os error 10)")

/-- Waits until a child ends. -/
def wait (pid : Nat) : Attempt World ExitOutcome := do
  modify (runUntilEnded pid (Decimal.tenTo 8))
  match ← tryWait pid with
  | some outcome => return outcome
  | none => throw (.other "Resource deadlock avoided (os error 35)")

def numberOf : StopSignal → Nat
  | .term => Signal.term
  | .kill => Signal.kill

/-- Carries out what sends a signal, and lets those go on who waited for it. -/
def signaling (send : World → Bool × World) : StateM World Bool :=
  modifyGet fun w =>
    let (found, w) := send w
    (found, w.awaken)

/-- The list of processes: a file in its place, or what the table holds. -/
def listProcesses : Attempt World Bytes := do
  let w ← get
  match w.listing with
  | some place =>
    match w.files.read place with
    | .ok bytes => return bytes
    | .error _ => return []
  | none =>
    return Octets.toBytes (String.join (w.processes.map fun p => s!"{p.pid} {p.command}\n"))

/-- Tries to reach someone; nobody listens. -/
def connect (limit : Duration) : Attempt World Unit :=
  throw (if limit.nanos = 0 then .invalidInput "cannot set a 0 duration timeout"
    else .connectionRefused)

/-- The directory in which programs are kept. -/
def programHome : Place := ["usr", "bin"]

/-- Names of programs that are links to others. -/
def otherNames : List (String × String) :=
  [("sh", "dash"), ("awk", "/etc/alternatives/awk"), ("nawk", "/etc/alternatives/nawk"),
    ("which", "/etc/alternatives/which"), ("python3", "python3.12"),
    ("python", "/usr/bin/python3")]

/-- The directory of links that tell which of several programs is meant. -/
def choiceHome : Place := ["etc", "alternatives"]

/-- The programs that are meant. -/
def choices : List (String × String) :=
  [("awk", "/usr/bin/mawk"), ("nawk", "/usr/bin/mawk"), ("which", "/usr/bin/which.debianutils")]

/-- The bench with all programs in the directory where they are kept. -/
def withPrograms (w : World) : World :=
  let w := [programHome, choiceHome].foldl (fun w home =>
    (onFiles (Files.createDirectories [] (Files.pathOf home)) w).2) w
  let files := Tools.table.foldl (fun files (name, _) =>
    if files.holds (programHome ++ [name]) then files
    else files.put (programHome ++ [name]) (.plain (programContent name)) 0o755) w.files
  let links := (["bin"], "usr/bin") ::
    (otherNames.map fun (name, target) => (programHome ++ [name], target)) ++
    choices.map fun (name, target) => (choiceHome ++ [name], target)
  let files := links.foldl (fun (files : Files) (place, target) =>
    if files.holds place then files else files.put place (.link target) 0o777) files
  { w with files, programs := Tools.table }

end World

/-- The bench as a host. -/
def host : Host World where
  now := return ⟨(← get).clock⟩
  timestamp := do
    let clock := (← get).clock
    return ⟨clock / Decimal.tenTo 9, clock % Decimal.tenTo 9⟩
  pause d groups := modify fun w => w.runUntil groups (w.clock + d.nanos)
  cancelRequested := return (← get).cancelled
  requestCancel := modify fun w => { w with cancelled := true }
  createCapture := World.createCapture
  spawn := World.launch
  tryWait := World.tryWait
  wait := World.wait
  signalGroup pid signal := World.signaling fun w => w.signalGroup none pid (World.numberOf signal)
  signalProcess target signal := World.signaling fun w => w.signal none target (World.numberOf signal)
  ownPid := return World.ownPid
  listProcesses := World.listProcesses
  readFile path := do
    let w ← get
    World.inFiles fun files => files.readPath w.directory (Octets.ofText path)
  fileSize path := do
    let w ← get
    World.inFiles fun files => return (← files.readPath w.directory (Octets.ofText path)).length
  pathExists path := do
    let w ← get
    match w.files.locate w.directory (Octets.ofText path) with
    | .ok place => return w.files.holds place
    | .error _ => return false
  writeFile path bytes := do
    let w ← get
    World.changeFiles fun files => files.write w.directory (Octets.ofText path) bytes
  copyFile source target := do
    let w ← get
    World.changeFiles fun files =>
      files.copy w.directory (Octets.ofText source) (Octets.ofText target)
  removeFile path := do
    let w ← get
    World.changeFiles fun files => files.remove w.directory (Octets.ofText path)
  createDirectories path := do
    let w ← get
    World.onFiles (Files.createDirectories w.directory (Octets.ofText path))
  connect _ _ limit := World.connect limit
  askRedirects _ _ := return .error (.unexpectedReply "OK" "")
  askStatus _ := return .error (.unexpectedReply "OK" "")
  awaitPrompt _ := return some ""

end DeviceLab.Bench
