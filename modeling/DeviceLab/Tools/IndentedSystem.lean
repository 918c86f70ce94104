import DeviceLab.Tools.IndentedJson
import DeviceLab.Tools.Runs

/-!
# What indented scripts ask of the system

Files, processes, signals and time.

* `Indented.openFile`: a file that is opened.
* `Indented.pause`: a rest, which signals may interrupt.
* `Indented.startProcess`, `Indented.awaitProcess`: programs that are started and waited for.
* `Indented.osFunction`, `Indented.pathFunction`: files, processes and paths.
-/

namespace DeviceLab.Tools.Indented

open Text Unix Tool

/-! ### Signals and time -/

/-- Does what has been arranged for the signals that have come in. -/
def dealWithSignals (call : Caller) : Running Unit := do
  for number in ← ask .caught do
    match (← get).handlers.lookup number with
    | some f => discard (call f [.whole number, .nothing] [])
    | none =>
      if number = Signal.interrupt then failArgs "KeyboardInterrupt" [] []

/-- Rests up to a time; `fuel` bounds the number of signals. -/
def restUntil (call : Caller) (deadline : Nat) : Nat → Running Unit
  | 0 => return
  | fuel + 1 => do
    let now ← ask .time
    unless deadline ≤ now do
      ask (.rest (deadline - now))
      dealWithSignals call
      restUntil call deadline fuel

/-- A number of seconds in billionths. -/
def nanosOf (v : Value) : Running Int := do
  match v.number? with
  | some (.inl n) => return n * Runs.secondNanos
  | some (.inr x) =>
    match wholePart? (x * 1e9) with
    | some n => return n
    | none => fail "OverflowError" "timestamp too large to convert to C PyTime_t"
  | none =>
    failType ("'" ++ (← kindOf v) ++ "' object cannot be interpreted as an integer")

/-- Rests for some seconds. -/
def pause (call : Caller) (v : Value) : Running Unit := do
  let nanos ← nanosOf v
  if nanos < 0 then fail "ValueError" "sleep length must be non-negative"
  let now ← ask .time
  if nanos = 0 then dealWithSignals call
  restUntil call (now + nanos.toNat) 1000000

def secondsOf (nanos : Nat) : Value := .real (realOfInt nanos / 1e9)

def signalNumber (v : Value) : Running Nat := do
  let n ← needWhole v
  if n < 1 || 64 < n then fail "ValueError" "signal number out of range"
  return n.toNat

/-- What is arranged for a signal, as a value. -/
def arrangedFor (number : Nat) : Running Value := do
  match (← get).handlers.lookup number with
  | some f => return f
  | none =>
    match ← ask (.arranged number) with
    | .ignored => return .whole 1
    | .caught => return .native "signal.default_int_handler"
    | .usual => return .whole 0

/-- Arranges for a signal what a value tells. -/
def arrange (v : Value) (f : Value) : Running Value := do
  let number ← signalNumber v
  let before ← arrangedFor number
  if number = Signal.kill || number = Signal.stop then failSystem .invalidArgument []
  modify fun s => { s with handlers := s.handlers.filter fun entry => entry.1 != number }
  match f with
  | .whole 0 => ask (.arrange number .usual)
  | .whole 1 => ask (.arrange number .ignored)
  | .whole _ | .nothing | .text _ =>
    fail "TypeError"
      "signal handler must be signal.SIG_IGN, signal.SIG_DFL, or a callable object"
  | .native "signal.default_int_handler" => ask (.arrange number .caught)
  | f =>
    modify fun s => { s with handlers := (number, f) :: s.handlers }
    ask (.arrange number .caught)
  return before

/-! ### Files -/

/-- A value that stands for an open descriptor. -/
def fileOver (descriptor : Nat) (mode : String) : Running Value :=
  make (.file (toString descriptor) mode (some descriptor) [] [])

/-- Opens a file. -/
def openFile (v : Value) (mode : String) : Running Value := do
  let letters := mode.toList
  let kinds := letters.filter fun c => "rwax".toList.contains c
  if kinds.length != 1 || letters.any fun c => !"rwaxbt+".toList.contains c then
    if letters.all fun c => "rwaxbt+U".toList.contains c then
      fail "ValueError"
        "must have exactly one of create/read/write/append mode"
    else fail "ValueError" ("invalid mode: '" ++ mode ++ "'")
  match v with
  | .whole n => fileOver n.toNat mode
  | v =>
    let path ← needPath v
    let isBoth := letters.contains '+'
    let asked : OpenMode := match kinds with
      | ['r'] => if isBoth then .both else .reading
      | ['w'] => .writing
      | ['a'] => .appending
      | _ => .creating
    let paths := [decoded path]
    if kinds == ['r'] then
      match ← ask (.status path true) with
      | .ok status => if status.kind == .directory then failSystem .isADirectory paths
      | .error e => failSystem e paths
    let descriptor ← orFail paths (← ask (.openFile path asked))
    make (.file (decoded path) mode (some descriptor) [] [])

/-! ### Processes -/

/-- The variables that are given to programs. -/
def environmentOf (call : Caller) (v : Value) : Running Environment := do
  let entries ← entriesOf call v
  entries.mapM fun (key, value) => do return (← needPath key, ← needPath value)

/-- The variables of the script. -/
def currentEnvironment (call : Caller) : Running Environment := do
  environmentOf call (← get).environ

/-- How a process ended, as a number. -/
def codeOf : Ending → Int
  | .code n => n
  | .signal n => -n

/-- What a process ended with, as the system tells it. -/
def statusOf (code : Int) : Int := if code < 0 then -code else code * 256

/-- Waits for the end of a process, up to a time if there is one; `fuel` bounds the number of
tries. -/
def awaitProcess (call : Caller) (pid : Nat) (deadline : Option Nat) : Nat → Running (Option Int)
  | 0 => return none
  | fuel + 1 => do
    match (← get).finished.lookup pid with
    | some code => return some code
    | none =>
      match ← ask (.wait deadline.isNone) with
      | .ended child ending =>
        modify fun s => { s with finished := (child, codeOf ending) :: s.finished }
        awaitProcess call pid deadline fuel
      | .childless => return some 0
      | .interrupted =>
        dealWithSignals call
        awaitProcess call pid deadline fuel
      | .nothing =>
        match deadline with
        | none => awaitProcess call pid deadline fuel
        | some limit =>
          let now ← ask .time
          if limit ≤ now then return none
          ask (.rest (min 1000000 (limit - now)))
          dealWithSignals call
          awaitProcess call pid deadline fuel

/-- The failure to become a program, if it is clear that this is going to fail. -/
def startFailure? (name : String) (environment : Environment) : Running (Option IoError) := do
  let homes := ((environment.lookup "PATH").getD "/bin:/usr/bin").splitOn ":"
  let paths := if name.toList.contains '/' then [name] else homes.map fun home => home ++ "/" ++ name
  let mut found : Option IoError := some .notFound
  for path in paths do
    if found.isSome then
      match ← ask (.status path true) with
      | .ok status =>
        if status.isExecutable then found := none else found := some .permissionDenied
      | .error _ => pure ()
  return found

/-- How one of the three first descriptors of a program is set up. -/
inductive Stream where
  | same
  | pipe
  | nowhere
  | descriptor (n : Nat)
  | likeOutput

/-- The setting up that a value asks for. -/
def streamOf (v : Option Value) : Running Stream := do
  match v with
  | none | some .nothing => return .same
  | some (.whole (-1)) => return .pipe
  | some (.whole (-2)) => return .likeOutput
  | some (.whole (-3)) => return .nowhere
  | some (.whole n) => return .descriptor n.toNat
  | some (.native "sys.stdout") => return .descriptor 1
  | some (.native "sys.stderr") => return .descriptor 2
  | some v =>
    flushFile v
    match ← look v with
    | some (.file _ _ (some n) _ _) => return .descriptor n
    | _ => return .same

/-- How a program is started. -/
structure Plan where
  words : List String
  environment : Environment
  directory : Option String := none
  leavesSession : Bool := false
  input : Stream := .same
  output : Stream := .same
  complaints : Stream := .same

/-- The path of the script about processes. -/
def processPath : String := "/usr/lib/python3.12/subprocess.py"

/-- The functions in which the start of a program fails. -/
def startFrames : List Frame :=
  [frameOf processPath "__init__" 1026
      "self._execute_child(args, executable, preexec_fn, close_fds," 0 0,
    frameOf processPath "_execute_child" 1955
      "raise child_exception_type(errno_num, err_msg, err_filename)" 0 0]

/-- Ends the process at once, whatever is still to be written. -/
def leave (status : Nat) : Running α := do
  lift (modifyThe ToolState fun s => { s with output := [], size := 0 })
  lift (throw status)

/-- Starts a program; gives its number, and the descriptors of the pipes to it and from it. -/
def startProcess (plan : Plan) : Running (Nat × Option Nat × Option Nat × Option Nat) := do
  let name := plan.words.headD ""
  if let some directory := plan.directory then
    match ← ask (.status directory true) with
    | .ok _ => pure ()
    | .error e => throughFrames startFrames (failSystem e [decoded directory])
  if let some e ← startFailure? name plan.environment then
    throughFrames startFrames (failSystem e [decoded name])
  let pipeFor (s : Stream) : Running (Option (Nat × Nat)) := do
    match s with
    | .pipe => return some (← orFail [] (← ask .pipe))
    | _ => return none
  let input ← pipeFor plan.input
  let output ← pipeFor plan.output
  let complaints ← pipeFor plan.complaints
  match ← ask .fork with
  | some pid =>
    if let some (from_, _) := input then discard (ask (.close from_))
    if let some (_, writer) := output then discard (ask (.close writer))
    if let some (_, writer) := complaints then discard (ask (.close writer))
    return (pid, input.map Prod.snd, output.map Prod.fst, complaints.map Prod.fst)
  | none =>
    let setUp (s : Stream) (own : Option Nat) (target : Nat) : Running Unit := do
      match s, own with
      | _, some n => discard (ask (.replace n target))
      | .descriptor n, _ => unless n = target do discard (ask (.replace n target))
      | .nowhere, _ =>
        let mode := if target = 0 then OpenMode.reading else .writing
        match ← ask (.openFile "/dev/null" mode) with
        | .ok n => discard (ask (.replace n target))
        | .error _ => pure ()
      | .likeOutput, _ => discard (ask (.replace 1 target))
      | _, _ => pure ()
    setUp plan.input (input.map Prod.fst) 0
    setUp plan.output (output.map Prod.snd) 1
    setUp plan.complaints (complaints.map Prod.snd) 2
    for n in (List.range 20).drop 3 do discard (ask (.close n))
    if plan.leavesSession then ask .leaveSession
    if let some directory := plan.directory then discard (ask (.enter directory))
    ask (.arrange Signal.pipe .usual)
    discard (lift (become plan.words plan.environment))
    leave 255

/-- The plan that the values of a start ask for. -/
def planOf (call : Caller) (arguments : List Value) (named : List (String × Value)) :
    Running Plan := do
  let h := (← get).heap
  let isShell := (named.lookup "shell").any (isTrue h)
  let words ← match argument arguments named 0 "args" with
    | some (.text s) =>
      pure (if isShell then ["/bin/sh", "-c", encoded s] else [encoded s])
    | some v => do
      let words ← (← itemsOf call v).mapM needPath
      pure (if isShell then "/bin/sh" :: "-c" :: words else words)
    | none => failType "Popen.__init__() missing 1 required positional argument: 'args'"
  let environment ← match named.lookup "env" with
    | none | some .nothing => currentEnvironment call
    | some v => environmentOf call v
  let directory ← match named.lookup "cwd" with
    | none | some .nothing => pure none
    | some v => do pure (some (← needPath v))
  return {
    words, environment, directory
    leavesSession := (named.lookup "start_new_session").any (isTrue h)
    input := ← streamOf (named.lookup "stdin")
    output := ← streamOf (named.lookup "stdout")
    complaints := ← streamOf (named.lookup "stderr") }

/-- Whether the streams of a program hold texts, and no bytes. -/
def holdsTexts (h : Heap) (named : List (String × Value)) : Bool :=
  ["text", "universal_newlines", "encoding"].any fun name => (named.lookup name).any (isTrue h)

/-- Starts a program as an object. -/
def startObject (call : Caller) (arguments : List Value) (named : List (String × Value)) :
    Running Value := do
  let plan ← planOf call arguments named
  let (pid, input, output, complaints) ← startProcess plan
  let isText := holdsTexts (← get).heap named
  let stream (descriptor : Option Nat) (mode : String) : Running Value := do
    match descriptor with
    | some n => fileOver n (if isText then mode else mode ++ "b")
    | none => return .nothing
  let stdin ← stream input "w"
  let stdout ← stream output "r"
  let stderr ← stream complaints "r"
  make (.instance_ (.native "subprocess.Popen")
    [("args", (argument arguments named 0 "args").getD .nothing), ("pid", .whole pid),
      ("returncode", .nothing), ("stdin", stdin), ("stdout", stdout), ("stderr", stderr)])

/-- An attribute of an object. -/
def attributeOf (v : Value) (name : String) : Running Value := do
  match ← look v with
  | some (.instance_ _ attributes) | some (.error _ _ attributes ..) =>
    return (attributes.lookup name).getD .nothing
  | _ => return .nothing

/-- Sets an attribute of an object. -/
def setAttribute (v : Value) (name : String) (value : Value) : Running Unit := do
  let with_ (attributes : List (String × Value)) : List (String × Value) :=
    if attributes.any fun entry => entry.1 == name then
      attributes.map fun entry => if entry.1 == name then (name, value) else entry
    else attributes ++ [(name, value)]
  match ← look v with
  | some (.instance_ kind attributes) => put v (.instance_ kind (with_ attributes))
  | some (.kind kind bases attributes) => put v (.kind kind bases (with_ attributes))
  | some (.error kind arguments attributes frames cause context) =>
    put v (.error kind arguments (with_ attributes) frames cause context)
  | _ =>
    failType ("'" ++ (← kindOf v) ++ "' object has no attribute '" ++ name ++ "'")

/-- The deadline of a limit of seconds. -/
def deadlineOf (limit : Option Value) : Running (Option Nat) := do
  match limit with
  | none | some .nothing => return none
  | some v =>
    let nanos ← nanosOf v
    return some ((← ask .time) + nanos.toNat)

/-- Complains that the time of a program is up. -/
def failTime (v limit : Value) : Running α := do
  let words ← attributeOf v "args"
  failArgs "subprocess.TimeoutExpired" [words, limit]
    [("cmd", words), ("timeout", limit), ("output", .nothing), ("stdout", .nothing),
      ("stderr", .nothing)]

/-- Waits for the end of a program that is an object. -/
def awaitObject (call : Caller) (v : Value) (limit : Option Value) : Running Value := do
  match ← attributeOf v "returncode", ← attributeOf v "pid" with
  | .nothing, .whole pid =>
    match ← awaitProcess call pid.toNat (← deadlineOf limit) Tool.partLimit with
    | some code =>
      setAttribute v "returncode" (.whole code)
      return .whole code
    | none => failTime v (limit.getD .nothing)
  | code, _ => return code

/-- Gives a program its input, and takes all its output. -/
def communicate (call : Caller) (v input : Value) (limit : Option Value) :
    Running (Value × Value) := do
  match ← attributeOf v "stdin" with
  | .nothing => pure ()
  | file =>
    match input with
    | .nothing => pure ()
    | text =>
      try discard (callMethod call file "write" [text] [])
      catch raised => match ← kindOf raised.value with
        | "BrokenPipeError" => pure ()
        | _ => throw raised
    try closeFile file
    catch raised => match ← kindOf raised.value with
      | "BrokenPipeError" => pure ()
      | _ => throw raised
  match limit with
  | none | some .nothing => pure ()
  | some _ => discard (awaitObject call v limit)
  let rest (name : String) : Running Value := do
    match ← attributeOf v name with
    | .nothing => return .nothing
    | file =>
      let text ← callMethod call file "read" [] []
      closeFile file
      return text
  let output ← rest "stdout"
  let complaints ← rest "stderr"
  discard (awaitObject call v limit)
  return (output, complaints)

/-- Sends a signal to a program that is an object, unless it has ended. -/
def signalObject (v : Value) (number : Nat) : Running Unit := do
  match ← attributeOf v "returncode", ← attributeOf v "pid" with
  | .nothing, .whole pid =>
    if ((← get).finished.lookup pid.toNat).isNone then discard (ask (.signal pid number))
  | _, _ => return

/-- Looks whether a program that is an object has ended. -/
def pollObject (call : Caller) (v : Value) : Running Value := do
  match ← attributeOf v "returncode", ← attributeOf v "pid" with
  | .nothing, .whole pid =>
    match ← awaitProcess call pid.toNat (some 0) Tool.partLimit with
    | some code =>
      setAttribute v "returncode" (.whole code)
      return .whole code
    | none => return .nothing
  | code, _ => return code

/-- A method of a program that is an object. -/
def processMethod (call : Caller) (v : Value) (name : String) (arguments : List Value)
    (named : List (String × Value)) : Running Value := do
  match name with
  | "wait" => awaitObject call v (argument arguments named 0 "timeout")
  | "poll" => pollObject call v
  | "communicate" =>
    let (output, complaints) ← communicate call v
      ((argument arguments named 0 "input").getD .nothing) (argument arguments named 1 "timeout")
    return .tuple [output, complaints]
  | "kill" =>
    signalObject v Signal.kill
    return .nothing
  | "terminate" =>
    signalObject v Signal.term
    return .nothing
  | "send_signal" =>
    signalObject v (← signalNumber (arguments.headD .nothing))
    return .nothing
  | "__enter__" => return v
  | _ =>
    for stream in ["stdin", "stdout", "stderr"] do closeFile (← attributeOf v stream)
    discard (awaitObject call v none)
    return .nothing

/-- Complains about the status of a program. -/
def failStatus (words code output complaints : Value) : Running α :=
  throughFrames [frameOf processPath "run" 571 "raise CalledProcessError(retcode, process.args," 0 0] <|
  failArgs "subprocess.CalledProcessError" [code, words]
    [("returncode", code), ("cmd", words), ("output", output), ("stdout", output),
      ("stderr", complaints)]

/-- Runs a program up to its end. -/
def runProcess (call : Caller) (arguments : List Value) (named : List (String × Value)) :
    Running Value := do
  let h := (← get).heap
  let isCaptured := (named.lookup "capture_output").any (isTrue h)
  let streams : List (String × Value) :=
    (if isCaptured then [("stdout", .whole (-1)), ("stderr", .whole (-1))] else [])
      ++ if ((named.lookup "input").getD .nothing) matches .nothing then []
        else [("stdin", .whole (-1))]
  let v ← throughFrames
    [frameOf processPath "run" 548 "with Popen(*popenargs, **kwargs) as process:" 5 27]
    (startObject call arguments (streams ++ named))
  let (output, complaints) ← try
      communicate call v ((named.lookup "input").getD .nothing) (named.lookup "timeout")
    catch raised =>
      signalObject v Signal.kill
      discard (awaitObject call v none)
      throw raised
  let code ← attributeOf v "returncode"
  let words ← attributeOf v "args"
  if (named.lookup "check").any (isTrue h) then
    match code with
    | .whole 0 => pure ()
    | _ => failStatus words code output complaints
  make (.instance_ (.native "subprocess.CompletedProcess")
    [("args", words), ("returncode", code), ("stdout", output), ("stderr", complaints)])

/-- A function about programs. -/
def processFunction (call : Caller) (name : String) (arguments : List Value)
    (named : List (String × Value)) : Running Value := do
  let code (v : Value) : Running Value := attributeOf v "returncode"
  match name with
  | "run" => runProcess call arguments named
  | "Popen" => startObject call arguments named
  | "call" | "check_call" =>
    let frame := frameOf processPath "call" 389 "with Popen(*popenargs, **kwargs) as p:" 5 27
    let outer := frameOf processPath "check_call" 408 "retcode = call(*popenargs, **kwargs)" 10 26
    let frames := if name = "call" then [frame] else [outer, frame]
    let v ← throughFrames frames (startObject call arguments named)
    let status ← awaitObject call v (named.lookup "timeout")
    match name, status with
    | "call", _ | _, .whole 0 => return status
    | _, _ =>
      throughFrames
        [frameOf processPath "check_call" 413 "raise CalledProcessError(retcode, cmd)" 0 0] <|
      failArgs "subprocess.CalledProcessError" [status, ← attributeOf v "args"]
        [("returncode", status), ("cmd", ← attributeOf v "args"), ("output", .nothing),
          ("stdout", .nothing), ("stderr", .nothing)]
  | "check_output" =>
    let v ← throughFrames
      [frameOf processPath "check_output" 466
        "return run(*popenargs, stdout=PIPE, timeout=timeout, check=True," 7 57]
      (runProcess call arguments (("check", .truth true) :: ("stdout", .whole (-1)) :: named))
    attributeOf v "stdout"
  | _ =>
    let v ← runProcess call arguments
      [("shell", .truth true), ("stdout", .whole (-1)), ("stderr", .whole (-2)),
        ("text", .truth true)]
    let text ← match ← attributeOf v "stdout" with
      | .text s => pure (if s.endsWith "\n" then String.ofList s.toList.dropLast else s)
      | _ => pure ""
    if name = "getoutput" then return .text text
    return .tuple [← code v, .text text]

/-! ### Paths -/

/-- A path without double slashes and without dots, as far as that does not need the tree. -/
def normalPath (path : String) : String :=
  let isRooted := path.startsWith "/"
  let kept := (path.splitOn "/").foldl (fun kept part =>
    if part = "" || part = "." then kept
    else if part = ".." then
      match kept with
      | [] => if isRooted then [] else [".."]
      | ".." :: _ => ".." :: kept
      | _ :: rest => rest
    else part :: kept) []
  let joined := "/".intercalate kept.reverse
  if isRooted then "/" ++ joined else if joined.isEmpty then "." else joined

/-- A path behind another one. -/
def joinedPath (a b : String) : String :=
  if b.startsWith "/" then b
  else if a.isEmpty || a.endsWith "/" then a ++ b else a ++ "/" ++ b

/-- What is behind the last slash of a path, and what is in front of it. -/
def splitPath (path : String) : String × String :=
  let chars := path.toList
  let name := (chars.reverse.takeWhile (· != '/')).reverse
  let front := chars.take (chars.length - name.length)
  let cut := (front.reverse.dropWhile (· = '/')).reverse
  (String.ofList (if cut.isEmpty then front else cut), String.ofList name)

/-- A path in two parts, the second one from its last dot on. -/
def splitEnding (path : String) : String × String :=
  let (_, name) := splitPath path
  let chars := name.toList
  let ending := (chars.reverse.takeWhile (· != '.')).reverse
  let isNone := ending.length = chars.length ||
    (chars.take (chars.length - ending.length)).all (· = '.')
  if isNone then (path, "")
  else
    let size := path.length - ending.length - 1
    (String.ofList (path.toList.take size), String.ofList (path.toList.drop size))

def absolutePath (path : String) : Running String := do
  if path.startsWith "/" then return normalPath path
  return normalPath (joinedPath (← ask .directory) path)

/-- A function about paths. -/
def pathFunction (name : String) (arguments : List Value) : Running Value := do
  let path ← needPath (arguments.headD .nothing)
  let text (s : String) : Running Value := return .text (decoded s)
  let status (follow : Bool) : Running (Option FileStatus) := do
    return (← ask (.status path follow)).toOption
  match name with
  | "join" =>
    let more ← (arguments.drop 1).mapM needPath
    text (more.foldl joinedPath path)
  | "basename" => text (splitPath path).2
  | "dirname" => text (splitPath path).1
  | "split" =>
    let (front, last) := splitPath path
    return .tuple [.text (decoded front), .text (decoded last)]
  | "splitext" =>
    let (front, last) := splitEnding path
    return .tuple [.text (decoded front), .text (decoded last)]
  | "normpath" => text (normalPath path)
  | "abspath" | "realpath" => text (← absolutePath path)
  | "isabs" => return .truth (path.startsWith "/")
  | "expanduser" | "expandvars" => text path
  | "exists" => return .truth (← status true).isSome
  | "lexists" => return .truth (← status false).isSome
  | "isfile" => return .truth ((← status true).any fun s => s.kind == .plain)
  | "isdir" => return .truth ((← status true).any fun s => s.kind == .directory)
  | "islink" => return .truth ((← status false).any fun s => s.kind == .link)
  | "getsize" =>
    let s ← orFail [decoded path] (← ask (.status path true))
    return .whole s.size
  | "getmtime" =>
    let s ← orFail [decoded path] (← ask (.status path true))
    return secondsOf s.modified
  | _ => text path

/-! ### Other calls -/

/-- Makes a directory and those that it is in. -/
def makeDirectories (path : String) (isLenient : Bool) : Running Unit := do
  let parts := path.splitOn "/"
  for n in (List.range parts.length).drop 1 do
    let front := "/".intercalate (parts.take n)
    unless front.isEmpty do
      match ← ask (.status front true) with
      | .ok _ => pure ()
      | .error _ =>
        orFail [decoded front] (← ask (.change (.makeDirectory front 0o777)))
  match ← ask (.change (.makeDirectory path 0o777)) with
  | .ok () => return
  | .error e =>
    let isThere ← match ← ask (.status path true) with
      | .ok status => pure (status.kind == .directory)
      | .error _ => pure false
    unless isLenient && isThere do failSystem e [decoded path]

/-- What is known about a file, as an object. -/
def statusObject (s : FileStatus) : Running Value := do
  let kind := match s.kind with
    | .directory => 0o040000
    | .plain => 0o100000
    | .link => 0o120000
    | .device => 0o020000
    | .pipe => 0o010000
  make (.instance_ (.native "os.stat_result")
    [("st_mode", .whole (kind + s.mode)), ("st_ino", .whole s.number), ("st_nlink", .whole s.links),
      ("st_uid", .whole 0), ("st_gid", .whole 0), ("st_size", .whole s.size),
      ("st_mtime", secondsOf s.modified)])

/-- Becomes another program. -/
def becomeOther (call : Caller) (searches : Bool) (path : String) (words : List String) :
    Running Value := do
  let environment ← currentEnvironment call
  lift flush
  ask (.arrange Signal.pipe .ignored)
  let e ← if searches then lift (become (path :: words.drop 1) environment)
    else ask (.become path words environment)
  failSystem e []

/-- Waits for any child. -/
def awaitAny (call : Caller) : Nat → Running (Nat × Int)
  | 0 => failSystem (.notFound) []
  | fuel + 1 => do
    match (← get).finished.getLast? with
    | some (pid, code) =>
      modify fun s => { s with finished := s.finished.dropLast }
      return (pid, code)
    | none =>
      match ← ask (.wait true) with
      | .ended pid ending => return (pid, codeOf ending)
      | .childless =>
        failArgs "ChildProcessError" [.whole 10, .text "No child processes"] [("errno", .whole 10)]
      | _ =>
        dealWithSignals call
        awaitAny call fuel

/-- A function about files and processes. -/
def osFunction (call : Caller) (name : String) (arguments : List Value)
    (named : List (String × Value)) : Running Value := do
  let path (n : Nat) : Running String := do needPath (arguments[n]?.getD .nothing)
  let whole (n : Nat) : Running Int := do needWhole (arguments[n]?.getD .nothing)
  let change (c : TreeChange) (paths : List String) : Running Value := do
    orFail (paths.map decoded) (← ask (.change c))
    return .nothing
  match name with
  | "getpid" => return .whole (← ask .self).1
  | "getppid" => return .whole (← ask .self).2
  | "getpgrp" | "getpgid" | "getsid" =>
    let (own, _) ← ask .self
    let wanted ← if arguments.isEmpty then pure (0 : Int) else whole 0
    let wanted := if wanted = 0 then own else wanted.toNat
    match (← ask .processes).find? fun entry => entry.1 == wanted with
    | some (_, _, group, _) => return .whole group
    | none => failSystem .noSuchProcess []
  | "getuid" | "geteuid" | "getgid" | "getegid" => return .whole 0
  | "getcwd" => return .text (decoded (← ask .directory))
  | "cpu_count" => return .whole 1
  | "getenv" =>
    callMethod call (← get).environ "get" arguments []
  | "putenv" => return .nothing
  | "chdir" =>
    let p ← path 0
    orFail [decoded p] (← ask (.enter p))
    return .nothing
  | "listdir" =>
    let p ← if arguments.isEmpty then pure "." else path 0
    let names ← orFail [decoded p] (← ask (.list p))
    makeList (names.map fun name => .text (decoded name))
  | "mkdir" =>
    let p ← path 0
    let mode ← match argument arguments named 1 "mode" with
      | some v => needWhole v
      | none => pure 0o777
    change (.makeDirectory p mode.toNat) [p]
  | "makedirs" =>
    let h := (← get).heap
    makeDirectories (← path 0) ((argument arguments named 2 "exist_ok").any (isTrue h))
    return .nothing
  | "rmdir" =>
    let p ← path 0
    change (.removeDirectory p) [p]
  | "remove" | "unlink" =>
    let p ← path 0
    change (.removeFile p) [p]
  | "rename" | "replace" =>
    let a ← path 0
    let b ← path 1
    change (.rename a b) [a, b]
  | "symlink" =>
    let a ← path 0
    let b ← path 1
    change (.linkTo a b) [a, b]
  | "link" =>
    let a ← path 0
    let b ← path 1
    change (.nameAlso a b) [a, b]
  | "mkfifo" =>
    let p ← path 0
    change (.makePipe p 0o666) [p]
  | "chmod" =>
    let p ← path 0
    change (.setMode p (← whole 1).toNat) [p]
  | "truncate" =>
    let p ← path 0
    change (.resize p (← whole 1).toNat) [p]
  | "readlink" =>
    let p ← path 0
    return .text (decoded (← orFail [decoded p] (← ask (.readLink p))))
  | "stat" | "lstat" =>
    let p ← path 0
    statusObject (← orFail [decoded p] (← ask (.status p (name == "stat"))))
  | "access" =>
    return .truth (← ask (.status (← path 0) true)).toOption.isSome
  | "umask" => return .whole (← ask (.mask (some (← whole 0).toNat)))
  | "kill" =>
    orFail [] (← ask (.signal (← whole 0) (← whole 1).toNat))
    dealWithSignals call
    return .nothing
  | "killpg" =>
    orFail [] (← ask (.signal (-(← whole 0)) (← whole 1).toNat))
    dealWithSignals call
    return .nothing
  | "setsid" =>
    ask .leaveSession
    return .nothing
  | "system" =>
    match ← ask .fork with
    | some pid =>
      let code ← awaitProcess call pid none Tool.partLimit
      return .whole (statusOf (code.getD 0))
    | none =>
      ask (.arrange Signal.pipe .usual)
      discard (ask (.become "/bin/sh" ["sh", "-c", ← path 0] (← currentEnvironment call)))
      leave 127
  | "popen" =>
    let v ← startObject call [.text (decoded (← path 0))]
      [("shell", .truth true), ("stdout", .whole (-1)), ("text", .truth true)]
    attributeOf v "stdout"
  | "fork" =>
    match ← ask .fork with
    | some pid => return .whole pid
    | none => return .whole 0
  | "wait" =>
    let (pid, code) ← awaitAny call Tool.partLimit
    return .tuple [.whole pid, .whole (statusOf code)]
  | "waitpid" =>
    let pid ← whole 0
    let options ← whole 1
    if pid < 0 then
      let (pid, code) ← awaitAny call Tool.partLimit
      return .tuple [.whole pid, .whole (statusOf code)]
    match ← awaitProcess call pid.toNat (if options = 0 then none else some 0) Tool.partLimit with
    | some code => return .tuple [.whole pid, .whole (statusOf code)]
    | none => return .tuple [.whole 0, .whole 0]
  | "waitstatus_to_exitcode" =>
    let n ← whole 0
    return .whole (if n % 256 = 0 then n / 256 else -(n % 128))
  | "WIFEXITED" => return .truth ((← whole 0) % 128 = 0)
  | "WEXITSTATUS" => return .whole ((← whole 0) / 256)
  | "WIFSIGNALED" => return .truth ((← whole 0) % 128 != 0)
  | "WTERMSIG" => return .whole ((← whole 0) % 128)
  | "_exit" => leave ((← whole 0) % 256).toNat
  | "abort" =>
    let (pid, _) ← ask .self
    discard (ask (.signal pid 6))
    return .nothing
  | "pipe" =>
    let (a, b) ← orFail [] (← ask .pipe)
    return .tuple [.whole a, .whole b]
  | "close" =>
    orFail [] (← ask (.close (← whole 0).toNat))
    return .nothing
  | "dup" => return .whole (← orFail [] (← ask (.duplicate (← whole 0).toNat 0)))
  | "dup2" => return .whole (← orFail [] (← ask (.replace (← whole 0).toNat (← whole 1).toNat)))
  | "read" =>
    let text ← orFail [] (← lift (Tool.readSome (← whole 0).toNat (← whole 1).toNat))
    return .bytes (String.ofList text)
  | "write" =>
    match (arguments[1]? : Option Value) with
    | some (Value.bytes s) =>
      orFail [] (← lift (Tool.write (← whole 0).toNat s))
      return .whole s.length
    | v =>
      failType ("a bytes-like object is required, not '" ++ (← kindOf (v.getD .nothing)) ++ "'")
  | "isatty" => return .truth false
  | "execv" | "execvp" =>
    let words ← (← itemsOf call (arguments[1]?.getD .nothing)).mapM needPath
    becomeOther call (name == "execvp") (← path 0) words
  | "execl" | "execlp" =>
    becomeOther call (name == "execlp") (← path 0) (← (arguments.drop 1).mapM needPath)
  | _ => return .nothing

end DeviceLab.Tools.Indented
