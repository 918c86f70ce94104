import DeviceLab.Bench.Proc
import DeviceLab.Text.Utf8

/-!
# Answering calls

How a bench answers the calls of its processes.

* `World.perform`: the answer to a call, unless the process has to wait for it.
* `World.isReady`: whether a process that waits can go on.
* `World.stepProcess`: one step of a process: one call.
-/

namespace DeviceLab.Bench

open Text Unix

/-- What comes of a call. -/
inductive Reply (α : Type) where
  | now (a : α)
  /-- The process has to wait. -/
  | later

/-- The answering of a call. -/
abbrev Answering := StateM World

namespace World

/-- The number of bytes that a pipe has room for. -/
def pipeRoom : Nat := 65536

/-- The first of the descriptors that are closed when a process becomes another program. -/
def innerDescriptor : Nat := 10

/-! ### Descriptors -/

/-- The first descriptor that is free and not below another one. -/
def freeDescriptor (p : Process) (least : Nat) : Nat :=
  (((List.range (p.descriptors.length + 1)).map (· + least)).find? fun n =>
    !p.descriptors.any fun entry => entry.1 == n).getD least

/-- Closes a descriptor. -/
def closed (p : Process) (descriptor : Nat) : Process :=
  { p with descriptors := p.descriptors.filter fun entry => entry.1 != descriptor }

/-- Lets a descriptor stand for an open file. -/
def pointed (p : Process) (descriptor number : Nat) : Process :=
  { closed p descriptor with
    descriptors := (descriptor, number) :: (closed p descriptor).descriptors }

/-- The descriptor that a path in the directory of open descriptors names, and its process. -/
def descriptorPath? (w : World) (p : Process) (path : String) : Option (Process × Nat) :=
  match Path.parts path with
  | ["dev", "stdin"] => some (p, 0)
  | ["dev", "stdout"] => some (p, 1)
  | ["dev", "stderr"] => some (p, 2)
  | ["dev", "fd", n] => n.toNat?.map fun n => (p, n)
  | ["proc", owner, "fd", n] => do
    let n ← n.toNat?
    if owner = "self" then return (p, n)
    return (← w.process? (← owner.toNat?), n)
  | _ => none

/-- The way in which a file is opened. -/
def openAs (target : OpenTarget) (mode : OpenMode) : OpenFile :=
  match mode with
  | .reading => { target, writable := false }
  | .writing | .creating => { target, readable := false }
  | .appending => { target, readable := false, appends := true }
  | .both => { target }

/-- Opens what a descriptor stands for once more. -/
def reopen (file : OpenFile) (mode : OpenMode) : Answering (Except IoError OpenFile) := do
  match file.target with
  | .pipe number _ => return .ok (openAs (.pipe number (mode != .reading)) mode)
  | .file number place =>
    let w ← get
    if mode = .creating then return .error .alreadyExists
    if mode = .writing then
      match w.files.entry? number with
      | some { node := .plain _, .. } =>
        set { w with files := w.files.setContent number .empty }
      | _ => pure ()
    return .ok (openAs (.file number place) mode)

/-- The pipe behind the entry of a name, which is made when it is opened first. -/
def pipeOf (entry : Nat) : Answering Nat := do
  let w ← get
  match w.namedPipes.lookup entry with
  | some pipe => return pipe
  | none =>
    set { w with
      pipes := (w.handles, []) :: w.pipes
      namedPipes := (entry, w.handles) :: w.namedPipes
      handles := w.handles + 1 }
    return w.handles

/-- Opens what is shown about processes. -/
def openShown (file : ShownFile) (mode : OpenMode) : Answering (Except IoError OpenFile) := do
  let w ← get
  let node : Node := match file with
    | .text _ content => .plain ⟨(Octets.toBytes content).toArray⟩
    | .lastPid => .device .lastPid
    | _ => .directory
  let isDirectory := node matches .directory
  if isDirectory && mode != .reading then return .error .isADirectory
  let (number, files) := w.files.nameless node 0o444
  set { w with files }
  return .ok (openAs (.file number ["proc"]) mode)

/-- Opens the file that a path leads to. -/
def openPath (p : Process) (path : String) (mode : OpenMode) :
    Answering (Except IoError OpenFile) := do
  let w ← get
  if let some file := w.shown? p path then
    if !(file matches .link _) then return ← openShown file mode
  if !path.startsWith "/" || (w.descriptorPath? p path).isNone then
    let found : Except IoError (Nat × Place × Files) := do
      match mode with
      | .reading =>
        let place ← w.files.locate p.directory path
        match w.files.number? place with
        | some number => return (number, place, w.files)
        | none => throw .notFound
      | _ =>
        if mode = .creating then
          if w.files.holds (← w.files.locateLink p.directory path) then throw .alreadyExists
        let (number, files) ← w.files.opened p.directory path (0o666 &&& (0o777 ^^^ p.mask))
        let place ← files.locate p.directory path
        return (number, place, files)
    match found with
    | .error e => return .error e
    | .ok (number, place, files) =>
      set { w with files }
      match files.node? place with
      | some (.device .terminal) => return .error .noDevice
      | some .namedPipe => return .ok (openAs (.pipe (← pipeOf number) (mode != .reading)) mode)
      | _ =>
        if mode = .creating then return .ok (openAs (.file number place) mode)
        reopen { target := .file number place } mode
  else
    match w.descriptorPath? p path with
    | some (owner, n) =>
      match w.descriptor? owner n with
      | some (_, file) => reopen file mode
      | none => return .error .notFound
    | none => return .error .notFound

/-- The path of what a descriptor stands for. -/
def pathOfOpen (w : World) (file : OpenFile) : String :=
  match file.target with
  | .pipe number _ => s!"pipe:[{number}]"
  | .file number place =>
    let path := Files.pathOf place
    if w.files.number? place == some number then path else path ++ " (deleted)"

def mayHave (p : Process) (descriptor : Nat) : Bool :=
  Limit.admits (limitOf p .descriptors).soft (descriptor + 1)

/-- Enters an open file under the first free descriptor of a process. -/
def install (pid : Nat) (file : OpenFile) : Answering (Except IoError Nat) := do
  let w ← get
  match w.process? pid with
  | none => return .error .badDescriptor
  | some p =>
    let descriptor := freeDescriptor p 0
    if !mayHave p descriptor then return .error .tooManyOpenFiles
    let (number, w) := w.enterOpen file
    set (w.update pid fun p => pointed p descriptor number)
    return .ok descriptor

/-! ### Pipes with names -/

/-- The pipe behind a name and the end of it that an open file stands for, if it stands for one end
only. -/
def namedEnd? (w : World) (file : OpenFile) : Option (Nat × Bool) :=
  match file.target with
  | .pipe pipe _ =>
    if file.readable != file.writable && w.namedPipes.any (fun entry => entry.2 == pipe) then
      some (pipe, file.writable)
    else none
  | .file _ _ => none

/-- Tells those who wait for one end of a pipe that it has been opened. -/
def meet (w : World) (pipe : Nat) (writes : Bool) : World :=
  let waits (p : Process) : Bool :=
    match p.meeting.bind fun meeting => w.descriptor? p meeting.1 with
    | some (_, file) => (w.namedEnd? file) == some (pipe, !writes)
    | none => false
  { w with processes := w.processes.map fun p =>
      if waits p then { p with meeting := p.meeting.map fun meeting => (meeting.1, true) } else p }

/-- Installs an open file; one end of a pipe with a name waits for the other one. -/
def installed (pid : Nat) (file : OpenFile) : Answering (Reply (Except IoError Nat)) := do
  match ← install pid file with
  | .error e => return .now (.error e)
  | .ok descriptor =>
    let w ← get
    match w.namedEnd? file with
    | none => return .now (.ok descriptor)
    | some (pipe, writes) =>
      let isMet := w.hasEnd pipe (!writes)
      let w := w.meet pipe writes
      set <| if isMet then w else w.update pid fun p => { p with meeting := some (descriptor, false) }
      return if isMet then .now (.ok descriptor) else .later

/-- Goes on with waiting for the other end of a pipe. -/
def awaitMeeting (p : Process) (descriptor : Nat) (isMet : Bool) :
    Answering (Reply (Except IoError Nat)) := do
  if isMet then
    modify fun w => w.update p.pid fun p => { p with meeting := none }
    return .now (.ok descriptor)
  if p.caught.isEmpty then return .later
  modify fun w => (w.update p.pid fun p => { closed p descriptor with meeting := none }).sweep
  return .now (.error .interrupted)

/-! ### Reading and writing -/

/-- The bytes at the start of some bytes that are read at once. -/
def taken (bytes : Bytes) (limit : Nat) (line : Bool) : Bytes :=
  let bytes := bytes.take limit
  if line then
    let before := bytes.takeWhile (· != 10)
    bytes.take (before.length + 1)
  else bytes

/-- Bytes that follow no rule one would see. -/
def noise (seed : Nat) : Nat → Bytes
  | 0 => []
  | n + 1 =>
    let next := (seed * 6364136223846793005 + 1442695040888963407) % 18446744073709551616
    (next / 4294967296).toUInt8 :: noise next n

/-- Reads from an open file. -/
def readOpen (number : Nat) (file : OpenFile) (limit : Nat) (line : Bool) :
    Answering (Reply (Except IoError Bytes)) := do
  let w ← get
  match file.target with
  | .pipe pipe _ =>
    let waiting := w.inPipe pipe
    if waiting.isEmpty then
      if w.hasEnd pipe true then return .later else return .now (.ok [])
    let bytes := taken waiting limit line
    set (w.setPipe pipe (waiting.drop bytes.length))
    return .now (.ok bytes)
  | .file entry _ =>
    match w.files.entry? entry with
    | some { node := .plain content, .. } =>
      let size := if line then content.size else file.position + limit
      let bytes := taken (content.extract file.position size).toList limit line
      set (w.updateOpen number fun file => { file with position := file.position + bytes.length })
      return .now (.ok bytes)
    | some { node := .directory, .. } => return .now (.error .isADirectory)
    | some { node := .device .zeros, .. } | some { node := .device .full, .. } =>
      return .now (.ok (List.replicate (min limit 4096) 0))
    | some { node := .device .lastPid, .. } =>
      let content := (Octets.toBytes s!"{w.nextPid - 1}\n").drop file.position
      let bytes := taken content limit line
      set (w.updateOpen number fun file => { file with position := file.position + bytes.length })
      return .now (.ok bytes)
    | some { node := .device .noise, .. } =>
      let count := min limit 4096
      set (w.updateOpen number fun file => { file with position := file.position + count })
      return .now (.ok (noise (w.clock + file.position) count))
    | _ => return .now (.ok [])

/-- Writes to an open file. -/
def writeOpen (p : Process) (number : Nat) (file : OpenFile) (bytes : Bytes) :
    Answering (Reply (Except IoError Unit)) := do
  let w ← get
  match file.target with
  | .pipe pipe _ =>
    if !w.hasEnd pipe false then
      set (w.deliver none Signal.pipe p.pid)
      return .now (.error .brokenPipe)
    let waiting := w.inPipe pipe
    if pipeRoom ≤ waiting.length then return .later
    set (w.setPipe pipe (waiting ++ bytes))
    return .now (.ok ())
  | .file entry _ =>
    match w.files.entry? entry with
    | some { node := .plain content, .. } =>
      let position := if file.appends then content.size else file.position
      let room := (limitOf p .fileSize).soft.map (· - position)
      if room.any (· < bytes.length) then
        let part := bytes.take (room.getD 0)
        let w := { w with files := w.files.writeAt entry position part }
        let w := w.updateOpen number fun file =>
          { file with position := position + part.length }
        set (w.deliver none Signal.fileSize p.pid)
        return .now (.error .fileTooLarge)
      let w := { w with files := w.files.writeAt entry position bytes }
      set (w.updateOpen number fun file => { file with position := position + bytes.length })
      return .now (.ok ())
    | some { node := .device .full, .. } => return .now (.error .noSpace)
    | some { node := .device .lastPid, .. } => return .now (.error .notPermitted)
    | _ => return .now (.ok ())

/-! ### What is known about files -/

/-- What is known about what is kept under a number. -/
def statusOfEntry (w : World) (number : Nat) : Except IoError FileStatus :=
  (w.files.status? number).elim (.error .notFound) .ok

/-- What is known about what a descriptor stands for. -/
def statusOfOpen (w : World) (file : OpenFile) : Except IoError FileStatus :=
  match file.target with
  | .file number _ => w.statusOfEntry number
  | .pipe number _ => .ok
      { kind := .pipe, mode := 0o600, size := 0, modified := w.calendarTime, number, links := 1 }

/-- What is known about the file that a path leads to. -/
def statusOfPath (w : World) (p : Process) (path : String) (follow : Bool) :
    Except IoError FileStatus := do
  if path.startsWith "/" then
    match w.descriptorPath? p path with
    | some (owner, n) =>
      match w.descriptor? owner n with
      | some (_, file) =>
        if follow then return ← w.statusOfOpen file
        let mode := (if file.readable then 0o500 else 0) ||| (if file.writable then 0o300 else 0)
        return { kind := .link, mode, size := 64, modified := w.calendarTime, number := 0, links := 1 }
      | none => throw .notFound
    | none =>
      match w.shown? p path with
      | some (.link target) =>
        if follow then
          let place ← w.files.locate [] target
          return ← (w.files.number? place).elim (.error .notFound) w.statusOfEntry
        else return w.statusOfShown (.link target)
      | some file => return w.statusOfShown file
      | none => pure ()
  let place ← if follow then w.files.locate p.directory path
    else w.files.locateLink p.directory path
  match w.files.number? place with
  | some number => w.statusOfEntry number
  | none => throw .notFound

/-! ### Becoming another program -/

/-- The bytes at the start of every program that is no script. -/
def programMark : String := "\x7fELF"

def programContent (name : String) : ByteArray := (programMark ++ name).toUTF8

/-- The line that names the program for a script, without its mark: the program, and one word for
it. -/
def interpreter? (content : Bytes) : Option (String × Option String) :=
  match Octets.ofBytes (content.take 255) |>.toList with
  | '#' :: '!' :: rest =>
    let isBlank (c : Char) : Bool := c == ' ' || c == '\t'
    let line := (rest.takeWhile (· != '\n')).dropWhile isBlank
    let line := (line.reverse.dropWhile isBlank).reverse
    let path := line.takeWhile fun c => !isBlank c
    let word := (line.drop path.length).dropWhile isBlank
    if path.isEmpty then none
    else some (String.ofList path, if word.isEmpty then none else some (String.ofList word))
  | _ => none

/-- What the program in a file does with some words.  A script is handed to the program that it
names; `fuel` bounds the number of scripts on the way. -/
def programAt (w : World) (p : Process) : Nat → String → List String →
    Except IoError ((List String → Environment → Activity) × List String × Place)
  | 0, _, _ => .error .tooManyLinks
  | fuel + 1, path, words => do
    let place ← w.files.locate p.directory path
    let number ← match w.files.number? place with
      | some number => pure number
      | none => throw .notFound
    let status ← w.statusOfEntry number
    if !status.isExecutable then throw .permissionDenied
    let content := (w.files.content number).toList
    match interpreter? content with
    | some (program, word) =>
      w.programAt p fuel program (program :: (word.toList ++ path :: words.drop 1))
    | none =>
      let text := Octets.ofBytes (content.take 64)
      if text.startsWith programMark then
        match w.programs.lookup (String.ofList (text.toList.drop programMark.length)) with
        | some program => return (program, words, place)
        | none => throw .notExecutable
      else throw .notExecutable

/-- How much of the name of a program a process keeps. -/
def nameRoom : Nat := 15

/-- How long a word of a program, or a variable with its value, may not be. -/
def wordLimit : Nat := 131072

/-- The process that has become the program in a file. -/
def becoming (w : World) (p : Process) (path : String) (words : List String)
    (environment : Environment) : Except IoError Process := do
  let (run, words', program) ← w.programAt p 5 path words
  let texts := words ++ environment.map fun (name, value) => s!"{name}={value}"
  if texts.any fun text => wordLimit ≤ text.length then throw .argumentTooLong
  return { p with
    command := String.ofList (((Path.names path).getLastD "").toList.take nameRoom)
    program
    words := words'
    environment
    activity := run words' environment
    arranged := p.arranged.filter fun entry => entry.2 == .ignored
    caught := []
    descriptors := p.descriptors.filter fun entry => entry.1 < innerDescriptor }

/-! ### Calls -/

/-- A change to the tree of files, with the rights that new directories do not get. -/
def changeTree (p : Process) (change : TreeChange) : Answering (Except IoError Unit) := do
  let w ← get
  let change := match change with
    | .makeDirectory path mode => .makeDirectory path (mode &&& (0o777 ^^^ p.mask))
    | .makePipe path mode => .makePipe path (mode &&& (0o777 ^^^ p.mask))
    | change => change
  match w.files.apply p.directory change with
  | .ok files =>
    set { w with files }
    return .ok ()
  | .error e => return .error e

def childrenOf (w : World) (pid : Nat) : List Process :=
  w.processes.filter fun p => p.parent == pid

/-- Looks for a child that has ended. -/
def waitFor (p : Process) (patient : Bool) : Answering (Reply Waited) := do
  let w ← get
  let children := w.childrenOf p.pid
  match children.find? fun child => child.ending.isSome with
  | some child =>
    match w.reap child.pid with
    | some (ending, w) =>
      set w
      return .now (.ended child.pid ending)
    | none => return .now .nothing
  | none =>
    if children.isEmpty then return .now .childless
    if !patient then return .now .nothing
    if p.caught.isEmpty then return .later else return .now .interrupted

/-- Changes the process that makes a call. -/
def updateSelf (pid : Nat) (change : Process → Process) : Answering Unit :=
  modify fun w => w.update pid change

/-- The open file of a descriptor that may be used in some way. -/
def usable (w : World) (p : Process) (descriptor : Nat) (use : OpenFile → Bool) :
    Except IoError (Nat × OpenFile) :=
  match w.descriptor? p descriptor with
  | some found => if use found.2 then .ok found else .error .badDescriptor
  | none => .error .badDescriptor

/-- The answer to a call, unless the process has to wait for it. -/
def perform (p : Process) : (c : Call) → Answering (Reply c.Answer)
  | .pass _ => do return .now ()
  | .rest nanos => do
    let w ← get
    match p.restsUntil with
    | none =>
      updateSelf p.pid fun p => { p with restsUntil := some (w.clock + nanos) }
      return .later
    | some limit =>
      if limit ≤ w.clock || !p.caught.isEmpty then
        updateSelf p.pid fun p => { p with restsUntil := none }
        return .now ()
      else return .later
  | .time => do
    let w ← get
    return .now w.calendarTime
  | .self => do return .now (p.pid, p.parent)
  | .fork => do return .now none
  | .become path words environment => do
    let w ← get
    match w.becoming p path words environment with
    | .ok q =>
      set ((w.update p.pid fun _ => q).sweep)
      return .later
    | .error e => return .now e
  | .wait patient => waitFor p patient
  | .signal target number => do
    let w ← get
    if Signal.last < number then return .now (.error .invalidArgument)
    let target : Int := if target = 0 then -(p.group : Int) else target
    let (found, w) := w.signal (some p.pid) target number
    set w
    return .now (if found then .ok () else .error .noSuchProcess)
  | .arrange number disposition => do
    updateSelf p.pid fun p =>
      { p with arranged := (p.arranged.filter fun entry => entry.1 != number) ++
          if disposition = .usual then [] else [(number, disposition)] }
    return .now ()
  | .arranged number => do return .now (arrangedFor p number)
  | .caught => do
    unless p.caught.isEmpty do updateSelf p.pid fun p => { p with caught := [] }
    return .now p.caught
  | .leaveSession => do
    updateSelf p.pid fun p => { p with group := p.pid, session := p.pid }
    return .now ()
  | .openFile path mode => do
    match p.meeting with
    | some (descriptor, isMet) => awaitMeeting p descriptor isMet
    | none =>
      match ← openPath p path mode with
      | .ok file => installed p.pid file
      | .error e => return .now (.error e)
  | .close descriptor => do
    if (p.descriptors.lookup descriptor).isNone then return .now (.error .badDescriptor)
    modify fun w => (w.update p.pid fun p => closed p descriptor).sweep
    return .now (.ok ())
  | .duplicate descriptor least => do
    match p.descriptors.lookup descriptor with
    | none => return .now (.error .badDescriptor)
    | some number =>
      let free := freeDescriptor p least
      if !mayHave p least then return .now (.error .invalidArgument)
      if !mayHave p free then return .now (.error .tooManyOpenFiles)
      updateSelf p.pid fun p => pointed p free number
      return .now (.ok free)
  | .replace descriptor target => do
    match p.descriptors.lookup descriptor with
    | none => return .now (.error .badDescriptor)
    | some number =>
      if !mayHave p target then return .now (.error .badDescriptor)
      if descriptor != target then
        modify fun w => (w.update p.pid fun p => pointed p target number).sweep
      return .now (.ok target)
  | .pipe => do
    let w ← get
    set { w with pipes := (w.handles, []) :: w.pipes, handles := w.handles + 1 }
    match ← install p.pid (openAs (.pipe w.handles false) .reading) with
    | .error e => return .now (.error e)
    | .ok out =>
      match ← install p.pid (openAs (.pipe w.handles true) .writing) with
      | .ok in_ => return .now (.ok (out, in_))
      | .error e =>
        modify fun w => (w.update p.pid fun p => closed p out).sweep
        return .now (.error e)
  | .read descriptor limit line => do
    let w ← get
    match w.usable p descriptor (·.readable) with
    | .error e => return .now (.error e)
    | .ok (number, file) =>
      match ← readOpen number file limit line with
      | .later => return if p.caught.isEmpty then .later else .now (.error .interrupted)
      | answer => return answer
  | .write descriptor bytes => do
    let w ← get
    match w.usable p descriptor (·.writable) with
    | .error e => return .now (.error e)
    | .ok (number, file) => writeOpen p number file bytes
  | .status path follow => do
    let w ← get
    return .now (w.statusOfPath p path follow)
  | .statusOf descriptor => do
    let w ← get
    return .now <| match w.descriptor? p descriptor with
      | some (_, file) => w.statusOfOpen file
      | none => .error .badDescriptor
  | .list path => do
    let w ← get
    return .now do
      match w.shown? p path with
      | some (.directory names) => return names
      | some (.descriptors owner) =>
        let numbers := owner.descriptors.map (·.1)
        let numbers := if owner.pid = p.pid then freeDescriptor p 0 :: numbers else numbers
        return (numbers.mergeSort (· ≤ ·)).map toString
      | _ => pure ()
      let place ← w.files.locate p.directory path
      match w.files.node? place with
      | some .directory => return w.files.childNames place
      | some _ => throw .notADirectory
      | none => throw .notFound
  | .change change => do return .now (← changeTree p change)
  | .readLink path => do
    let w ← get
    return .now do
      match if path.startsWith "/" then w.descriptorPath? p path else none with
      | some (owner, n) =>
        match w.descriptor? owner n with
        | some (_, file) => return w.pathOfOpen file
        | none => throw .notFound
      | none =>
        if let some (.link target) := w.shown? p path then return target
        match w.files.node? (← w.files.locateLink p.directory path) with
        | some (.link target) => return target
        | some _ => throw .invalidArgument
        | none => throw .notFound
  | .enter path => do
    let w ← get
    let found : Except IoError Place := do
      let place ← w.files.locate p.directory path
      w.files.enter place "."
    match found with
    | .ok place =>
      updateSelf p.pid fun p => { p with directory := place }
      return .now (.ok ())
    | .error e => return .now (.error e)
  | .directory => do return .now (Files.pathOf p.directory)
  | .mask rights => do
    rights.forM fun rights => updateSelf p.pid fun p => { p with mask := rights % 0o1000 }
    return .now p.mask
  | .limit resource value => do
    let former := limitOf p resource
    match value with
    | none => return .now (.ok former)
    | some limit =>
      if !Limit.isWithin limit.hard former.hard then return .now (.error .notPermitted)
      if !Limit.isWithin limit.soft limit.hard then return .now (.error .invalidArgument)
      updateSelf p.pid fun p =>
        { p with limits := (resource, limit) :: p.limits.filter fun entry => entry.1 != resource }
      return .now (.ok limit)
  | .processes => do
    let w ← get
    return .now (w.processes.map fun p => (p.pid, p.parent, p.group, p.command))

/-- The time that a call takes. -/
def costOf : Call → Nat
  | .pass nanos => nanos
  | .become _ _ _ => startTime
  | .fork => 20000
  | .write _ bytes => 2000 + bytes.length
  | .read _ _ _ => 2000
  | _ => 500

/-- Whether a process that waits for the answer to a call can go on. -/
def isReady (w : World) (p : Process) : Bool :=
  match p.activity with
  | .call (.openFile _ _) _ => !p.caught.isEmpty || p.meeting.all (·.2)
  | .call (.read descriptor _ _) _ =>
    !p.caught.isEmpty || match w.descriptor? p descriptor with
      | some (_, { target := .pipe pipe _, .. }) =>
        !(w.inPipe pipe).isEmpty || !w.hasEnd pipe true
      | _ => true
  | .call (.write descriptor _) _ =>
    match w.descriptor? p descriptor with
    | some (_, { target := .pipe pipe _, .. }) =>
      (w.inPipe pipe).length < pipeRoom || !w.hasEnd pipe false
    | _ => true
  | .call (.wait _) _ =>
    let children := w.childrenOf p.pid
    !p.caught.isEmpty || children.isEmpty || children.any fun child => child.ending.isSome
  | .call (.rest _) _ => !p.caught.isEmpty
  | _ => true

/-- Lets the processes go on that need not wait any longer. -/
def awaken (w : World) : World :=
  let next := w.clock + wakeTime
  { w with processes := w.processes.map fun p =>
      if p.ending.isNone && p.due.all (next < ·) && (p.due.isNone || p.restsUntil.isSome)
          && w.isReady p then
        { p with due := some next }
      else p }

/-- Goes on with an activity after some time, unless the process has ended. -/
def resume (w : World) (pid : Nat) (activity : Activity) (delay : Nat) : World :=
  w.update pid fun p =>
    if p.ending.isSome then p else { p with activity, due := some (w.clock + delay) }

/-- One step of a process: one call. -/
def stepProcess (w : World) (p : Process) : World :=
  match p.dying, p.activity with
  | some number, _ => w.finish p.pid (.signal number)
  | none, .done status => w.finish p.pid (.code (status % 256))
  | none, .call .fork next =>
    let (child, w) := w.spawn forkTime fun pid =>
      { p with pid, parent := p.pid, activity := next none, caught := [], restsUntil := none }
    w.resume p.pid (next (some child)) (costOf .fork)
  | none, .call c next =>
    let w := { w with files := { w.files with now := w.calendarTime } }
    let (reply, w) := (perform p c).run w
    match reply with
    | .now answer => w.resume p.pid (next answer) (costOf c)
    | .later => w.update p.pid fun p =>
        if p.ending.isSome then p
        else match c with
          | .become _ _ _ => { p with due := some (w.clock + startTime) }
          | _ => { p with due := p.restsUntil }

end World

end DeviceLab.Bench
