import DeviceLab.Bench.Files
import DeviceLab.Unix.Call

/-!
# The state of a bench

A clock, files, open files, pipes, and a table of processes.  A process that has ended stays in the
table until its parent has taken notice; one whose parent is gone leaves it at once.

* `OpenFile`: what a descriptor stands for.
* `Process`: an activity with its number, its group, its directory and its descriptors.
* `World.spawn`, `World.finish`, `World.reap`: the life of a process.
* `World.deliver`, `World.signal`, `World.signalGroup`: signals.
-/

namespace DeviceLab.Bench

open Text Unix

/-- What a file was opened as. -/
inductive OpenTarget where
  /-- What is kept under a number, and the place where it was found. -/
  | file (number : Nat) (place : Place)
  /-- One end of a pipe. -/
  | pipe (number : Nat) (writes : Bool)
  deriving DecidableEq, Repr, Inhabited

/-- An open file.  All descriptors that stand for it share its position. -/
structure OpenFile where
  target : OpenTarget
  position : Nat := 0
  readable : Bool := true
  writable : Bool := true
  /-- Whether everything is written at the end. -/
  appends : Bool := false
  deriving Repr, Inhabited

/-- A process. -/
structure Process where
  pid : Nat
  group : Nat
  session : Nat
  parent : Nat
  /-- The name of the program. -/
  command : String
  activity : Activity
  directory : Place := []
  /-- The descriptors, each with the number of the open file that it stands for. -/
  descriptors : List (Nat × Nat) := []
  /-- What is arranged for signals that do not do what they do by themselves. -/
  arranged : List (Nat × Disposition) := []
  /-- The signals that have been caught and not been asked for. -/
  caught : List Nat := []
  /-- The rights that new files do not get. -/
  mask : Nat := 0o022
  /-- The limits that are not the usual ones. -/
  limits : List (Resource × Limit) := []
  /-- The place of the program, and the words and the variables that it was given. -/
  program : Place := []
  words : List String := []
  environment : Environment := []
  /-- The descriptor of a pipe with a name whose other end is waited for, and whether somebody has
  opened that. -/
  meeting : Option (Nat × Bool) := none
  stopped : Bool := false
  /-- The signals that came in while it was stopped. -/
  pending : List Nat := []
  /-- The signal that ends it at its next step. -/
  dying : Option Nat := none
  /-- When its rest ends, if it rests. -/
  restsUntil : Option Nat := none
  /-- When it takes its next step, unless it waits for something. -/
  due : Option Nat := none
  /-- How it ended, if it has. -/
  ending : Option Ending := none
  deriving Inhabited

/-- A signal to the program itself, sent a short time after a file has come into being. -/
structure Interrupt where
  file : Place
  /-- When it is sent, once the file is there. -/
  due : Option Nat := none
  deriving Repr, Inhabited

/-- The state of a bench. -/
structure World where
  /-- The time in nanoseconds. -/
  clock : Nat := 0
  files : Files := {}
  opens : List (Nat × OpenFile) := []
  /-- The bytes that are in each pipe. -/
  pipes : List (Nat × Bytes) := []
  /-- The pipes behind names that are open: the number of the name's entry, and that of the pipe. -/
  namedPipes : List (Nat × Nat) := []
  /-- The number of open files and pipes that there have been. -/
  handles : Nat := 0
  processes : List Process := []
  nextPid : Nat := 1000
  /-- The directory of the program itself. -/
  directory : Place := []
  /-- The directory for temporary files. -/
  temporary : Place := ["tmp"]
  captures : Nat := 0
  /-- The variables that every program gets to see. -/
  environment : Environment := []
  /-- What each program does with its words and its variables. -/
  programs : List (String × (List String → Environment → Activity)) := []
  /-- The file that is shown as the list of processes, in place of the table. -/
  listing : Option Place := none
  interrupts : List Interrupt := []
  /-- The number of signals that the program itself has received. -/
  received : Nat := 0
  cancelled : Bool := false
  /-- The number of groups that were killed when the program was interrupted for good. -/
  forced : Option Nat := none
  deriving Inhabited

namespace World

/-- The number of the program's own process, and of its session. -/
def ownPid : Nat := 999

/-- The number of the process that takes children in whose parents are gone. -/
def firstPid : Nat := 1

/-- The number that process numbers stay below, and where they begin anew. -/
def pidLimit : Nat := 32768

/-- The least number of a process that is not a part of the system. -/
def leastPid : Nat := 300

/-- The time that a program takes to start. -/
def startTime : Nat := 1000000

/-- The time that a new child takes to begin. -/
def forkTime : Nat := 300000

/-- The time that a process takes to go on after it has waited. -/
def wakeTime : Nat := 20000

/-- The time on the calendar when the clock starts: a day in the year 2025. -/
def firstTime : Nat := 1750000000 * 1000000000

/-- The time on the calendar. -/
def calendarTime (w : World) : Nat := firstTime + w.clock

/-- The time that a process takes to end once another one has sent it a signal. -/
def endTime : Nat := 150000

def limitOf (p : Process) (resource : Resource) : Limit :=
  (p.limits.lookup resource).getD (.usual resource)

def process? (w : World) (pid : Nat) : Option Process :=
  w.processes.find? fun p => p.pid == pid

def update (w : World) (pid : Nat) (change : Process → Process) : World :=
  { w with processes := w.processes.map fun p => if p.pid = pid then change p else p }

/-- Whether a number stands for a process, a group or a session. -/
def isTaken (w : World) (pid : Nat) : Bool :=
  pid == ownPid || w.processes.any fun p => p.pid == pid || p.group == pid || p.session == pid

/-- The first number from one on, in a circle, that stands for nothing; `tries` bounds how many are
looked at. -/
def freePid (w : World) : Nat → Nat → Nat
  | 0, pid => pid
  | tries + 1, pid =>
    let pid := if pidLimit ≤ pid then leastPid else pid
    if w.isTaken pid then w.freePid tries (pid + 1) else pid

/-- Enters a new process, which starts some time later; gives its number. -/
def spawn (w : World) (delay : Nat) (make : Nat → Process) : Nat × World :=
  let pid := w.freePid (3 * w.processes.length + 2) w.nextPid
  let p := { make pid with pid, due := some (w.clock + delay) }
  (pid, { w with processes := w.processes ++ [p], nextPid := pid + 1 })

/-- Takes a process out of the table. -/
def forget (w : World) (pid : Nat) : World :=
  { w with processes := w.processes.filter fun p => p.pid != pid }

/-! ### Open files -/

def open? (w : World) (number : Nat) : Option OpenFile :=
  (w.opens.find? fun found => found.1 == number).map (·.2)

/-- What a descriptor of a process stands for. -/
def descriptor? (w : World) (p : Process) (descriptor : Nat) : Option (Nat × OpenFile) := do
  let number ← p.descriptors.lookup descriptor
  return (number, ← w.open? number)

/-- Enters an open file; gives its number. -/
def enterOpen (w : World) (file : OpenFile) : Nat × World :=
  (w.handles, { w with opens := (w.handles, file) :: w.opens, handles := w.handles + 1 })

def updateOpen (w : World) (number : Nat) (change : OpenFile → OpenFile) : World :=
  { w with opens := w.opens.map fun (n, file) => if n = number then (n, change file) else (n, file) }

/-- Whether a descriptor of any process stands for an end of a pipe. -/
def hasEnd (w : World) (pipe : Nat) (writes : Bool) : Bool :=
  let isEnd (file : OpenFile) : Bool := match file.target with
    | .pipe number _ => number == pipe && (if writes then file.writable else file.readable)
    | .file _ _ => false
  let ends := (w.opens.filter fun found => isEnd found.2).map (·.1)
  !ends.isEmpty && w.processes.any fun p =>
    p.ending.isNone && p.descriptors.any fun entry => ends.contains entry.2

def inPipe (w : World) (pipe : Nat) : Bytes := (w.pipes.lookup pipe).getD []

def setPipe (w : World) (pipe : Nat) (bytes : Bytes) : World :=
  { w with pipes := w.pipes.map fun (n, old) => if n = pipe then (n, bytes) else (n, old) }

/-- Drops the open files that no descriptor stands for any more. -/
def sweep (w : World) : World :=
  let used (number : Nat) : Bool :=
    w.processes.any fun p => p.ending.isNone && p.descriptors.any fun entry => entry.2 == number
  let opens := w.opens.filter fun found => used found.1
  let pipes := w.pipes.filter fun found => opens.any fun entry => match entry.2.target with
    | .pipe number _ => number == found.1
    | .file _ _ => false
  let namedPipes := w.namedPipes.filter fun found => pipes.any fun entry => entry.1 == found.2
  { w with opens, pipes, namedPipes }

/-! ### The life of a process -/

/-- Whether someone will take notice of the end of a process. -/
def isAttended (w : World) (p : Process) : Bool :=
  p.parent == ownPid || ((w.process? p.parent).any fun parent => parent.ending.isNone)

def arrangedFor (p : Process) (number : Nat) : Disposition :=
  (p.arranged.lookup number).getD .usual

/-- Ends a process.  Its parent takes notice of it, and nobody of its own children. -/
def finish (w : World) (pid : Nat) (ending : Ending) : World :=
  match w.process? pid with
  | none => w
  | some p =>
    if p.ending.isSome then w
    else
      let w := w.update pid fun p =>
        { p with ending := some ending, due := none, stopped := false }
      let left := w.processes.filter fun child => !(child.parent == pid && child.ending.isSome)
      let processes := left.map fun child =>
        if child.parent = pid then { child with parent := firstPid }
        else if child.pid = p.parent && arrangedFor child Signal.child == .caught
            && !child.caught.contains Signal.child then
          { child with caught := child.caught ++ [Signal.child] }
        else child
      let w := { w with processes }
      (if w.isAttended p then w else w.forget pid).sweep

/-- Takes notice of the end of a process, if it has ended. -/
def reap (w : World) (pid : Nat) : Option (Ending × World) := do
  let p ← w.process? pid
  let ending ← p.ending
  return (ending, w.forget pid)

/-! ### Signals -/

/-- Whether nobody outside of a group could let its processes go on: none of them has its parent in
another group of its session. -/
def isOrphaned (w : World) (group : Nat) : Bool :=
  (w.processes.filter fun p => p.group == group).all fun p =>
    if p.parent = ownPid then p.session != ownPid
    else (w.process? p.parent).all fun parent =>
      parent.group == group || parent.session != p.session

/-- Ends a process by a signal: at once if it comes from outside or from the process itself, and
otherwise a short time later. -/
def kill (w : World) (sender : Option Nat) (number pid : Nat) : World :=
  if sender.all (· == pid) then w.finish pid (.signal number)
  else w.update pid fun p =>
    { p with dying := some number, due := some (w.clock + endTime), restsUntil := none
             stopped := false }

/-- Delivers a signal to a process that is not stopped. -/
def strike (w : World) (sender : Option Nat) (number : Nat) (p : Process) : World :=
  match arrangedFor p number with
  | .ignored => w
  | .caught =>
    w.update p.pid fun p =>
      { p with caught := if p.caught.contains number then p.caught else p.caught ++ [number] }
  | .usual =>
    match Signal.effect number with
    | .ends => w.kill sender number p.pid
    | .stops =>
      if number != Signal.stop && w.isOrphaned p.group then w
      else w.update p.pid fun p => { p with stopped := true }
    | .continues | .nothing => w

def isAlive (p : Process) : Bool := p.ending.isNone && p.dying.isNone

/-- Delivers a signal to a process.  A stopped process takes notice of it when it goes on. -/
def deliver (w : World) (sender : Option Nat) (number : Nat) (pid : Nat) : World :=
  match w.process? pid with
  | none => w
  | some p =>
    if !isAlive p || number = 0 then w
    else if number = Signal.kill then w.kill sender number pid
    else if number = Signal.stop then w.update pid fun p => { p with stopped := true }
    else if number = Signal.continue_ then
      let pending := p.pending
      let w := w.update pid fun p => { p with stopped := false, pending := [] }
      (number :: pending).foldl (fun w n =>
        match w.process? pid with
        | some p => if isAlive p then w.strike sender n p else w
        | none => w) w
    else if p.stopped then w.update pid fun p => { p with pending := p.pending ++ [number] }
    else w.strike sender number p

/-- Signals every process in a group; tells whether there was one. -/
def signalGroup (w : World) (sender : Option Nat) (group number : Nat) : Bool × World :=
  let members := w.processes.filter fun p => p.group == group
  (!members.isEmpty, members.foldl (fun w p => w.deliver sender number p.pid) w)

/-- Signals what a number addresses: one process, a group, or all of them. -/
def signal (w : World) (sender : Option Nat) (target : Int) (number : Nat) : Bool × World :=
  if 0 < target then
    match w.process? target.toNat with
    | some p => (true, w.deliver sender number p.pid)
    | none => (target.toNat == ownPid, w)
  else if target = -1 then
    (!w.processes.isEmpty, w.processes.foldl (fun w p => w.deliver sender number p.pid) w)
  else w.signalGroup sender target.natAbs number

end World

end DeviceLab.Bench
