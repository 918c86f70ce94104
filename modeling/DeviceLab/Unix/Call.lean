import DeviceLab.Host.IoError
import DeviceLab.Text.Utf8

/-!
# Signals and calls of the system

What a process can ask of the system that it runs on, and what signals do to it.  Texts are texts of
bytes.

* `Signal.name`, `Signal.ofName?`: the name of a signal, and the signal of a name.
* `Signal.effect`: what a signal does to a process that has not arranged for it.
* `Signal.notice`: what is said about a process that a signal has ended.
* `Call`: what is asked.
* `Call.Answer`: the type of the answer to each call.
-/

/-! ## Signals by number -/

namespace DeviceLab.Unix

/-- What a signal does to a process that has not arranged for it. -/
inductive SignalEffect where
  | ends
  | stops
  | continues
  | nothing
  deriving DecidableEq, Repr

/-- What a process has arranged for a signal. -/
inductive Disposition where
  /-- The signal does what it does by itself. -/
  | usual
  | ignored
  /-- The process takes notice of the signal and goes on. -/
  | caught
  deriving DecidableEq, Repr, Inhabited

namespace Signal

/-- The names of the signals, from number 1 on. -/
def names : List String :=
  ["HUP", "INT", "QUIT", "ILL", "TRAP", "ABRT", "BUS", "FPE", "KILL", "USR1", "SEGV", "USR2",
    "PIPE", "ALRM", "TERM", "STKFLT", "CHLD", "CONT", "STOP", "TSTP", "TTIN", "TTOU", "URG",
    "XCPU", "XFSZ", "VTALRM", "PROF", "WINCH", "IO", "PWR", "SYS"]

/-- The number of the first signal without a meaning of its own that programs may use. -/
def realTime : Nat := 34

def last : Nat := 64

/-- The full name of a signal, by which the end of a process is told. -/
def name (number : Nat) : String :=
  match number with
  | 0 => "SIG0"
  | n + 1 => "SIG" ++ names.getD n (toString number)

/-- The name of a signal in a shell; those without a meaning are counted from both ends, and a few
have no name. -/
def shortName (number : Nat) : String :=
  let first := realTime
  if number = 0 then "EXIT"
  else if number < 32 && number != 16 then names.getD (number - 1) ""
  else if number < first then s!"{number}"
  else if number = first then "RTMIN"
  else if number = last then "RTMAX"
  else if number < first + 16 then s!"RTMIN+{number - first}"
  else s!"RTMAX-{last - number}"

/-- The number of a signal by its name in a shell, in any case of letters. -/
def ofName? (name : String) : Option Nat :=
  let wanted := String.ofList (name.toList.map Char.toUpper)
  (List.range (last + 1)).find? fun n => shortName n == wanted

def hangUp : Nat := 1

/-- The signal that interrupts a process from the keyboard. -/
def interrupt : Nat := 2

/-- The signal that quits a process from the keyboard. -/
def quit : Nat := 3

/-- The signal that ends a process at once. -/
def kill : Nat := 9

/-- The signal to a process that writes what nobody will read. -/
def pipe : Nat := 13

/-- The signal that asks a process to end. -/
def term : Nat := 15

/-- The signal to the parent of a process that has ended. -/
def child : Nat := 17

/-- The signal that lets a process go on. -/
def continue_ : Nat := 18

/-- The signal that stops a process, whatever it has arranged. -/
def stop : Nat := 19

/-- The signal to a process that makes a file too large. -/
def fileSize : Nat := 25

/-- What a signal does by itself. -/
def effect (number : Nat) : SignalEffect :=
  if number = 0 || number = child || number = 23 || number = 28 then .nothing
  else if number = continue_ then .continues
  else if stop ≤ number && number ≤ 22 then .stops
  else .ends

/-- What is said about a process that a signal has ended. -/
def notice (number : Nat) : String :=
  let notices := ["Hangup", "Interrupt", "Quit", "Illegal instruction", "Trace/breakpoint trap",
    "Aborted", "Bus error", "Floating point exception", "Killed", "User defined signal 1",
    "Segmentation fault", "User defined signal 2", "Broken pipe", "Alarm clock", "Terminated",
    "Stack fault", "Child exited", "Continued", "Stopped (signal)", "Stopped",
    "Stopped (tty input)", "Stopped (tty output)", "Urgent I/O condition",
    "CPU time limit exceeded", "File size limit exceeded", "Virtual timer expired",
    "Profiling timer expired", "Window changed", "I/O possible", "Power failure",
    "Bad system call"]
  if number < realTime then notices.getD (number - 1) s!"Unknown signal {number}"
  else s!"Real-time signal {number - realTime}"

end Signal

end DeviceLab.Unix

/-! ## Calls -/

namespace DeviceLab.Unix

open Text

/-- Variables with their values, as a program is given them. -/
abbrev Environment := List (String × String)

/-- How a process ended. -/
inductive Ending where
  | code (n : Nat)
  | signal (n : Nat)
  deriving DecidableEq, Repr, Inhabited

/-- The ending as the status of a command. -/
def Ending.status : Ending → Nat
  | .code n => n
  | .signal n => 128 + n

/-- What a file is. -/
inductive FileKind where
  | directory
  | plain
  | link
  /-- A device, which keeps nothing. -/
  | device
  | pipe
  deriving DecidableEq, Repr, Inhabited

/-- What is known about a file without reading it. -/
structure FileStatus where
  kind : FileKind
  /-- The rights to read, to write and to carry out, three bits each for the owner, the group and
  all others. -/
  mode : Nat
  size : Nat
  /-- When it was changed for the last time. -/
  modified : Nat
  number : Nat
  /-- The number of its names. -/
  links : Nat
  deriving DecidableEq, Repr, Inhabited

/-- Whether anybody may carry a file out. -/
def FileStatus.isExecutable (s : FileStatus) : Bool :=
  s.kind == .plain && (s.mode % 2 == 1 || s.mode / 8 % 2 == 1 || s.mode / 64 % 2 == 1)

/-- What a file is opened for. -/
inductive OpenMode where
  | reading
  /-- To be written from its start; it is made, or emptied. -/
  | writing
  /-- To be written at its end; it is made if there is none. -/
  | appending
  /-- To be read and written; it is made if there is none. -/
  | both
  /-- To be made; there may be none yet. -/
  | creating
  deriving DecidableEq, Repr

/-- What a process may use only up to a limit. -/
inductive Resource where
  | processorTime
  | fileSize
  | data
  | stack
  | core
  | resident
  | locked
  | processes
  | descriptors
  | memory
  | locks
  | priority
  deriving DecidableEq, Repr

/-- A limit, which a process may change up to a second one; nothing stands for no limit. -/
structure Limit where
  soft : Option Nat
  hard : Option Nat
  deriving DecidableEq, Repr, Inhabited

/-- Whether something stays within a limit. -/
def Limit.admits (limit : Option Nat) (n : Nat) : Bool := limit.all (n ≤ ·)

/-- Whether a limit is no looser than another one. -/
def Limit.isWithin (limit outer : Option Nat) : Bool :=
  match limit, outer with
  | _, none => true
  | none, some _ => false
  | some n, some m => n ≤ m

/-- The limits of a process that has not changed them. -/
def Limit.usual : Resource → Limit
  | .stack => ⟨some (8192 * 1024), none⟩
  | .core => ⟨some 0, none⟩
  | .locked => ⟨some (8192 * 1024), some (8192 * 1024)⟩
  | .descriptors => ⟨some 20000, some 20000⟩
  | .processes => ⟨some 128619, some 128619⟩
  | .priority => ⟨some 0, some 0⟩
  | _ => ⟨none, none⟩

/-- A change to the tree of files. -/
inductive TreeChange where
  | makeDirectory (path : String) (mode : Nat)
  | removeDirectory (path : String)
  | removeFile (path : String)
  | rename (source target : String)
  /-- A link at a path that holds the path of another file. -/
  | linkTo (target path : String)
  /-- One more name for a file. -/
  | nameAlso (source path : String)
  | setMode (path : String) (mode : Nat)
  | setTime (path : String) (time : Nat)
  /-- Cuts a file, or fills it up, to a size. -/
  | resize (path : String) (size : Nat)
  /-- A pipe that has a name. -/
  | makePipe (path : String) (mode : Nat)
  deriving Repr

/-- What comes of waiting for a child. -/
inductive Waited where
  | childless
  /-- No child has ended yet. -/
  | nothing
  /-- A signal came in first. -/
  | interrupted
  | ended (pid : Nat) (ending : Ending)
  deriving DecidableEq, Repr, Inhabited

/-- What a process asks of the system. -/
inductive Call where
  /-- Works for some time. -/
  | pass (nanos : Nat)
  /-- Rests for some time, unless a signal comes in. -/
  | rest (nanos : Nat)
  | time
  /-- The numbers of the process itself and of its parent. -/
  | self
  /-- Makes a child that goes on in the same way; it is told by its answer. -/
  | fork
  /-- Becomes another program.  There is an answer only if that fails. -/
  | become (path : String) (words : List String) (environment : Environment)
  /-- Waits for the end of a child, or looks whether one has ended. -/
  | wait (patient : Bool)
  | signal (target : Int) (number : Nat)
  | arrange (number : Nat) (disposition : Disposition)
  /-- What is arranged for a signal. -/
  | arranged (number : Nat)
  /-- The signals that have been caught since this was asked last. -/
  | caught
  /-- Leaves the group and the session for new ones. -/
  | leaveSession
  | openFile (path : String) (mode : OpenMode)
  | close (descriptor : Nat)
  /-- The descriptor stands for the same under the first free number that is not below another. -/
  | duplicate (descriptor least : Nat)
  /-- The same under a given number. -/
  | replace (descriptor target : Nat)
  /-- A pipe: the descriptor to read from and the one to write to. -/
  | pipe
  /-- Waits for input, and takes up to a number of bytes, or up to the end of a line. -/
  | read (descriptor limit : Nat) (line : Bool)
  | write (descriptor : Nat) (bytes : Bytes)
  | status (path : String) (follow : Bool)
  | statusOf (descriptor : Nat)
  /-- The names in a directory. -/
  | list (path : String)
  | change (change : TreeChange)
  | readLink (path : String)
  | enter (path : String)
  /-- The path of the directory of the process. -/
  | directory
  /-- The rights that new files do not get; sets them if they are given. -/
  | mask (rights : Option Nat)
  /-- The limit of a resource; sets it if it is given. -/
  | limit (resource : Resource) (value : Option Limit)
  /-- The processes: number, parent, group, and the name of the program. -/
  | processes
  deriving Repr

/-- The answer to a call. -/
@[reducible] def Call.Answer : Call → Type
  | .pass _ | .rest _ | .arrange _ _ | .leaveSession => Unit
  | .time => Nat
  | .self => Nat × Nat
  | .fork => Option Nat
  | .become _ _ _ => IoError
  | .wait _ => Waited
  | .signal _ _ => Except IoError Unit
  | .arranged _ => Disposition
  | .caught => List Nat
  | .openFile _ _ | .duplicate _ _ | .replace _ _ => Except IoError Nat
  | .close _ => Except IoError Unit
  | .pipe => Except IoError (Nat × Nat)
  | .read _ _ _ => Except IoError Bytes
  | .write _ _ => Except IoError Unit
  | .status _ _ | .statusOf _ => Except IoError FileStatus
  | .list _ => Except IoError (List String)
  | .change _ => Except IoError Unit
  | .readLink _ => Except IoError String
  | .enter _ => Except IoError Unit
  | .directory => String
  | .mask _ => Nat
  | .limit _ _ => Except IoError Limit
  | .processes => List (Nat × Nat × Nat × String)

end DeviceLab.Unix

/-!
## What a process does

An activity is a tree: an end, or a call of the system with what is done on each answer.  Whoever
answers the calls carries it out, one call at a time, so that several activities can take turns.  A
routine is a part of an activity, given by what it makes of the rest.

* `Routine.ask`: a single call.
* `Routine.leave`: the end of the process.
* `Routine.fork`: a child that does something else.
* `Routine.toActivity`: a routine that is all that is done.
-/

namespace DeviceLab.Unix

/-- What a process does, up to the status that it leaves. -/
inductive Activity : Type where
  | done (status : Nat)
  | call (c : Call) (next : c.Answer → Activity)

instance : Inhabited Activity := ⟨.done 0⟩

/-- A part of what a process does; what it yields is for the rest. -/
def Routine (α : Type) : Type := (α → Activity) → Activity

namespace Routine

/-- One routine after another one, whose result it is given. -/
@[inline] def bind (x : Routine α) (f : α → Routine β) : Routine β := fun rest => x fun a => f a rest

instance : Monad Routine where
  pure a := fun rest => rest a
  bind := bind

instance : LawfulMonad Routine :=
  LawfulMonad.mk' _ (fun _ => rfl) (fun _ _ => rfl) (fun _ _ _ => rfl)

instance [Inhabited α] : Inhabited (Routine α) := ⟨pure default⟩

def ask (c : Call) : Routine c.Answer := fun rest => .call c rest

/-- Ends the process. -/
def leave (status : Nat) : Routine α := fun _ => .done status

/-- A routine that is all that is done; its result is the status. -/
def toActivity (x : Routine Nat) : Activity := x .done

/-- Starts a child that does something else; gives its number. -/
def fork (child : Routine Nat) : Routine Nat := fun rest =>
  .call .fork fun
    | some pid => rest pid
    | none => child.toActivity

end Routine

end DeviceLab.Unix
