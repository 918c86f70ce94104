import DeviceLab.Bench.World

/-!
# Processes as files

Below the directory of processes every process has a directory, under its number; one that looks
finds itself under a name as well.  What stands there is made up when it is looked at.

* `World.shown?`: what stands at a path below the directory of processes.
* `ShownFile.status`: what is known about it without reading it.
-/

namespace DeviceLab.Bench

open Text Unix

/-- What is shown about processes at a path. -/
inductive ShownFile where
  | directory (names : List String)
  /-- The descriptors of a process. -/
  | descriptors (owner : Process)
  | link (target : String)
  | text (mode : Nat) (content : String)
  /-- The number of the last process. -/
  | lastPid

namespace World

/-- The names in the directory of a process. -/
def shownNames : List String :=
  ["cmdline", "comm", "cwd", "environ", "exe", "fd", "root", "stat", "status"]

/-- A number in sixteen hexadecimal digits with a bit for every signal. -/
def signalBits (signals : List Nat) : String :=
  let bits := signals.foldl (fun bits n => bits ||| 1 <<< (n - 1)) 0
  let digits := Nat.toDigits 16 bits
  String.ofList (List.replicate (16 - digits.length) '0' ++ digits)

/-- What a process is doing, seen by another one. -/
def stateOf (viewer p : Process) : String :=
  if p.ending.isSome then "Z (zombie)"
  else if p.stopped then "T (stopped)"
  else if p.pid = viewer.pid then "R (running)"
  else "S (sleeping)"

/-- The state of a process in lines. -/
def statusText (viewer p : Process) : String :=
  let signals (disposition : Disposition) : String :=
    signalBits ((p.arranged.filter fun entry => entry.2 == disposition).map (·.1))
  let octal (n : Nat) : String :=
    let digits := Nat.toDigits 8 n
    String.ofList (List.replicate (4 - digits.length) '0' ++ digits)
  let lines : List (String × String) :=
    [("Name", p.command), ("Umask", octal p.mask), ("State", stateOf viewer p),
      ("Tgid", toString p.pid), ("Ngid", "0"), ("Pid", toString p.pid),
      ("PPid", toString p.parent), ("TracerPid", "0"), ("Uid", "0\t0\t0\t0"),
      ("Gid", "0\t0\t0\t0"), ("FDSize", "256"), ("Groups", "0 "), ("NStgid", toString p.pid),
      ("NSpid", toString p.pid), ("NSpgid", toString p.group), ("NSsid", toString p.session),
      ("Threads", "1"), ("SigPnd", signalBits []), ("ShdPnd", signalBits p.pending),
      ("SigBlk", signalBits []), ("SigIgn", signals .ignored), ("SigCgt", signals .caught),
      ("NoNewPrivs", "0"), ("Seccomp", "0")]
  String.join (lines.map fun (name, value) => name ++ ":\t" ++ value ++ "\n")

/-- The state of a process in one line. -/
def statText (viewer p : Process) : String :=
  let state := String.ofList ((stateOf viewer p).toList.take 1)
  let numbers := [p.parent, p.group, p.session, 0]
  s!"{p.pid} ({p.command}) {state} " ++ " ".intercalate (numbers.map toString) ++ " -1 4194304" ++
    String.join (List.replicate 43 " 0") ++ "\n"

/-- Texts, each with a zero character behind it. -/
def ended (texts : List String) : String := String.join (texts.map (· ++ "\x00"))

/-- What stands under a name in the directory of a process. -/
def shownOf? (viewer p : Process) : List String → Option ShownFile
  | [] => some (.directory shownNames)
  | ["fd"] => some (.descriptors p)
  | ["comm"] => some (.text 0o644 (p.command ++ "\n"))
  | ["cmdline"] => some (.text 0o444 (ended p.words))
  | ["environ"] =>
    some (.text 0o400 (ended (p.environment.map fun (name, value) => name ++ "=" ++ value)))
  | ["status"] => some (.text 0o444 (statusText viewer p))
  | ["stat"] => some (.text 0o444 (statText viewer p))
  | ["cwd"] => some (.link (Files.pathOf p.directory))
  | ["exe"] => some (.link (Files.pathOf p.program))
  | ["root"] => some (.link "/")
  | _ => none

/-- The process that a name in the directory of processes stands for. -/
def named? (w : World) (viewer : Process) (name : String) : Option Process :=
  if name = "self" then some viewer else name.toNat?.bind w.process?

/-- The time since the system was started, as two numbers. -/
def uptimeText (w : World) : String :=
  let hundredths := w.clock / 10000000 + 100000
  let digits := toString (hundredths % 100)
  let shown := s!"{hundredths / 100}." ++ (if digits.length < 2 then "0" ++ digits else digits)
  shown ++ " " ++ shown ++ "\n"

/-- What stands at a path below the directory of processes, for a process that looks. -/
def shown? (w : World) (viewer : Process) (path : String) : Option ShownFile :=
  if !Path.isAbsolute path then none
  else match Path.parts path with
    | ["proc"] =>
      some (.directory (w.processes.map (fun p => toString p.pid) ++ ["loadavg", "self", "uptime"]))
    | ["proc", "uptime"] => some (.text 0o444 w.uptimeText)
    | ["proc", "loadavg"] => some (.text 0o444 s!"0.00 0.00 0.00 1/{w.processes.length} {w.nextPid}\n")
    | ["proc", "sys", "kernel", "ostype"] => some (.text 0o444 "Linux\n")
    | ["proc", "sys", "kernel", "ns_last_pid"] => some .lastPid
    | ["dev", "fd"] => some (.descriptors viewer)
    | "proc" :: owner :: rest => (w.named? viewer owner).bind fun p => shownOf? viewer p rest
    | _ => none

/-- What is known about a file that is shown. -/
def statusOfShown (w : World) (file : ShownFile) : FileStatus :=
  let (kind, mode, size) : FileKind × Nat × Nat := match file with
    | .directory _ => (.directory, 0o555, 0)
    | .descriptors owner => (.directory, 0o500, owner.descriptors.length)
    | .link _ => (.link, 0o777, 0)
    | .text mode _ => (.plain, mode, 0)
    | .lastPid => (.plain, 0o666, 0)
  { kind, mode, size, modified := w.calendarTime, number := 0
    links := if kind = .directory then 2 else 1 }

end World

end DeviceLab.Bench
