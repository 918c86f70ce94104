import DeviceLab.Bench.Kernel
import DeviceLab.Decimal.Powers

/-!
# The passing of time

Processes take their steps one at a time, the one that is due first before the others.

* `World.runUntil`: everything that happens up to an instant.
* `World.runUntilEnded`: everything that happens until a process has ended.
-/

namespace DeviceLab.Bench

namespace World

/-- The process that is due first, with the time. -/
def nextDue? (w : World) : Option (Nat × Process) :=
  w.processes.foldl (fun best p =>
    if p.stopped then best
    else match p.due, best with
      | none, _ => best
      | some due, none => some (due, p)
      | some due, some (least, _) => if due < least then some (due, p) else best) none

/-- The step of the process that is due at a time, and what comes of it for the others. -/
def stepAt (w : World) (due : Nat) (p : Process) : World :=
  ({ w with clock := max w.clock due }.stepProcess p).awaken

/-! ### Interrupts -/

/-- The time between the appearance of a file and the signal that is sent on it. -/
def interruptDelay : Nat := 20 * Decimal.tenTo 6

/-- Sets the time of the next interrupt once its file is there. -/
def armInterrupt (w : World) : World :=
  match w.interrupts with
  | { file, due := none } :: rest =>
    if w.files.holds file then
      { w with interrupts := { file, due := some (w.clock + interruptDelay) } :: rest }
    else w
  | _ => w

/-- When the next interrupt is due. -/
def interruptDue? (w : World) : Option Nat := w.interrupts.head?.bind (·.due)

/-- The program itself receives a signal: the first one cancels what it does, and the second one
kills some groups of processes. -/
def interrupt (w : World) (groups : List Nat) : World :=
  let w := { w with interrupts := w.interrupts.drop 1, received := w.received + 1 }
  match w.received with
  | 1 => { w with cancelled := true }
  | 2 =>
    let (killed, w) := groups.foldl (fun (n, w) group =>
      let (found, w) := w.signalGroup none group Unix.Signal.kill
      (if found then n + 1 else n, w)) (0, w)
    { w with forced := some killed }
  | _ => w

/-! ### Running -/

/-- The next thing that happens, if it happens by an instant.  `groups` are those that are killed
when the program is interrupted for good. -/
def next? (groups : List Nat) (limit : Nat) (w : World) : Option World :=
  let w := w.armInterrupt
  let process := w.nextDue?
  let isFirst (at_ : Nat) : Bool := process.all fun (due, _) => at_ < due
  let step : Option World := match process with
    | some (due, p) => if due ≤ limit then some (w.stepAt due p) else none
    | none => none
  match w.interruptDue? with
  | some at_ =>
    if isFirst at_ then
      if at_ ≤ limit then some ({ w with clock := max w.clock at_ }.interrupt groups).awaken
      else none
    else step
  | none => step

/-- Lets happen what happens by an instant; `fuel` bounds the number of events. -/
def runEvents (groups : List Nat) (limit : Nat) : Nat → World → World
  | 0, w => w
  | fuel + 1, w =>
    match w.next? groups limit with
    | some w => runEvents groups limit fuel w
    | none => w

/-- Lets time pass up to an instant. -/
def runUntil (groups : List Nat) (limit : Nat) (w : World) : World :=
  let fuel := limit - w.clock + Decimal.tenTo 6
  let w := runEvents groups limit fuel w.awaken
  { w with clock := max w.clock limit }

/-- Lets time pass until a process has ended, or nothing happens any more. -/
def runUntilEnded (pid : Nat) : Nat → World → World
  | 0, w => w
  | fuel + 1, w =>
    if (w.process? pid).any fun p => p.ending.isNone then
      match w.nextDue? with
      | some (due, p) => runUntilEnded pid fuel (w.stepAt due p)
      | none => w
    else w

end World

end DeviceLab.Bench
