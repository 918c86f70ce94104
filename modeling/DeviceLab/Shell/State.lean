import DeviceLab.Shell.Source
import DeviceLab.Unix.Call

/-!
# What a shell knows

* `State`: variables, functions, aliases, parameters, options, traps and jobs of a shell.
* `Interpreting`: what a shell does; it can stop for an error or for the end of the shell.
* `Shell.assign`, `Shell.unset`, `Shell.makeLocal`: variables.
* `Shell.say`, `Shell.complain`, `Shell.fail`: what a shell writes.
* `Shell.fork`: a child that goes on with what the shell knows.
-/

namespace DeviceLab.Shell

open Text Unix

/-- A variable. -/
structure Variable where
  name : String
  /-- Its value, unless it has none. -/
  value : Option String
  isExported : Bool := false
  isReadonly : Bool := false
  deriving Repr, Inhabited

/-- What is put back when a function or a command is over. -/
inductive Saved where
  | variable (name : String) (former : Option Variable)
  | options (former : List Char)
  deriving Inhabited

structure Function where
  line : Nat
  body : Command
  deriving Inhabited

/-- What is passed over until a loop or a function is left. -/
inductive Skip where
  | nothing
  | breaks (loops : Nat)
  | continues (loops : Nat)
  /-- Leaves a function or a script; tells whether a status was given. -/
  | returns (hasStatus : Bool)
  deriving DecidableEq, Repr, Inhabited

/-- The processes of a pipeline. -/
structure Job where
  number : Nat
  /-- The processes with their endings. -/
  processes : List (Nat × Option Ending)
  isWaitedFor : Bool := false
  /-- Whether its end has not been told. -/
  isChanged : Bool := false
  deriving Inhabited

/-- Whether all processes of a job have ended. -/
def Job.isDone (job : Job) : Bool := job.processes.all fun entry => entry.2.isSome

/-- The status of a job that is done: the one of its last process. -/
def Job.status (job : Job) : Nat :=
  match job.processes.getLast? with
  | some (_, some ending) => ending.status
  | _ => 0

/-- What a shell knows. -/
structure State where
  bindings : List Variable := []
  /-- What is put back, for each function and command that is being carried out. -/
  scopes : List (List Saved) := []
  functions : List (String × Function) := []
  aliases : List (String × String) := []
  /-- The name of the script or of the shell. -/
  title : String := "sh"
  parameters : List String := []
  /-- The options that are set, by their letters. -/
  options : List Char := []
  /-- The status of the last command. -/
  status : Nat := 0
  /-- The status at the end, or in front of a trap, if it is to be kept. -/
  keptStatus : Option Nat := none
  /-- The status of the last command whose output was taken. -/
  substituted : Nat := 0
  /-- The line that is told in a complaint. -/
  line : Nat := 0
  /-- The command that is told in a complaint. -/
  command : Option String := none
  skip : Skip := .nothing
  /-- The number of loops around. -/
  loops : Nat := 0
  /-- The number of functions around. -/
  depth : Nat := 0
  /-- What is done on a signal; nothing if it is ignored.  Number zero is the end of the shell. -/
  traps : List (Nat × String) := []
  /-- The signals that were ignored when the shell started. -/
  ignored : List Nat := []
  /-- The signals that have come in. -/
  pending : List Nat := []
  jobs : List Job := []
  /-- The last process that is not waited for. -/
  background : Option Nat := none
  pid : Nat := 0
  /-- The texts that stand behind lines of the script. -/
  texts : List (Nat × Word) := []
  /-- The number of these texts that there have been. -/
  textCount : Nat := 0
  /-- What has been written by the command at hand, the last part first. -/
  output : List String := []
  /-- Whether some of it could not be written. -/
  hasLostOutput : Bool := false
  /-- Whether a command is being traced. -/
  isTracing : Bool := false
  /-- The path by which the directory was reached. -/
  directory : String := "/"
  /-- The place of the next option in a word, when options are read. -/
  optionOffset : Option Nat := none
  /-- The next word with options, counted from one. -/
  optionIndex : Nat := 1
  /-- The programs that have been found, by their names. -/
  found : List (String × String) := []
  deriving Inhabited

/-- Why a shell stops what it does. -/
inductive Stop where
  /-- An error, which has been told. -/
  | error
  /-- The end of the shell, which a command has asked for. -/
  | exit
  /-- The end of what the shell was to do. -/
  | over
  deriving DecidableEq, Repr, Inhabited

/-- What a shell does. -/
abbrev Interpreting := ExceptT Stop (StateT State Routine)

namespace State

def binding? (s : State) (name : String) : Option Variable :=
  s.bindings.find? fun v => v.name == name

def value? (s : State) (name : String) : Option String := (s.binding? name).bind (·.value)

def has (s : State) (option : Char) : Bool := s.options.contains option

/-- Enters a variable in the place of one with its name. -/
def put (s : State) (v : Variable) : State :=
  if s.bindings.any fun w => w.name == v.name then
    { s with bindings := s.bindings.map fun w => if w.name = v.name then v else w }
  else { s with bindings := s.bindings ++ [v] }

/-- Takes a variable out. -/
def drop (s : State) (name : String) : State :=
  { s with bindings := s.bindings.filter fun v => v.name != name }

/-- The place of a name in a table of a number of rows. -/
def row (rows : Nat) (name : String) : Nat :=
  let chars := name.toList
  ((chars.head?.map Char.toNat).getD 0 * 16 + chars.foldl (fun n c => n + c.toNat) 0) % rows

/-- Pairs in the order of their names in a table of a number of rows. -/
def inRows (rows : Nat) (pairs : List (String × α)) : List (String × α) :=
  pairs.mergeSort fun a b => row rows a.1 ≤ row rows b.1

/-- The variables that a program gets to see. -/
def environment (s : State) : Environment :=
  inRows 39 <| s.bindings.filterMap fun v => if v.isExported then v.value.map (v.name, ·) else none

/-- Whether something is done on a signal or at the end. -/
def hasTraps (s : State) : Bool := s.traps.any fun trap => trap.2 != ""

end State

def ask (c : Call) : Interpreting c.Answer := ExceptT.lift (StateT.lift (Routine.ask c))

/-! ### What a shell writes -/

/-- Writes a text to a descriptor; tells whether that went well. -/
def writeTo (descriptor : Nat) (text : String) : Interpreting Bool := do
  if text.isEmpty then return true
  match ← ask (.write descriptor (Octets.toBytes text)) with
  | .ok () => return true
  | .error _ => return false

/-- Writes a text to the output, once the command at hand is over. -/
def say (text : String) : Interpreting Unit := modify fun s => { s with output := text :: s.output }

/-- Writes what is to be written. -/
def flush : Interpreting Unit := do
  let s ← get
  unless s.output.isEmpty do
    set { s with output := [] }
    unless ← writeTo 1 (String.join s.output.reverse) do
      modify fun s => { s with hasLostOutput := true }

/-- What stands in front of a complaint. -/
def heading (s : State) : String :=
  match s.command with
  | some command => s!"{s.title}: {s.line}: {command}: "
  | none => s!"{s.title}: {s.line}: "

def complain (detail : String) : Interpreting Unit := do
  discard (writeTo 2 (heading (← get) ++ detail ++ "\n"))

/-- Stops with an error that has been told. -/
def stopWith (status : Nat) : Interpreting α := do
  flush
  modify fun s => { s with status }
  throw .error

/-- Complains, and stops. -/
def fail (detail : String) : Interpreting α := do
  complain detail
  stopWith 2

/-! ### Variables -/

/-- Refuses to change a variable that is kept. -/
def requireWritable (name : String) : Interpreting Unit := do
  if ((← get).binding? name).any (·.isReadonly) then fail s!"{name}: is read only"

/-- Takes notice of a change of the variable that tells where options are read. -/
def noticeOption (name : String) (value : String) : Interpreting Unit := do
  if name = "OPTIND" then
    let isNumber := !value.isEmpty && value.toList.all Char.isDigit
    if !isNumber && !value.isEmpty then fail s!"Illegal number: {value}"
    let n := value.toNat?.getD 1
    modify fun s => { s with optionIndex := max n 1, optionOffset := none }

/-- Gives a variable a value. -/
def assign (name value : String) : Interpreting Unit := do
  requireWritable name
  noticeOption name value
  let s ← get
  let v := (s.binding? name).getD { name, value := none }
  set (s.put { v with value := some value, isExported := v.isExported || s.has 'a' })
  if name = "PATH" then modify fun s => { s with found := [] }

/-- The variables that are known even without a value. -/
def fixedNames : List String := ["IFS", "PATH", "PS1", "PS2", "PS4", "OPTIND", "MAIL", "MAILPATH"]

/-- Takes the value of a variable away. -/
def unset (name : String) : Interpreting Unit := do
  requireWritable name
  noticeOption name ""
  let s ← get
  match s.binding? name with
  | none => return
  | some v =>
    if fixedNames.contains name then set (s.put { v with value := none })
    else set (s.drop name)
  if name = "PATH" then modify fun s => { s with found := [] }

/-- Lets programs see a variable, and perhaps keeps it from being changed. -/
def mark (name : String) (isExported isReadonly : Bool) : Interpreting Unit := do
  let s ← get
  let v := (s.binding? name).getD { name, value := none }
  set (s.put { v with
    isExported := v.isExported || isExported
    isReadonly := v.isReadonly || isReadonly })

/-- Notes something that is to be put back when the function or command at hand is over. -/
def save (saved : Saved) : Interpreting Unit :=
  modify fun s => match s.scopes with
    | scope :: scopes => { s with scopes := (saved :: scope) :: scopes }
    | [] => s

/-- Puts back what has been noted. -/
def undo (s : State) : Saved → State
  | .variable name none => s.drop name
  | .variable _ (some former) => s.put former
  | .options options => { s with options }

/-- Puts back what has been noted, until a number of functions and commands are left. -/
def unwindTo (depth : Nat) : Interpreting Unit :=
  modify fun s =>
    let done := s.scopes.take (s.scopes.length - depth)
    done.foldl (fun s scope => scope.foldl undo s)
      { s with scopes := s.scopes.drop done.length }

/-- Lets a variable be put back at the end of the function or command at hand, and perhaps gives it a
value and lets programs see it. -/
def makeLocal (name : String) (value : Option String) (isExported : Bool) : Interpreting Unit := do
  let former := (← get).binding? name
  save (.variable name former)
  value.forM fun value => assign name value
  if former.isNone && value.isNone then modify fun s => s.put { name, value := none }
  if isExported then mark name true false

/-! ### Processes -/

/-- What a shell does, as a routine.  `ending` is what is done at the end, with what comes of it. -/
def toRoutine (x : Interpreting α) (s : State) (ending : Except Stop α → Interpreting Nat) : Routine Nat := do
  let (result, s) ← x.run.run s
  let (status, _) ← (ending result).run.run s
  return match status with
    | .ok status => status
    | .error _ => 2

/-- Starts a child that does something else with what the shell knows; gives its number. -/
def fork (child : State → Routine Nat) : Interpreting Nat := do
  let s ← get
  ExceptT.lift (StateT.lift (Routine.fork (child s)))

/-- Lets some time pass. -/
def pass (nanos : Nat) : Interpreting Unit := ask (.pass nanos)

end DeviceLab.Shell
