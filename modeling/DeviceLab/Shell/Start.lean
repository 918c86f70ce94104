import DeviceLab.Shell.Interpreter

/-!
# A shell as a program

* `Shell.program`: what a shell does with its words and its variables.
-/

namespace DeviceLab.Shell

open Unix

/-- How deep commands may stand inside of each other. -/
def nestingLimit : Nat := 1000000

/-- Carries out a command or a text. -/
def carry : Carry := carryOut nestingLimit

/-- The variables that a shell knows by itself. -/
def firstVariables : List Variable :=
  [{ name := "IFS", value := some usualSeparators },
    { name := "MAIL", value := none },
    { name := "MAILPATH", value := none },
    { name := "PATH", value := some Builtin.usualPath },
    { name := "PS1", value := some "# " },
    { name := "PS2", value := some "> " },
    { name := "PS4", value := some "+ " },
    { name := "OPTIND", value := some "1" }]

/-- What a shell knows with the variables that it is given. -/
def stateWith (title : String) (environment : Environment) : State :=
  let enter (s : State) (entry : String × String) : State :=
    if isName entry.1 then s.put { name := entry.1, value := some entry.2, isExported := true }
    else s
  let reset (s : State) (name value : String) : State :=
    s.put { (s.binding? name).getD { name, value := none } with value := some value }
  let s : State := environment.foldl enter { title, bindings := firstVariables }
  reset (reset s "IFS" usualSeparators) "OPTIND" "1"

/-- Whether two paths lead to the same directory. -/
def isSame (first second : String) : Interpreting Bool := do
  match ← ask (.status first true), ← ask (.status second true) with
  | .ok a, .ok b => return a.number == b.number && a.kind == b.kind
  | _, _ => return false

/-- Learns what only the system knows. -/
def lookAround : Interpreting Unit := do
  let (pid, parent) ← ask .self
  modify fun s => { s with pid }
  let v := ((← get).binding? "PPID").getD { name := "PPID", value := none }
  modify fun s => s.put { v with value := some (toString parent) }
  let known := ((← get).value? "PWD").filter (·.startsWith "/")
  let directory ← match known with
    | some path => if ← isSame path "." then pure path else ask .directory
    | none => ask .directory
  modify fun s => { s with directory }
  assign "PWD" directory
  mark "PWD" true false

/-- The letter of the option by which a shell is told its script. -/
def scriptOption : Char := 'c'

/-- What is done with letters that are options only where a shell is started. -/
def startOption (letter : Char) : Option (Interpreting Unit) :=
  if letter = scriptOption then some (Builtin.setOption scriptOption true)
  else if letter = 'l' then some (pure ())
  else none

/-- Sets the name of the shell and its parameters. -/
def setWords (words : List String) : Interpreting Unit := do
  words.head?.forM fun title => modify fun s => { s with title }
  modify fun s => { s with parameters := words.drop 1 }

/-- Carries out what a shell is told by its words. -/
def begin_ (words : List String) : Interpreting Unit := do
  lookAround
  let (rest, _) ← Builtin.setOptions startOption true (words.length + 1) (words.drop 1)
  let isTold := (← get).has scriptOption
  modify fun s => { s with options := s.options.filter (· != scriptOption) }
  match rest with
  | [] =>
    if isTold then fail "-c requires an argument"
    Builtin.setOption 's' true
    carryInput carry readingLimit (Source.ofText []) false
  | first :: rest =>
    if isTold then
      setWords rest
      discard (carry (.text first) {})
      if (← get).has 's' then carryInput carry readingLimit (Source.ofText []) false
    else if (← get).has 's' then
      modify fun s => { s with parameters := first :: rest }
      carryInput carry readingLimit (Source.ofText []) false
    else
      let script ← readScript first
      setWords (first :: rest)
      discard (carry (.file script) {})

/-- What a shell does with its words and its variables. -/
def program (words : List String) (environment : Environment) : Activity :=
  let s := stateWith (words.headD "sh") environment
  (toRoutine (begin_ words) s (endShell carry)).toActivity

end DeviceLab.Shell
