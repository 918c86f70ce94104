import DeviceLab.Shell.Condition
import DeviceLab.Shell.Expansion
import DeviceLab.Shell.Format
import DeviceLab.Shell.Jobs
import DeviceLab.Shell.Reader
import DeviceLab.Text.Path
import DeviceLab.Unix.Mode

/-!
# The commands of a shell itself

The commands that a shell carries out without starting a program, save those that carry out further
commands.  Each of them is given the words behind its name, and yields a status.

* `Builtin.table`: the commands by their names.
* `Builtin.describe`: what a name stands for as a command.
-/

namespace DeviceLab.Shell.Builtin

open Text Unix

/-- What is done for a command of the shell itself. -/
abbrev Action := List String → Interpreting Nat

/-! ### Words -/

/-- Reads options in front of other words: each by its letter, with the word that belongs to it. -/
def optionsFrom (allowed : String) : Nat → List String → List (Char × String) →
    Interpreting (List (Char × String) × List String)
  | 0, words, found => return (found.reverse, words)
  | fuel + 1, words, found => do
    match words with
    | [] => return (found.reverse, [])
    | word :: rest =>
      match word.toList with
      | ['-', '-'] => return (found.reverse, rest)
      | '-' :: c :: more =>
        let behind := allowed.toList.dropWhile (· != c)
        match behind with
        | [] => fail s!"Illegal option -{c}"
        | _ :: ':' :: _ =>
          if c = ':' then fail s!"Illegal option -{c}"
          if !more.isEmpty then
            optionsFrom allowed fuel rest ((c, String.ofList more) :: found)
          else match rest with
            | [] => fail s!"No arg for -{c} option"
            | argument :: rest => optionsFrom allowed fuel rest ((c, argument) :: found)
        | _ =>
          let rest := if more.isEmpty then rest else String.ofList ('-' :: more) :: rest
          optionsFrom allowed fuel rest ((c, "") :: found)
      | _ => return (found.reverse, words)

/-- Reads options in front of other words. -/
def options (allowed : String) (words : List String) :
    Interpreting (List (Char × String) × List String) :=
  optionsFrom allowed (words.foldl (fun n word => n + word.length + 1) 1) words []

/-- The words behind the end of options, where there are none. -/
def plainWords (words : List String) : Interpreting (List String) := return (← options "" words).2

/-- A word as a natural number. -/
def number (word : String) : Interpreting Nat := do
  match (Condition.number word).run.run { words := #[] } with
  | routine => do
    let (result, _) ← (ExceptT.lift (StateT.lift routine) : Interpreting _)
    match result with
    | .ok n => if n < 0 || 2147483647 < n then fail s!"Illegal number: {word}" else return n.toNat
    | .error _ => fail s!"Illegal number: {word}"

/-- A text between quotation marks, from which a shell reads it again. -/
def quoted (text : String) : String :=
  if text.isEmpty then "''"
  else
    let close (run : List Char) : String := if run.isEmpty then "" else "'" ++ String.ofList run ++ "'"
    let rec go : List Char → List Char → List Char → String
      | [], run, marks => shown marks ++ close run.reverse
      | c :: rest, run, marks =>
        if c = '\'' then close run.reverse ++ go rest [] (c :: marks)
        else shown marks ++ go rest (c :: run) []
    go text.toList [] []
where
  /-- Quotation marks between others. -/
  shown (marks : List Char) : String :=
    if marks.isEmpty then "" else "\"" ++ String.ofList marks ++ "\""

/-! ### What is written -/

/-- Writes words. -/
def echo : Action := fun words => do
  say (Format.echoed words)
  return 0

/-- What is said about a word in the place of a number. -/
def wordProblem (word : String) : Format.WordProblem → String
  | .noNumber => s!"{word}: expected numeric value"
  | .notWhole => s!"{word}: not completely converted"
  | .tooLarge => s!"{word}: Numerical result out of range"

/-- Writes words in a form. -/
def printf : Action := fun words => do
  match ← plainWords words with
  | [] => fail "usage: printf format [arg ...]"
  | format :: words =>
    let p := Format.carryOut format words
    for part in p.parts.reverse do
      if let .problem word problem := part then complain (wordProblem word problem)
    say p.output
    match p.failure with
    | some (.unfinished _) => fail "missing format character"
    | some (.unknown conversion) => fail s!"{conversion}: invalid directive"
    | none => return p.status

/-- Finds out whether a condition holds. -/
def test (isBracket : Bool) : Action := fun words => do
  if isBracket && words.getLast? != some "]" then fail "missing ]"
  let words := if isBracket then words.dropLast else words
  match ← (ExceptT.lift (StateT.lift (Condition.holds words)) : Interpreting _) with
  | .ok holds => return if holds then 0 else 1
  | .error detail => fail detail

/-! ### Directories -/

/-- A path seen from a directory, without points. -/
def resolved (directory path : String) : String :=
  let start := if Path.isAbsolute path then [] else Path.names directory
  let names := (Path.names path).foldl (fun names name =>
    if name = "." then names else if name = ".." then names.drop 1 else name :: names) start.reverse
  let isDouble := path.startsWith "//" && !path.startsWith "///"
  (if isDouble then "//" else "/") ++ "/".intercalate names.reverse

/-- Notes a new directory. -/
def setDirectory (path : Option String) : Interpreting Unit := do
  let former := (← get).directory
  assign "OLDPWD" former
  mark "OLDPWD" true false
  let path ← match path with
    | some path => pure path
    | none => ask .directory
  modify fun s => { s with directory := path }
  assign "PWD" path
  mark "PWD" true false

/-- Goes to a directory; tells whether that went well. -/
def enter (isPhysical : Bool) (path : String) : Interpreting Bool := do
  let s ← get
  let path := if isPhysical then path else resolved s.directory path
  match ← ask (.enter path) with
  | .error _ => return false
  | .ok () =>
    setDirectory (if isPhysical then none else some path)
    return true

/-- Whether a path is seen from the directory at hand or from the root, wherever directories are
looked for. -/
def isFixed (path : String) : Bool :=
  path.startsWith "/" || path.startsWith "./" || path.startsWith "../" || path == "." || path == ".."

/-- Goes to another directory. -/
def cd : Action := fun words => do
  let (flags, words) ← options "LP" words
  let isPhysical := (flags.getLast?.map (·.1)) == some 'P'
  let s ← get
  let (target, isTold) := match words.head? with
    | none => (s.value? "HOME", false)
    | some "-" => (s.value? "OLDPWD", true)
    | some word => (some word, false)
  let target := target.getD ""
  let homes := if isFixed target then []
    else match s.value? "CDPATH" with
      | some path => path.splitOn ":"
      | none => []
  let sought := if target.isEmpty then "." else target
  let found ← homes.findM? fun home => do
    match ← ask (.status (Path.join home sought) true) with
    | .ok status => return status.kind == .directory
    | .error _ => return false
  let (path, isTold) := match found with
    | some home => (Path.join home sought, isTold || home != "")
    | none => (if isFixed target then target else sought, isTold)
  unless ← enter isPhysical path do fail s!"can't cd to {target}"
  if isTold then say ((← get).directory ++ "\n")
  return 0

/-- Tells the directory. -/
def pwd : Action := fun words => do
  let (flags, _) ← options "LP" words
  if (flags.getLast?.map (·.1)) == some 'P' then say ((← ask .directory) ++ "\n")
  else say ((← get).directory ++ "\n")
  return 0

/-! ### Variables -/

/-- Variables as a shell reads them again, each behind a word. -/
def showVariables (front : String) (test : Variable → Bool) : Interpreting Unit := do
  let found := ((← get).bindings.filter test).mergeSort fun a b => decide (a.name ≤ b.name)
  found.forM fun v => do
    let value := match v.value with
      | some value => "=" ++ quoted value
      | none => ""
    say (front ++ v.name ++ value ++ "\n")

/-- The name and the value in a word, if it holds an equals sign. -/
def assignmentIn (word : String) : String × Option String :=
  let chars := word.toList
  let name := chars.takeWhile (· != '=')
  if name.length = chars.length then (word, none)
  else (String.ofList name, some (String.ofList (chars.drop (name.length + 1))))

/-- Refuses what cannot be the name of a variable. -/
def requireName (name : String) : Interpreting Unit := do
  if !isName name then fail s!"{name}: bad variable name"

/-- Lets programs see variables, or keeps them from being changed. -/
def markAll (name : String) (isExported isReadonly : Bool) : Action := fun words => do
  let (flags, words) ← options "p" words
  if !flags.isEmpty || words.isEmpty then
    showVariables (name ++ " ") fun v =>
      if isReadonly then v.isReadonly else v.isExported
    return 0
  words.forM fun word => do
    let (name, value) := assignmentIn word
    match value with
    | none =>
      if ((← get).binding? name).isNone then requireName name
    | some value =>
      requireName name
      assign name value
    mark name isExported isReadonly
  return 0

/-- Keeps variables for the function at hand. -/
def local_ : Action := fun words => do
  if (← get).scopes.isEmpty then fail "not in a function"
  words.forM fun word => do
    if word = "-" then save (.options (← get).options)
    else
      let (name, value) := assignmentIn word
      requireName name
      makeLocal name value false
  return 0

/-- Takes away variables or functions. -/
def unset_ : Action := fun words => do
  let (flags, words) ← options "vf" words
  let isFunction := (flags.getLast?.map (·.1)) == some 'f'
  words.forM fun word => do
    if isFunction then
      modify fun s => { s with functions := s.functions.filter fun f => f.1 != word }
    else
      requireName word
      unset word
  return 0

/-- Takes the bytes of a line of the input, up to its end; gives them with whether the end came. -/
def inputLine : Nat → List Char → Interpreting (List Char × Bool)
  | 0, line => return (line, false)
  | fuel + 1, line => do
    match ← ask (.read 0 4096 true) with
    | .error .interrupted =>
      collect
      if (← get).pending.isEmpty then inputLine fuel line else return (line, false)
    | .error _ => return (line, false)
    | .ok [] => return (line, false)
    | .ok bytes =>
      let line := bytes.foldl (fun line b => if b = 0 then line else Octets.char b :: line) line
      if bytes.getLast? = some 10 then return (line.drop 1, true) else inputLine fuel line

/-- The cells of a line from which backslashes have been taken; whether the last one joins it with the
next line. -/
def lineCells : List Char → List Cell → List Cell × Bool
  | [], cells => (cells.reverse, false)
  | ['\\'], cells => (cells.reverse, true)
  | '\\' :: c :: rest, cells => lineCells rest (⟨c, true⟩ :: cells)
  | c :: rest, cells => lineCells rest (⟨c, false⟩ :: cells)

/-- Reads a line, and those joined with it. -/
def joinedLines (isRaw : Bool) : Nat → List Cell → Interpreting (List Cell × Bool)
  | 0, cells => return (cells, false)
  | fuel + 1, cells => do
    let (line, isComplete) ← inputLine childLimit []
    let line := line.reverse
    if isRaw then return (cells ++ line.map (⟨·, false⟩), isComplete)
    let (more, isJoined) := lineCells line []
    if isJoined && isComplete then joinedLines isRaw fuel (cells ++ more)
    else return (cells ++ more, isComplete)

/-- Reads a line into variables. -/
def read : Action := fun words => do
  let (flags, names) ← options "p:r" words
  if names.isEmpty then fail "arg count"
  let (cells, isComplete) ← joinedLines (flags.any fun f => f.1 == 'r') childLimit []
  let fields := fieldsOf cells (separators (← get)) names.length
  let rec assignAll : List String → List String → Interpreting Unit
    | [], _ => return
    | name :: names, fields => do
      requireName name
      assign name (fields.headD "")
      assignAll names (fields.drop 1)
  assignAll names fields
  return if isComplete then 0 else 1

def setParameters (words : List String) : Interpreting Unit :=
  modify fun s => { s with parameters := words, optionIndex := 1, optionOffset := none }

/-- Drops the first parameters of the script. -/
def shift : Action := fun words => do
  let n ← match words.head? with
    | some word => number word
    | none => pure 1
  let s ← get
  if s.parameters.length < n then fail "can't shift that many"
  setParameters (s.parameters.drop n)
  return 0

/-! ### Options -/

/-- The options of a shell: letters and names. -/
def optionNames : List (Char × String) :=
  [('e', "errexit"), ('f', "noglob"), ('I', "ignoreeof"), ('i', "interactive"), ('m', "monitor"),
    ('n', "noexec"), ('s', "stdin"), ('x', "xtrace"), ('v', "verbose"), ('V', "vi"),
    ('E', "emacs"), ('C', "noclobber"), ('a', "allexport"), ('b', "notify"), ('u', "nounset"),
    ('p', "privileged"), ('\x00', "nolog"), ('\x01', "debug")]

/-- Sets an option, or takes it back. -/
def setOption (letter : Char) (value : Bool) : Interpreting Unit :=
  modify fun s =>
    let others := s.options.filter (· != letter)
    { s with options := if value then letter :: others else others }

/-- Sets an option by its letter. -/
def setLetter (letter : Char) (value : Bool) : Interpreting Unit := do
  if optionNames.any fun option => option.1 == letter && 1 < letter.toNat then setOption letter value
  else fail s!"Illegal option -{letter}"

/-- Sets an option by its name. -/
def setNamed (name : String) (value : Bool) : Interpreting Unit := do
  match optionNames.find? fun option => option.2 == name with
  | some option => setOption option.1 value
  | none => fail s!"Illegal option -o {name}"

/-- Tells the options. -/
def showOptions (isTable : Bool) : Interpreting Unit := do
  let s ← get
  if isTable then say "Current option settings\n"
  optionNames.forM fun (letter, name) =>
    if isTable then
      let padding := String.ofList (List.replicate (16 - name.length) ' ')
      say (name ++ padding ++ (if s.has letter then "on" else "off") ++ "\n")
    else say ("set " ++ (if s.has letter then "-o " else "+o ") ++ name ++ "\n")

/-- Sets the options whose letters stand in a word; one of them takes a name from the words behind.
What is to be done with a letter comes first. -/
def setLetters (special : Char → Option (Interpreting Unit)) (value : Bool) :
    List Char → List String → Interpreting (List String)
  | [], rest => return rest
  | c :: letters, rest => do
    match special c with
    | some action =>
      action
      setLetters special value letters rest
    | none =>
      if c = 'o' then
        match rest with
        | [] =>
          showOptions value
          setLetters special value letters []
        | name :: rest =>
          setNamed name value
          setLetters special value letters rest
      else
        setLetter c value
        setLetters special value letters rest

/-- Sets options; gives the words behind them, and whether parameters are to be set to these even if
there are none. -/
def setOptions (special : Char → Option (Interpreting Unit)) (isCommandLine : Bool) :
    Nat → List String → Interpreting (List String × Bool)
  | 0, words => return (words, false)
  | fuel + 1, words => do
    match words with
    | [] => return ([], false)
    | word :: rest =>
      match word.toList with
      | ['-', '-'] => return (rest, true)
      | ['-'] =>
        unless isCommandLine do
          setOption 'x' false
          setOption 'v' false
        return (rest, false)
      | '-' :: letters =>
        let rest ← setLetters special true letters rest
        setOptions special isCommandLine fuel rest
      | '+' :: letters =>
        let rest ← setLetters special false letters rest
        setOptions special isCommandLine fuel rest
      | _ => return (words, false)

/-- Sets options and parameters, or tells all variables. -/
def set_ : Action := fun words => do
  if words.isEmpty then
    showVariables "" fun v => v.value.isSome
    return 0
  let (rest, isEnded) ← setOptions (fun _ => none) false (words.length + 1) words
  if isEnded || !rest.isEmpty then setParameters rest
  return 0

/-- What is left of the options of a script, when the next one is read. -/
structure OptionPlace where
  letter : Char
  argument : Option String
  index : Nat
  offset : Option Nat
  isDone : Bool

/-- Reads the next option out of words. -/
def nextOption (wanted : List Char) (words : List String) : Interpreting OptionPlace := do
  let s ← get
  let index := s.optionIndex
  let current := (words[index - 2]?).getD ""
  let unread := match s.optionOffset with
    | some offset => if index ≤ 1 then [] else current.toList.drop offset
    | none => []
  let isSilent := wanted.head? == some ':'
  let (unread, index, isDone) :=
    if !unread.isEmpty then (unread, index, false)
    else match (words[index - 1]?).map String.toList with
      | some ['-', '-'] => ([], index + 1, true)
      | some ('-' :: c :: more) => (c :: more, index + 1, false)
      | _ => ([], index, true)
  let current := (words[index - 2]?).getD ""
  match isDone, unread with
  | false, c :: more =>
    let behind := (if isSilent then wanted.drop 1 else wanted).dropWhile (· != c)
    let offset := if more.isEmpty then none else some (current.length - more.length)
    match c == ':', behind with
    | true, _ | _, [] =>
      unless isSilent do discard (writeTo 2 s!"Illegal option -{c}\n")
      let argument := if isSilent then some c.toString else none
      return { letter := '?', argument, index, offset, isDone := false }
    | _, _ :: ':' :: _ =>
      if !more.isEmpty then
        let argument := some (String.ofList more)
        return { letter := c, argument, index, offset := none, isDone := false }
      match words[index - 1]? with
      | some argument =>
        return { letter := c, argument, index := index + 1, offset := none, isDone := false }
      | none =>
        unless isSilent do discard (writeTo 2 s!"No arg for -{c} option\n")
        let argument := if isSilent then some c.toString else none
        let letter := if isSilent then ':' else '?'
        return { letter, argument, index, offset, isDone := false }
    | _, _ => return { letter := c, argument := some "", index, offset, isDone := false }
  | _, _ => return { letter := '?', argument := none, index, offset := none, isDone := true }

/-- Reads the next option of the script. -/
def getopts : Action := fun words => do
  match words with
  | wanted :: name :: given =>
    let s ← get
    let words := if given.isEmpty then s.parameters else given
    if words.length + 1 < s.optionIndex then
      modify fun s => { s with optionIndex := 1, optionOffset := none }
    let next ← nextOption wanted.toList words
    match next.argument with
    | some argument => assign "OPTARG" argument
    | none => unless next.isDone do unset "OPTARG"
    assign "OPTIND" (toString next.index)
    modify fun s => { s with optionIndex := next.index, optionOffset := next.offset }
    requireName name
    assign name next.letter.toString
    return if next.isDone then 1 else 0
  | _ => fail "Usage: getopts optstring var [arg...]"

/-! ### Loops, functions and the end -/

/-- Leaves loops, or goes on with them. -/
def leaveLoops (name : String) : Action := fun words => do
  let n ← match words.head? with
    | some word => do
      let n ← number word
      if n = 0 then fail s!"Illegal number: {word}" else pure n
    | none => pure 1
  let n := min n (← get).loops
  if 0 < n then
    modify fun s => { s with skip := if name = "break" then .breaks n else .continues n }
  return 0

/-- Leaves a function or a script. -/
def return_ : Action := fun words => do
  let status ← match words.head? with
    | some word => number word
    | none => pure (← get).status
  modify fun s => { s with skip := .returns !words.isEmpty }
  return status

/-- Ends the shell. -/
def exit_ : Action := fun words => do
  words.head?.forM fun word => do
    let status ← number word
    modify fun s => { s with keptStatus := some status }
  throw .exit

/-! ### Aliases -/

/-- Tells or sets aliases. -/
def alias_ : Action := fun words => do
  let show_ (name text : String) : Interpreting Unit := say (name ++ "=" ++ quoted text ++ "\n")
  if words.isEmpty then
    (State.inRows 39 (← get).aliases).forM fun (name, text) => show_ name text
    return 0
  words.foldlM (fun status word => do
    let (name, text) := match word.toList with
      | [] => ("", none)
      | c :: rest =>
        let (name, text) := assignmentIn (String.ofList rest)
        (c.toString ++ name, text)
    match text with
    | some text =>
      modify fun s => { s with
        aliases :=
          if (s.aliases.lookup name).isSome then
            s.aliases.map fun entry => if entry.1 = name then (name, text) else entry
          else s.aliases ++ [(name, text)] }
      return status
    | none =>
      match (← get).aliases.lookup word with
      | some text =>
        show_ word text
        return status
      | none =>
        discard (writeTo 2 s!"alias: {word} not found\n")
        return 1) 0

/-- Takes away aliases. -/
def unalias : Action := fun words => do
  let (flags, words) ← options "a" words
  if !flags.isEmpty then
    modify fun s => { s with aliases := [] }
    return 0
  words.foldlM (fun status word => do
    if ((← get).aliases.lookup word).isSome then
      modify fun s => { s with aliases := s.aliases.filter fun entry => entry.1 != word }
      return status
    else
      discard (writeTo 2 s!"unalias: {word} not found\n")
      return 1) 0

/-! ### Signals -/

/-- The number of a signal that a word tells by number or by name, from a least one on. -/
def signalOf? (word : String) (least : Nat) : Option Nat :=
  let isNumber := !word.isEmpty && word.toList.all Char.isDigit
  if isNumber then word.toNat?.filter (· ≤ Signal.last)
  else (Signal.ofName? word).filter (least ≤ ·)

def isSignalNumber (word : String) : Bool :=
  !word.isEmpty && word.toList.all Char.isDigit && word.toNat?.any (· ≤ Signal.last)

/-- Sets what is done on a signal. -/
def setTrap (n : Nat) (action : Option String) : Interpreting Unit := do
  let s ← get
  let former := s.traps.lookup n
  let traps := s.traps.filter fun trap => trap.1 != n
  set { s with traps := traps ++ (action.map fun action => (n, action)).toList }
  if n != 0 && !s.ignored.contains n then
    let isHard ← if former.isSome then pure false else
      pure ((← ask (.arranged n)) == .ignored)
    if isHard then modify fun s => { s with ignored := n :: s.ignored }
    else
      ask (.arrange n (match action with
        | none => .usual
        | some "" => .ignored
        | some _ => .caught))

/-- Sets what is done on signals, or tells it. -/
def trap : Action := fun words => do
  let words ← plainWords words
  match words with
  | [] =>
    let s ← get
    (List.range (Signal.last + 1)).forM fun n => do
      match s.traps.lookup n with
      | some action => say s!"trap -- {quoted action} {Signal.shortName n}\n"
      | none => pure ()
    return 0
  | first :: rest =>
    let isReset := rest.isEmpty || isSignalNumber first
    let action := if isReset || first = "-" then none else some first
    let rec go : List String → Interpreting Nat
      | [] => return 0
      | word :: rest => do
        match signalOf? word 0 with
        | some n =>
          setTrap n action
          go rest
        | none =>
          discard (writeTo 2 s!"trap: {word}: bad trap\n")
          return 1
    go (if isReset then words else rest)

/-! ### Jobs -/

/-- The state of a job in words. -/
def stateOf (job : Job) : String :=
  if !job.isDone then "Running"
  else match job.processes.getLast? with
    | some (_, some (.signal n)) => Signal.notice n
    | some (_, some (.code n)) => if n = 0 then "Done" else s!"Done({n})"
    | _ => "Done"

/-- Tells of a job, and forgets it if it is done. -/
def showJob (flags : List Char) (number : Nat) : Interpreting Unit := do
  let s ← get
  match job? s number with
  | none => return
  | some job =>
    let first := (job.processes.head?.map (·.1)).getD 0
    if flags.contains 'p' then
      say s!"{first}\n"
      return
    let place := s.jobs.findIdx fun job => job.number == number
    let sign := if place = 0 then "+" else if place = 1 then "-" else " "
    let head := s!"[{number}] {sign} " ++ (if flags.contains 'l' then s!"{first} " else "")
    let head := head ++ stateOf job
    let padding (n : Nat) : String := String.ofList (List.replicate (max 1 n) ' ')
    say (head ++ padding (33 - head.length))
    let others := job.processes.drop 1
    if flags.contains 'l' then
      others.forM fun (pid, _) => say (" |\n" ++ padding 6 ++ s!"{pid} " ++ padding (33 - 10))
    else others.forM fun _ => say " | "
    say "\n"
    if job.isDone then freeJob number
    else updateJob number fun job => { job with isChanged := false }

/-- The job that a word names. -/
def jobOf (word : Option String) : Interpreting Job := do
  let s ← get
  let orElse (job : Option Job) (detail : String) : Interpreting Job := do
    match job with
    | some job => return job
    | none => fail detail
  match word with
  | none => orElse s.jobs.head? "No current job"
  | some word =>
    let missing := s!"No such job: {word}"
    match word.toList with
    | ['%'] | ['%', '+'] | ['%', '%'] => orElse s.jobs.head? "No current job"
    | ['%', '-'] => orElse s.jobs[1]? "No previous job"
    | '%' :: name =>
      if name.all Char.isDigit then
        orElse (job? s ((String.ofList name).toNat?.getD 0)) missing
      else fail missing
    | _ => fail missing

/-- Tells of jobs. -/
def jobs : Action := fun words => do
  let (flags, words) ← options "lp" words
  let flags := flags.map (·.1)
  reap
  if words.isEmpty then
    ((← get).jobs.map (·.number)).forM (showJob flags)
  else
    words.forM fun word => do showJob flags (← jobOf (some word)).number
  return 0

/-- Would let a job go on, if there were jobs that can be stopped. -/
def resume : Action := fun words => do
  let words ← plainWords words
  discard (jobOf words.head?)
  let name := words.headD "(null)"
  fail s!"job {name} not created under job control"

/-- Waits for every job; gives a status if a signal comes in first. -/
def waitForAll : Nat → Interpreting Nat
  | 0 => return 0
  | fuel + 1 => do
    if (← get).jobs.any fun job => !job.isDone then
      match ← look true none with
      | .interrupted =>
        match (← get).pending.min? with
        | some n => return 128 + n
        | none => waitForAll fuel
      | .childless => return 0
      | _ => waitForAll fuel
    else
      modify fun s => { s with jobs := s.jobs.map fun job => { job with isWaitedFor := true } }
      return 0

/-- Waits for one job; gives nothing if a signal comes in first. -/
def waitForOne (number : Nat) : Nat → Interpreting (Option Nat)
  | 0 => return none
  | fuel + 1 => do
    if ← isRunning number then
      match ← look true (some number) with
      | .interrupted =>
        if (← get).pending.isEmpty then waitForOne number fuel else return none
      | .childless => return some 0
      | _ => waitForOne number fuel
    else
      drain (some number) childLimit
      updateJob number fun job => { job with isWaitedFor := true }
      return some (((job? (← get) number).map Job.status).getD 0)

/-- Waits for jobs. -/
def wait : Action := fun words => do
  let words ← plainWords words
  if words.isEmpty then return ← waitForAll childLimit
  let rec go : List String → Nat → Interpreting Nat
    | [], status => return status
    | word :: rest, status => do
      let job ← if word.startsWith "%" then do pure (some (← jobOf (some word)))
        else do
          let pid ← number word
          pure ((← get).jobs.find? fun job => (job.processes.getLast?.map (·.1)) == some pid)
      match job with
      | none => go rest status
      | some job =>
        match ← waitForOne job.number childLimit with
        | some status => go rest status
        | none => return 128 + ((← get).pending.min?.getD 0)
  go words 127

/-- Complains about the words of `kill`. -/
def killUsage : Interpreting α :=
  fail ("Usage: kill [-s sigspec | -signum | -sigspec] [pid | job]... or\n" ++
    "kill -l [exitstatus]")

/-- Tells the names of signals. -/
def listSignals (words : List String) : Interpreting Nat := do
  match words.head? with
  | none =>
    say "0\n"
    (List.range Signal.last).forM fun n => say (Signal.shortName (n + 1) ++ "\n")
    return 0
  | some word =>
    let n ← number word
    let n := if 128 < n then n - 128 else n
    if 0 < n && n ≤ Signal.last then
      say (Signal.shortName n ++ "\n")
      return 0
    else fail s!"invalid signal number or exit status: {word}"

/-- Signals processes. -/
def signalAll (n : Nat) (words : List String) : Interpreting Nat :=
  words.foldlM (fun status word => do
    let target : Int ←
      if word.startsWith "%" then do
        let job ← jobOf (some word)
        pure (-((job.processes.head?.map (·.1)).getD 0 : Nat) : Int)
      else match word.toList with
        | '-' :: rest => do pure (-(← number (String.ofList rest)) : Int)
        | _ => do pure ((← number word) : Int)
    match ← ask (.signal target n) with
    | .ok () => return status
    | .error e =>
      complain (e.reason ++ "\n")
      return 1) 0

/-- Signals processes, or tells the names of signals. -/
def kill : Action := fun words => do
  match words with
  | [] => killUsage
  | first :: rest =>
    let named := match first.toList with
      | '-' :: name => signalOf? (String.ofList name) 1
      | _ => none
    let (n, isList, rest) ← match named with
      | some n => pure (some n, false, rest)
      | none =>
        if first.startsWith "-" then do
          let (flags, rest) ← options "ls:" words
          let n ← flags.foldlM (fun n (letter, argument) => do
            if letter != 's' then return n
            match signalOf? argument 1 with
            | some n => return some n
            | none => fail s!"invalid signal number or name: {argument}") none
          pure (n, flags.any fun f => f.1 == 'l', rest)
        else pure (none, false, words)
    let n := if isList then n else some (n.getD Signal.term)
    if isList then
      if n.isSome then killUsage else listSignals rest
    else if rest.isEmpty then killUsage
    else signalAll (n.getD Signal.term) rest

/-! ### Limits and times -/

/-- Tells or sets the rights that new files do not get. -/
def umask : Action := fun words => do
  let (flags, words) ← options "S" words
  let mask ← ask (.mask none)
  match words.head? with
  | none =>
    if flags.isEmpty then say (Mode.digits mask ++ "\n")
    else
      let letters (shift : Nat) : String :=
        let bits := (0o777 ^^^ mask) >>> shift
        String.ofList ((if bits &&& 4 != 0 then ['r'] else []) ++
          (if bits &&& 2 != 0 then ['w'] else []) ++ (if bits &&& 1 != 0 then ['x'] else []))
      say s!"u={letters 6},g={letters 3},o={letters 0}\n"
    return 0
  | some word =>
    if word.toList.head?.any Char.isDigit then
      match Mode.octal? word.toList with
      | some n => discard (ask (.mask (some (n % 0o1000))))
      | none => fail s!"Illegal number: {word}"
    else
      match Mode.read? 0 false (0o777 ^^^ mask) word with
      | some mode => discard (ask (.mask (some (0o777 ^^^ (mode % 0o1000)))))
      | none => fail s!"Illegal mode: {word}"
    return 0

/-- The limits that are told and set: letter, name, resource, and the bytes in a unit. -/
def limits : List (Char × String × Resource × Nat) :=
  [('t', "time(seconds)", .processorTime, 1), ('f', "file(blocks)", .fileSize, 512),
    ('d', "data(kbytes)", .data, 1024), ('s', "stack(kbytes)", .stack, 1024),
    ('c', "coredump(blocks)", .core, 512), ('m', "memory(kbytes)", .resident, 1024),
    ('l', "locked memory(kbytes)", .locked, 1024), ('p', "process", .processes, 1),
    ('n', "nofiles", .descriptors, 1), ('v', "vmemory(kbytes)", .memory, 1024),
    ('w', "locks", .locks, 1), ('r', "rtprio", .priority, 1)]

/-- A limit of the shell in units. -/
def shownLimit (isSoft : Bool) (resource : Resource) (unit : Nat) : Interpreting String := do
  match ← ask (.limit resource none) with
  | .ok limit =>
    let value := if isSoft then limit.soft else limit.hard
    return match value with
      | none => "unlimited"
      | some n => toString (n / unit)
  | .error e => fail s!"error getting limit ({e.reason})"

/-- Tells or sets a limit of the shell. -/
def ulimit : Action := fun words => do
  let (flags, words) ← options "HSatfdscmlpnvwr" words
  let letters := flags.map (·.1)
  let side := (letters.filter fun c => c == 'H' || c == 'S').getLast?
  let letter := (letters.filter fun c => c != 'H' && c != 'S' && c != 'a').getLast?.getD 'f'
  let (_, _, resource, unit) :=
    (limits.find? fun limit => limit.1 == letter).getD ('f', "", .fileSize, 512)
  match words with
  | [] =>
    let isSoft := side != some 'H'
    if letters.contains 'a' then
      limits.forM fun (_, name, resource, unit) => do
        let value ← shownLimit isSoft resource unit
        say (name ++ String.ofList (List.replicate (20 - name.length) ' ') ++ " " ++ value ++ "\n")
    else say ((← shownLimit isSoft resource unit) ++ "\n")
    return 0
  | [word] =>
    if letters.contains 'a' then fail "too many arguments"
    let value ← if word = "unlimited" then pure none
      else if word.toList.all Char.isDigit then pure (some (word.toNat?.getD 0 * unit))
      else fail "bad number"
    let former ← ask (.limit resource none)
    let limit := former.toOption.getD ⟨none, none⟩
    let limit := { limit with soft := if side != some 'H' then value else limit.soft }
    let limit := { limit with hard := if side != some 'S' then value else limit.hard }
    match ← ask (.limit resource (some limit)) with
    | .ok _ => return 0
    | .error e => fail s!"error setting limit ({e.reason})"
  | _ => fail "too many arguments"

/-- Tells the times that the shell and its children have worked. -/
def times : Action := fun _ => do
  say "0m0.000000s 0m0.000000s\n0m0.000000s 0m0.000000s\n"
  return 0

/-! ### Finding commands -/

/-- The commands that are found where programs are looked for, in front of programs. -/
def nameList : List String :=
  specialCommands ++ ["alias", "bg", "cd", "chdir", "command", "echo", "false", "fg", "getopts",
    "hash", "jobs", "kill", "printf", "pwd", "read", "test", "[", "true", "type",
    "ulimit", "umask", "unalias", "wait"]

/-- The directories in which programs are looked for when nothing else is said. -/
def usualPath : String := "/usr/local/sbin:/usr/local/bin:/usr/sbin:/usr/bin:/sbin:/bin"

/-- The paths along which a name is looked for. -/
def candidates (path name : String) : List String :=
  (path.splitOn ":").map fun home => Path.join home name

/-- The path of a plain file along which a name is found, or else the failure. -/
def findAlong : List String → IoError → Interpreting (Except IoError String)
  | [], e => return .error e
  | candidate :: rest, e => do
    match ← ask (.status candidate true) with
    | .ok status =>
      if status.kind = .plain then return .ok candidate
      findAlong rest .permissionDenied
    | .error .notFound | .error .notADirectory => findAlong rest e
    | .error e => findAlong rest e

/-- The path of the program that a name stands for. -/
def findProgram (name : String) (path : Option String) : Interpreting (Except IoError String) := do
  match path with
  | some path => findAlong (candidates path name) .notFound
  | none => return .error .notFound

/-- Tells what a name stands for as a command. -/
def describe (isLong : Bool) (path : Option String) (name : String) : Interpreting Nat := do
  let s ← get
  if isLong then say name
  let tell (long short : String) : Interpreting Nat := do
    say ((if isLong then long else short) ++ "\n")
    return 0
  if keywords.contains name then tell " is a shell keyword" name
  else match s.aliases.lookup name with
    | some text => tell s!" is an alias for {text}" s!"alias {name}={quoted text}"
    | none =>
      if (s.functions.lookup name).isSome then tell " is a shell function" name
      else if nameList.contains name then
        let kind := if specialCommands.contains name then "special " else ""
        tell s!" is a {kind}shell builtin" name
      else
        let tracked := if path.isSome then none else s.found.lookup name
        match tracked with
        | some found => tell s!" is a tracked alias for {found}" found
        | none =>
          let missing : Interpreting Nat := do
            if isLong then say ": not found\n"
            return 127
          if name.toList.contains '/' then
            match ← ask (.status name true) with
            | .ok _ => tell s!" is {name}" name
            | .error _ => missing
          else
            match ← findProgram name (path.or (s.value? "PATH")) with
            | .ok found =>
              if path.isNone then modify fun s => { s with found := s.found ++ [(name, found)] }
              tell s!" is {found}" found
            | .error _ => missing

/-- Tells what names stand for. -/
def type : Action := fun words => do
  words.foldlM (fun status word => do
    return max status (← describe true none word)) 0

/-- Tells of programs that have been found, or looks for some. -/
def hash : Action := fun words => do
  let (flags, words) ← options "r" words
  if !flags.isEmpty then
    modify fun s => { s with found := [] }
    return 0
  if words.isEmpty then
    (State.inRows 31 (← get).found).forM fun (_, path) => say (path ++ "\n")
    return 0
  words.foldlM (fun status word => do
    let s ← get
    if nameList.contains word || (s.functions.lookup word).isSome then return status
    match ← findProgram word (s.value? "PATH") with
    | .ok path =>
      modify fun s => { s with
        found := s.found.filter (fun entry => entry.1 != word) ++ [(word, path)] }
      return status
    | .error e =>
      complain (word ++ ": " ++ if e = .notFound then "not found" else e.reason)
      return 1) 0

/-- The commands by their names. -/
def table : List (String × Action) :=
  [(":", fun _ => return 0), ("true", fun _ => return 0), ("false", fun _ => return 1),
    ("echo", echo), ("printf", printf), ("test", test false), ("[", test true), ("cd", cd),
    ("chdir", cd), ("pwd", pwd), ("export", markAll "export" true false),
    ("readonly", markAll "readonly" false true), ("local", local_), ("unset", unset_),
    ("read", read), ("shift", shift), ("set", set_), ("getopts", getopts),
    ("break", leaveLoops "break"), ("continue", leaveLoops "continue"), ("return", return_),
    ("exit", exit_), ("alias", alias_), ("unalias", unalias), ("trap", trap), ("jobs", jobs),
    ("fg", resume), ("bg", resume), ("wait", wait), ("kill", kill), ("umask", umask),
    ("ulimit", ulimit), ("times", times), ("type", type), ("hash", hash)]

end DeviceLab.Shell.Builtin
