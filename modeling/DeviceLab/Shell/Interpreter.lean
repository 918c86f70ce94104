import DeviceLab.Shell.Builtins
import DeviceLab.Shell.Redirect

/-!
# Carrying out commands

Each command is carried out by what is done for its kind, which is given the carrying out of what stands
inside of it.

* `Shell.runTraps`: what is done on signals that have come in.
* `Shell.endShell`: the end of a shell.
* `Shell.carryOut`: a command, or a text that holds commands.
-/

namespace DeviceLab.Shell

open Text Unix

/-- What is carried out. -/
inductive Task where
  | command (body : Option Command)
  | text (script : String)
  /-- A text that stands in a file, whose lines are shown if the shell was told so. -/
  | file (script : String)

/-- What is known about the time after a command. -/
structure Outlook where
  /-- Whether the shell ends. -/
  isLast : Bool := false
  /-- Whether something depends on the success of the command. -/
  isTested : Bool := false

/-- The carrying out of what is inside of something else; yields its status. -/
abbrev Carry := Task → Outlook → Interpreting Nat

/-- What a name stands for as a command. -/
inductive Meaning where
  | builtin
  | function (body : Function)
  | program

/-- The time that a round of a loop or a command of the shell takes. -/
def stepTime : Nat := 10000

/-- How deep functions may call each other. -/
def functionLimit : Nat := 1000

/-- The shell that carries out files which are no programs. -/
def shellPath : String := "/bin/sh"

/-- Notes the line of the command at hand. -/
def setLine (line : Nat) : Interpreting Unit := modify fun s => { s with line }

def setStatus (status : Nat) : Interpreting Unit := modify fun s => { s with status }

/-! ### Programs -/

/-- Becomes the program at one of some paths; gives the failure. -/
def becomeAny (words : List String) (environment : Environment) :
    List String → IoError → Interpreting IoError
  | [], e => return e
  | path :: rest, e => do
    let failure ← match ← ask (.become path words environment) with
      | .notExecutable => ask (.become shellPath (shellPath :: path :: words.drop 1) environment)
      | failure => pure failure
    becomeAny words environment rest <|
      if failure = .notFound || failure = .notADirectory then e else failure

/-- Becomes a program, which is looked for along paths; fails if that is impossible. -/
def become (words : List String) (paths : List String) : Interpreting α := do
  let name := words.headD ""
  let paths := if name.toList.contains '/' then [name] else paths
  let failure ← becomeAny words (← get).environment paths .notFound
  let isMissing := [IoError.notFound, .notADirectory, .tooManyLinks, .nameTooLong].contains failure
  complain (name ++ ": " ++ reasonOf failure "not found")
  flush
  setStatus (if isMissing then 127 else 126)
  throw .over

/-- The paths along which a program is looked for once it has been found: none in front of its own. -/
def pathsFromFound (path name found : String) : List String :=
  (Builtin.candidates path name).dropWhile (· != found)

/-- Finds a program and notes where; complains if there is none. -/
def locate (name : String) (path : Option String) (complains : Bool) :
    Interpreting (Option (List String)) := do
  let s ← get
  if name.toList.contains '/' then return some [name]
  let own := s.value? "PATH"
  let sought := path.or own
  let isOwn := sought == own
  let noted := if isOwn then s.found.lookup name else none
  let found ← match noted with
    | some found => pure (.ok found)
    | none => Builtin.findProgram name sought
  match found with
  | .ok found =>
    if isOwn && noted.isNone then
      modify fun s => { s with found := s.found ++ [(name, found)] }
    return some (pathsFromFound (sought.getD "") name found)
  | .error e =>
    if isOwn then modify fun s => { s with found := s.found.filter fun entry => entry.1 != name }
    if complains then complain (name ++ ": " ++ reasonOf e "not found")
    return none

/-- The names of the commands of the shell that carry out further commands. -/
def carryingNames : List String := ["eval", ".", "exec", "command"]

/-- What a name stands for as a command. -/
def meaningOf (s : State) (name : String) (skipsFunctions : Bool) : Meaning :=
  match if skipsFunctions then none else s.functions.lookup name with
  | some body => .function body
  | none =>
    if (Builtin.table.lookup name).isSome || carryingNames.contains name then .builtin else .program

/-! ### Loops -/

/-- What happens to a loop. -/
inductive LoopEnd where
  | goesOn
  /-- Goes on with the next round. -/
  | again
  | ends
  /-- Ends together with the function around it. -/
  | leaves
  deriving DecidableEq

/-- Finds out what happens to a loop. -/
def leaveLoop : Interpreting LoopEnd := do
  let s ← get
  match s.skip with
  | .nothing => return .goesOn
  | .returns _ => return .leaves
  | .breaks n =>
    set { s with skip := if n ≤ 1 then .nothing else .breaks (n - 1) }
    return .ends
  | .continues n =>
    set { s with skip := if n ≤ 1 then .nothing else .continues (n - 1) }
    return if n ≤ 1 then .again else .ends

/-- Whether commands are being passed over. -/
def skips : Interpreting Bool := return (← get).skip != .nothing

/-- Carries something out inside of one more loop. -/
def inLoop (x : Interpreting α) : Interpreting α := do
  modify fun s => { s with loops := s.loops + 1 }
  let a ← x
  modify fun s => { s with loops := s.loops - 1 }
  return a

section

variable (inner : Carry)

/-! ### Traps and the end -/

/-- Does what is to be done on signals that have come in; `fuel` bounds their number. -/
def runPending (status : Nat) : Nat → Interpreting Unit
  | 0 => return
  | fuel + 1 => do
    if ← skips then return
    match ← takePending with
    | none => return
    | some n =>
      match (← get).traps.lookup n with
      | none => pure ()
      | some action =>
        discard (inner (.text action) {})
        unless (← get).skip = .returns true do setStatus status
      runPending status fuel

/-- Does what is to be done on signals that have come in. -/
def runTraps : Interpreting Unit := do
  collect
  let s ← get
  unless s.pending.isEmpty do
    let status := s.keptStatus.getD s.status
    set { s with keptStatus := some status }
    runPending inner status childLimit
    modify fun t => { t with keptStatus := s.keptStatus }

/-- Settles the status after a stop. -/
def settle (isEnd : Bool) : Interpreting Unit :=
  modify fun s => { s with
    status := if isEnd || s.skip == .returns false then s.keptStatus.getD s.status else s.status
    keptStatus := none
    skip := .nothing
    loops := 0
    isTracing := false }

/-- The end of a shell: what is to be done at the end is done, and the status is told. -/
def endShell (result : Except Stop α) : Interpreting Nat := do
  match result with
  | .error stop => settle (stop == .exit)
  | .ok _ => pure ()
  modify fun s => { s with keptStatus := some s.status }
  let stop ← try
      match (← get).traps.lookup 0 with
      | none => pure none
      | some action =>
        modify fun s => { s with
          traps := s.traps.filter fun trap => trap.1 != 0
          skip := .nothing }
        discard (inner (.text action) {})
        pure none
    catch stop => pure (some stop)
  settle (stop.all (· == .exit))
  flush
  return (← get).status

/-- What a child does, up to its end. -/
def childOf (x : Interpreting α) (s : State) : Routine Nat := toRoutine x s (endShell inner)

/-! ### Output of commands -/

/-- Reads everything that there is to read. -/
def readAll (descriptor : Nat) : Nat → List Bytes → Interpreting Bytes
  | 0, parts => return parts.reverse.flatten
  | fuel + 1, parts => do
    match ← ask (.read descriptor 4096 false) with
    | .ok [] => return parts.reverse.flatten
    | .ok bytes => readAll descriptor fuel (bytes :: parts)
    | .error .interrupted => readAll descriptor fuel parts
    | .error _ => return parts.reverse.flatten

/-- The output of a command. -/
def output (body : Option Command) : Interpreting String := do
  if body.isNone then return ""
  let (out, in_) ← newPipe
  let job ← makeJob
  let child : Interpreting Nat := do
    enterChild
    discard (ask (.close out))
    if in_ != 1 then
      discard (ask (.replace in_ 1))
      discard (ask (.close in_))
    inner (.command body) { isLast := true }
  addProcess job (← fork (childOf inner child))
  discard (ask (.close in_))
  let bytes ← readAll out childLimit []
  discard (ask (.close out))
  let status ← waitForJob job
  modify fun s => { s with substituted := status }
  return Octets.ofBytes bytes

/-! ### Commands with redirections -/

/-- Carries something out under redirections; they are put back whatever comes of it. -/
def withAims (aims : List Aim) (x : Interpreting Nat) : Interpreting Nat := do
  let (kept, done) ← redirectWith (output inner) true aims []
  if done then
    try
      let status ← x
      restore kept
      return status
    catch stop =>
      restore kept
      throw stop
  else
    restore kept
    return 2

/-! ### Simple commands -/

/-- The words of a command, as far as they have been expanded. -/
structure Head where
  /-- Words in front of the name of the command. -/
  before : List String := []
  words : List String := []
  rest : List Word

/-- Expands some words until there is one more, if there is. -/
def Head.fillFrom (head : Head) : List Word → Interpreting Head
  | [] => return { head with rest := [] }
  | word :: rest => do
    match ← expandFields (output inner) word with
    | [] => Head.fillFrom head rest
    | found => return { head with words := head.words ++ found, rest }

/-- Expands words until there is one more, if there is. -/
def Head.fill (head : Head) : Interpreting Head := Head.fillFrom inner head head.rest

/-- Expands words until there is a second one, if there is. -/
def Head.fillSecond (head : Head) : Interpreting Head :=
  match head.words with
  | _ :: _ :: _ => return head
  | _ => Head.fill inner head

/-- Puts the first word in front. -/
def Head.pass (head : Head) : Head :=
  { head with before := head.before ++ head.words.take 1, words := head.words.drop 1 }

/-- Puts words in front back. -/
def Head.back (head : Head) (count : Nat) : Head :=
  let kept := head.before.length - count
  { head with before := head.before.take kept, words := head.before.drop kept ++ head.words }

/-- Passes over a command that lets another one be carried out, and over its options; tells whether
programs are looked for at the usual places then, or nothing if no command follows. -/
def following (isUsual : Bool) (passed : Nat) : Nat → Head → Interpreting (Head × Option Bool)
  | 0, head => return (head.back passed, none)
  | fuel + 1, head => do
    let head ← Head.fillSecond inner head
    match head.words with
    | _ :: next :: _ =>
      let head := head.pass
      match next.toList with
      | ['-', '-'] =>
        let head ← Head.fillSecond inner head
        if head.words.length < 2 then return (head.back (passed + 1), none)
        return (head.pass, some isUsual)
      | '-' :: c :: letters =>
        if (c :: letters).all (· == 'p') then following true (passed + 1) fuel head
        else return (head.back (passed + 1), none)
      | _ => return (head, some isUsual)
    | _ => return (head.back passed, none)

/-- What is known about a command before it is carried out. -/
structure Resolved where
  /-- All words, as they are traced. -/
  all : List String := []
  /-- The words from the name of the command that is carried out. -/
  words : List String := []
  meaning : Meaning := .builtin
  /-- Whether an error ends the shell, and variables that are set stay so; unknown without a name. -/
  isSpecial : Option Bool := none
  skipsFunctions : Bool := false
  /-- Where the program is looked for, unless where programs are looked for as a rule. -/
  path : Option String := none

/-- Finds the command that is carried out. -/
def resolveFrom : Nat → Head → Resolved → Interpreting (Head × Resolved)
  | 0, head, r => return (head, r)
  | fuel + 1, head, r => do
    let name := head.words.headD ""
    let meaning := meaningOf (← get) name r.skipsFunctions
    match meaning with
    | .builtin =>
      let isSpecial := r.isSpecial.or (some (specialCommands.contains name))
      let r := { r with meaning, isSpecial }
      if name != "command" then return (head, r)
      match ← following inner false 0 (head.words.length + head.rest.length + 1) head with
      | (head, none) => return (head, r)
      | (head, some isUsual) =>
        resolveFrom fuel head { r with
          skipsFunctions := true
          path := if isUsual then some Builtin.usualPath else r.path }
    | _ => return (head, { r with meaning })

/-- The commands whose words may be assignments. -/
def assigningNames : List String := ["export", "readonly", "local", "alias"]

/-- Expands words, those that are assignments as such. -/
def expandRest (assigns : Bool) (words : List Word) : Interpreting (List String) := do
  let found ← words.mapM fun word => do
    match if assigns then word.assignment? else none with
    | some (name, value) => return [name ++ "=" ++ (← expandValue (output inner) value)]
    | none => expandFields (output inner) word
  return found.flatten

/-- Expands the words of a command, and finds what is carried out. -/
def resolve (words : List Word) : Interpreting Resolved := do
  let head ← Head.fill inner { rest := words }
  if head.words.isEmpty then return {}
  let (head, r) ← resolveFrom inner (words.length + head.words.length + 1) head {}
  let assigns := assigningNames.contains (head.words.headD "")
  let words := head.words ++ (← expandRest inner assigns head.rest)
  return { r with words, all := head.before ++ words }

/-- The prompt in front of a traced command. -/
def tracePrompt : Interpreting String := do
  let text := ((← get).value? "PS4").getD ""
  let nested := readGoal readingLimit .list
  let mark : TextMark := { number := 0, mark := ['\x00'], isPlain := false, skipsTabs := false }
  match (readText nested mark).run (Source.ofText text.toList) with
  | .ok () source =>
    modify fun s => { s with isTracing := true }
    let shown ← expandField (output inner) ((source.texts.lookup 0).getD []) { isQuoted := true }
    modify fun s => { s with isTracing := false }
    return shown
  | .error e _ =>
    setLine e.line
    complain e.detail
    setStatus 2
    return text

/-- Traces a command. -/
def trace (descriptor : Nat) (assignments : List (String × String)) (words : List String) :
    Interpreting Unit := do
  let s ← get
  if s.has 'x' && !s.isTracing then
    let parts := assignments.map (fun (name, value) => name ++ "=" ++ value) ++ words
    discard (writeTo descriptor ((← tracePrompt inner) ++ " ".intercalate parts ++ "\n"))

/-- Carries out a function. -/
def callFunction (f : Function) (words : List String) (at_ : Outlook) : Interpreting Nat := do
  let former ← get
  if functionLimit ≤ former.depth then
    fail s!"Maximum function recursion depth ({functionLimit}) reached"
  set { former with
    parameters := words.drop 1
    optionIndex := 1
    optionOffset := none
    loops := 0
    depth := former.depth + 1 }
  let leave : Interpreting Unit := modify fun s => { s with
    parameters := former.parameters
    optionIndex := former.optionIndex
    optionOffset := former.optionOffset
    loops := former.loops
    depth := former.depth
    skip := match s.skip with
      | .returns _ => .nothing
      | skip => skip }
  try
    discard (inner (.command (some f.body)) { isTested := at_.isTested })
    leave
    return (← get).status
  catch stop =>
    leave
    throw stop

/-- The path of a script by its name. -/
def scriptPath (name : String) : Interpreting String := do
  if name.toList.contains '/' then return name
  match ← Builtin.findProgram name ((← get).value? "PATH") with
  | .ok path => return path
  | .error _ => fail s!"{name}: not found"

/-- Reads the whole file at a path. -/
def readScript (path : String) : Interpreting String := do
  let descriptor ← openFor .reading path
  let bytes ← readAll descriptor childLimit []
  discard (ask (.close descriptor))
  return Octets.ofBytes (bytes.filter (· != 0))

/-- Carries out a script as a part of the one at hand. -/
def source : Builtin.Action := fun words => do
  match ← Builtin.plainWords words with
  | [] => return 0
  | name :: _ =>
    let path ← scriptPath name
    let script ← readScript path
    modify fun s => { s with command := some path }
    let status ← inner (.file script) {}
    modify fun s => { s with
      skip := match s.skip with
        | .returns _ => .nothing
        | skip => skip }
    return status

/-- Becomes a program in the place of the shell. -/
def exec : Builtin.Action := fun words => do
  match words with
  | [] => return 0
  | name :: _ =>
    let path := ((← get).value? "PATH").getD ""
    become words (Builtin.candidates path name)

/-- Tells what a command stands for. -/
def tell : Builtin.Action := fun words => do
  let (flags, words) ← Builtin.options "pvV" words
  let letters := flags.map (·.1)
  let path := if letters.contains 'p' then some Builtin.usualPath else none
  match words with
  | [] => return 0
  | name :: _ =>
    if letters.contains 'v' || letters.contains 'V' then
      Builtin.describe (letters.contains 'V') path name
    else return 0

/-- What is done for a command of the shell itself. -/
def builtinAction (name : String) (at_ : Outlook) : Builtin.Action :=
  match name with
  | "eval" => fun words =>
    if words.isEmpty then return 0
    else inner (.text (" ".intercalate words)) { isTested := at_.isTested }
  | "." => source inner
  | "exec" => exec
  | "command" => tell
  | _ => (Builtin.table.lookup name).getD fun _ => return 127

/-- Carries out a command of the shell itself. -/
def callBuiltin (words : List String) (at_ : Outlook) : Interpreting Nat := do
  let former := (← get).command
  modify fun s => { s with command := words.head? }
  pass stepTime
  let leave : Interpreting Unit := modify fun s => { s with command := former, output := [] }
  try
    let status ← match words with
      | [] => do pure (← get).substituted
      | name :: words => builtinAction inner name at_ words
    flush
    let status ← if (← get).hasLostOutput then do
        modify fun s => { s with command := words.head?, hasLostOutput := false }
        complain (words.headD "" ++ ": I/O error")
        pure (status ||| 1)
      else pure status
    setStatus status
    leave
    return status
  catch stop =>
    leave
    throw stop

/-- Carries out a program, in a child unless nothing is done afterwards. -/
def callProgram (words paths : List String) (at_ : Outlook) : Interpreting Nat := do
  if at_.isLast && !(← get).hasTraps then become words paths
  else
    let job ← makeJob
    let child : Interpreting Nat := do
      enterChild
      become words paths
    let finish (_ : Except Stop Nat) : Interpreting Nat := return (← get).status
    addProcess job (← fork fun s => toRoutine child s finish)
    waitForJob job

/-- Carries out the assignments in front of a command. -/
def assignAll (isLocal isExported : Bool) :
    List (String × Word) → Interpreting (List (String × String))
  | [] => return []
  | (name, value) :: rest => do
    let value ← expandValue (output inner) value
    if isLocal then makeLocal name (some value) true
    else
      assign name value
      if isExported then mark name true false
    return (name, value) :: (← assignAll isLocal isExported rest)

/-- Carries out a command whose redirections have been carried out. -/
def call (r : Resolved) (at_ : Outlook) : Interpreting Nat := do
  match r.meaning with
  | .builtin =>
    try callBuiltin inner r.words at_
    catch
      | .error =>
        if r.isSpecial = some true then throw .error
        flush
        return (← get).status
      | stop => throw stop
  | .function f => callFunction inner f r.words at_
  | .program =>
    match ← locate (r.words.headD "") r.path true with
    | none => return 127
    | some paths => callProgram r.words paths at_

/-- Carries out a command of words, assignments and redirections. -/
def callSimple (line : Nat) (assignments : List (String × Word)) (words : List Word)
    (redirections : List Redirection) (at_ : Outlook) : Interpreting Nat := do
  setLine line
  modify fun s => { s with substituted := 0 }
  let depth := (← get).scopes.length
  let r ← resolve inner words
  let isLocal := !r.words.isEmpty && r.isSpecial != some true
  let isExec := r.words.head? == some "exec" && r.meaning matches .builtin
  if isLocal then modify fun s => { s with scopes := [] :: s.scopes }
  let aims ← redirections.mapM (aimOf (output inner))
  let (kept, done) ← redirectWith (output inner) true aims []
  if !done then
    restore kept
    setStatus 2
    if r.isSpecial = some true then throw .error
    unwindTo depth
    return 2
  try
    let assigned ← assignAll inner isLocal (isExec && 1 < r.words.length) assignments
    trace inner (((kept.lookup 2).bind id).getD 2) assigned r.all
    let status ← call inner r at_
    if isExec then forget kept else restore kept
    reap
    unwindTo depth
    return status
  catch stop =>
    restore kept
    throw stop

/-! ### Pipelines and children -/

/-- Looks for the program of a command, so that its place is known from now on. -/
def lookAhead : Command → Interpreting Unit
  | .simple _ _ (word :: _) _ => do
    match Word.plain? word with
    | some chars =>
      let name := String.ofList chars
      if isName name && meaningOf (← get) name false matches .program then
        discard (locate name none false)
    | none => pure ()
  | _ => return

/-- Starts the commands of a pipeline, each of which reads what the one before it writes. -/
def startPipeline (aside : Bool) (job : Nat) (at_ : Outlook) :
    List Command → Bool → Option Nat → Interpreting Unit
  | [], _, _ => return
  | command :: rest, isFirst, before => do
    lookAhead command
    let ends ← if rest.isEmpty then pure none else some <$> newPipe
    let child : Interpreting Nat := do
      enterChild
      if aside then enterBackground isFirst
      ends.forM fun (out, _) => discard (ask (.close out))
      before.forM fun before => do
        if 0 < before then
          discard (ask (.replace before 0))
          discard (ask (.close before))
      ends.forM fun (_, in_) => do
        if 1 < in_ then
          discard (ask (.replace in_ 1))
          discard (ask (.close in_))
      inner (.command (some command)) { at_ with isLast := true }
    let pid ← fork (childOf inner child)
    addProcess job pid
    if aside then modify fun s => { s with background := some pid }
    before.forM fun before => discard (ask (.close before))
    ends.forM fun (_, in_) => discard (ask (.close in_))
    startPipeline aside job at_ rest false (ends.map (·.1))

/-- Carries out a pipeline. -/
def callPipeline (commands : List Command) (aside : Bool) (at_ : Outlook) : Interpreting Nat := do
  let job ← makeJob
  startPipeline inner aside job at_ commands true none
  if aside then return 0 else waitForJob job

/-- Carries out a command that may change nothing of the shell, in a child. -/
def callApart (line : Nat) (body : Command) (redirections : List Redirection) (aside : Bool)
    (at_ : Outlook) : Interpreting Nat := do
  setLine line
  let aims ← redirections.mapM (aimOf (output inner))
  let goOn (at_ : Outlook) : Interpreting Nat := do
    redirectForGood (output inner) aims
    inner (.command (some body)) { at_ with isLast := true }
  if !aside && at_.isLast && !(← get).hasTraps then goOn at_
  else
    let job ← makeJob
    let child : Interpreting Nat := do
      enterChild
      if aside then enterBackground true
      goOn { at_ with isTested := at_.isTested && !aside }
    let pid ← fork (childOf inner child)
    addProcess job pid
    if aside then
      modify fun s => { s with background := some pid }
      return 0
    else waitForJob job

/-! ### Loops and choices -/

/-- Repeats a command; `fuel` bounds the number of rounds. -/
def rounds (isUntil : Bool) (condition body : Command) (at_ : Outlook) :
    Nat → Nat → Interpreting Nat
  | 0, status => return status
  | fuel + 1, status => do
    pass stepTime
    let found ← inner (.command (some condition)) { isTested := true }
    match ← leaveLoop with
    | .leaves => return found
    | .ends => return status
    | .again => rounds isUntil condition body at_ fuel status
    | .goesOn =>
      if (found != 0) != isUntil then return status
      let status ← inner (.command (some body)) { isTested := at_.isTested }
      match ← leaveLoop with
      | .leaves | .ends => return status
      | .again | .goesOn => rounds isUntil condition body at_ fuel status

/-- Carries out a command for each of some words. -/
def forEach (name : String) (body : Command) (at_ : Outlook) : List String → Nat → Interpreting Nat
  | [], status => return status
  | word :: rest, _ => do
    pass stepTime
    assign name word
    let status ← inner (.command (some body)) { isTested := at_.isTested }
    match ← leaveLoop with
    | .leaves | .ends => return status
    | .again | .goesOn => forEach name body at_ rest status

/-- Whether one of some patterns accepts a text. -/
def fits (subject : List Char) : List Word → Interpreting Bool
  | [] => return false
  | pattern :: rest => do
    if Pattern.accepts (← expandPattern (output inner) pattern) subject then return true
    fits subject rest

/-- The command of the first arm that has a pattern for a text. -/
def armFor (subject : List Char) :
    List (List Word × Option Command) → Interpreting (Option Command)
  | [] => return none
  | (patterns, body) :: rest => do
    if ← skips then return none
    if ← fits inner subject patterns then return body else armFor subject rest

/-! ### All commands -/

/-- Carries out two commands, the second one only if the status of the first one lets it. -/
def callTwo (first second : Command) (isTested : Bool) (at_ : Outlook) (lets : Nat → Bool) :
    Interpreting (Option Nat) := do
  let status ← inner (.command (some first)) { isTested }
  if !lets status || (← skips) then return none
  return some (← inner (.command (some second)) at_)

/-- Carries out a command; yields its status, unless that has been noted. -/
def perform (at_ : Outlook) : Command → Interpreting (Option Nat)
  | .simple line assignments words redirections =>
    some <$> callSimple inner line assignments words redirections at_
  | .redirected line body redirections => do
    setLine line
    let aims ← redirections.mapM (aimOf (output inner))
    let x := inner (.command (some body)) { isTested := at_.isTested }
    some <$> withAims inner aims x
  | .pipeline commands aside => some <$> callPipeline inner commands aside at_
  | .invert body => do
    let status ← inner (.command (some body)) { isTested := true }
    return some (if status = 0 then 1 else 0)
  | .both first second => callTwo inner first second true at_ (· == 0)
  | .either first second => callTwo inner first second true at_ (· != 0)
  | .sequel first second => callTwo inner first second at_.isTested at_ fun _ => true
  | .background line body redirections => some <$> callApart inner line body redirections true at_
  | .subshell line body redirections => some <$> callApart inner line body redirections false at_
  | .branch condition yes no => do
    let status ← inner (.command (some condition)) { isTested := true }
    if ← skips then return none
    if status = 0 then some <$> inner (.command (some yes)) at_
    else match no with
      | some no => some <$> inner (.command (some no)) at_
      | none => return some 0
  | .loop isUntil condition body =>
    some <$> inLoop (rounds inner isUntil condition body at_ childLimit 0)
  | .each line name words body => do
    setLine line
    let texts ← words.mapM (expandFields (output inner))
    some <$> inLoop (forEach inner name body at_ texts.flatten 0)
  | .choose line subject arms => do
    setLine line
    let text ← expandField (output inner) subject { atTilde := true }
    match ← armFor inner text.toList arms with
    | some body =>
      if ← skips then return some 0
      some <$> inner (.command (some body)) at_
    | none => return some 0
  | .define name line body => do
    modify fun s => { s with
      functions := (name, { line, body }) :: s.functions.filter fun f => f.1 != name }
    return some 0

/-- Whether a failure of a command itself may end the shell. -/
def mayEndShell : Command → Bool
  | .simple _ _ _ _ | .pipeline _ _ | .background _ _ _ | .subshell _ _ _ => true
  | _ => false

/-- Carries out a command, and what is to be done on signals before and after it. -/
def carryCommand (body : Option Command) (at_ : Outlook) : Interpreting Nat := do
  let s ← get
  let mut mayEnd := false
  match body with
  | none => pure ()
  | some command =>
    if !s.has 'n' then
      runTraps inner
      let status ← perform inner at_ command
      status.forM setStatus
      runTraps inner
      mayEnd := mayEndShell command && !at_.isTested && status.any (· != 0)
  if mayEnd && (← get).has 'e' then throw .over
  if at_.isLast then throw .over
  return (← get).status

/-- Shows the lines of a file that have been read, if the shell was told so. -/
def showLines (before after : Source) : Interpreting Unit := do
  if (← get).has 'v' then
    discard (writeTo 2 (String.ofList (before.text.take (before.size - after.size))))

/-- The next commands of a script. -/
def nextLine (source : Source) : Interpreting (Except Misread (Line × Source)) := do
  let s ← get
  return { source with aliases := s.aliases, texts := [], textCount := s.textCount }.readLine

/-- Keeps the texts that have been read behind a line. -/
def keepTexts (source : Source) : Interpreting Unit :=
  modify fun s => { s with texts := source.texts ++ s.texts, textCount := source.textCount }

/-- Gives up on a script. -/
def failReading (e : Misread) : Interpreting α := do
  setLine e.line
  fail e.detail

/-- Carries out the commands of a text, line by line. -/
def carryLines (isFile : Bool) (at_ : Outlook) : Nat → Source → Nat → Interpreting Nat
  | 0, _, status => return status
  | fuel + 1, source, status => do
    match ← nextLine source with
    | .error e => failReading e
    | .ok (.ended, _) => return status
    | .ok (.commands body, rest) =>
      keepTexts rest
      if isFile then showLines source rest
      let found ← inner (.command body) { isTested := at_.isTested }
      let status := if body.isSome then found else status
      if ← skips then return status
      carryLines isFile at_ fuel rest status

/-- Takes the next part of the input as a part of a script; tells whether there was one. -/
def moreInput (source : Source) : Interpreting (Source × Bool) := do
  match ← ask (.read 0 8191 false) with
  | .error _ | .ok [] => return (source, false)
  | .ok bytes =>
    let more := (Octets.ofBytes (bytes.filter (· != 0))).toList
    let text := source.text ++ more
    return ({ source with text, size := text.length, isExhausted := false }, true)

/-- Carries out the commands of the input, line by line. -/
def carryInput : Nat → Source → Bool → Interpreting Unit
  | 0, _, _ => return
  | fuel + 1, source, isAll => do
    let read ← nextLine source
    let isExhausted := match read with
      | .ok (_, rest) => rest.isExhausted
      | .error _ => true
    if isExhausted && !isAll then
      let (source, found) ← moreInput source
      carryInput fuel source (!found)
    else
      match read with
      | .error e => failReading e
      | .ok (.ended, _) => return
      | .ok (.commands body, rest) =>
        keepTexts rest
        showLines source rest
        discard (inner (.command body) {})
        if ← skips then return
        carryInput fuel rest isAll

end

/-- Carries out a command or a text; `fuel` bounds how deep commands stand inside of each other. -/
def carryOut : Nat → Carry
  | 0, _, _ => fail "nesting"
  | fuel + 1, .command body, at_ => carryCommand (carryOut fuel) body at_
  | fuel + 1, .text script, at_ =>
    carryLines (carryOut fuel) false at_ readingLimit (Source.ofText script.toList) 0
  | fuel + 1, .file script, at_ =>
    carryLines (carryOut fuel) true at_ readingLimit (Source.ofText script.toList) 0

end DeviceLab.Shell
