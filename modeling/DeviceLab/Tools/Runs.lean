import DeviceLab.Tools.Search
import DeviceLab.Tools.Values

/-!
# Programs that start other programs

Programs that change what a program finds around it, that wait, and that send signals: `env`, `nohup`,
`nice`, `setsid`, `timeout`, `xargs`, `sleep`, `kill`.
-/

namespace DeviceLab.Tools

open Text Unix

namespace Runs

open Tool

/-- The status after a failure to become another program. -/
def failureStatus (e : IoError) : Nat :=
  match e with
  | .notFound | .notADirectory => 127
  | _ => 126

/-- Becomes another program, or complains. -/
def becomeOr (words : List String) (environment : Environment) (front : String) : Tool Unit := do
  flush
  let e ← become words environment
  complain (front ++ Quote.always (words.headD "") ++ ": " ++ e.reason)
  throw (failureStatus e)

/-! ### Surroundings -/

def withVariable (environment : Environment) (name value : String) : Environment :=
  if environment.any fun entry => entry.1 == name then
    environment.map fun entry => if entry.1 == name then (name, value) else entry
  else environment ++ [(name, value)]

/-- A name and a value around an equals sign. -/
def assignment? (word : String) : Option (String × String) :=
  let name := word.toList.takeWhile (· != '=')
  if name.length = word.length then none
  else some (String.ofList name, String.ofList (word.toList.drop (name.length + 1)))

/-- The words in a text, which may be between quotation marks. -/
def splitWords (text : String) : List String :=
  let (last, words, _) := text.toList.foldl (fun (word, words, mark) c =>
    match mark with
    | some m => if c == m then (word, words, none) else (word.map (c :: ·), words, mark)
    | none =>
      if c == '"' || c == '\'' then (some (word.getD []), words, some c)
      else if c == ' ' || c == '\t' || c == '\n' then
        (none, (word.toList.map fun w => String.ofList w.reverse) ++ words, none)
      else (some (c :: word.getD []), words, none))
    ((none, [], none) : Option (List Char) × List String × Option Char)
  ((last.toList.map fun w => String.ofList w.reverse) ++ words).reverse

/-- The options of `env`. -/
def envTable : OptionTable where
  letters := "iu:0C:S:v"
  names := [("ignore-environment", .no, 'i'), ("unset", .required, 'u'), ("null", .no, '0'),
    ("chdir", .required, 'C'), ("split-string", .required, 'S'), ("debug", .no, 'v')]
  isStrict := true

/-- Runs a program with other variables, or shows them. -/
def env (words : List String) (environment : Environment) : Tool Unit := do
  modify fun s => { s with failStatus := 125 }
  let (options, operands) ← envTable.read words
  let operands := match lastOf? options 'S' with
    | some text => splitWords text ++ operands
    | none => operands
  let isBare := operands.head? == some "-"
  let operands := if isBare then operands.drop 1 else operands
  let start := if isBare || isGiven options 'i' then [] else environment
  let environment ← options.foldlM (fun (env : Environment) given => do
    if given.letter != 'u' then return env
    if given.argument.isEmpty || given.argument.toList.contains '=' then
      fail ("cannot unset " ++ Quote.always given.argument ++ ": Invalid argument")
    return env.filter fun entry => entry.1 != given.argument) start
  let given := operands.takeWhile fun word => (assignment? word).isSome
  let environment := (given.filterMap assignment?).foldl
    (fun env (name, value) => withVariable env name value) environment
  let command := operands.drop given.length
  if let some path := lastOf? options 'C' then
    if command.isEmpty then failWords "must specify command with --chdir (-C)"
    if let .error e ← ask (.enter path) then
      fail ("cannot change directory to " ++ Quote.always path ++ ": " ++ e.reason)
  if command.isEmpty then
    let ending := if isGiven options '0' then "\x00" else "\n"
    environment.forM fun (name, value) => say (name ++ "=" ++ value ++ ending)
  else
    if isGiven options 'v' then
      tell ("executing: " ++ command.headD "" ++ "\n")
      for (word, n) in command.zip (List.range command.length) do
        tell ("   arg[" ++ toString n ++ "]= " ++ Quote.always word ++ "\n")
    becomeOr command environment ""

/-- Shows the values of variables. -/
def printenv (words : List String) (environment : Environment) : Tool Unit := do
  modify fun s => { s with failStatus := 2 }
  let (options, operands) ← OptionTable.read
    { letters := "0", names := [("null", .no, '0')], isStrict := true } words
  let ending := if isGiven options '0' then "\x00" else "\n"
  if operands.isEmpty then
    environment.forM fun (name, value) => say (name ++ "=" ++ value ++ ending)
  for name in operands do
    match environment.lookup name with
    | some value => say (value ++ ending)
    | none => note 1

/-- Runs a program that does not take notice when its terminal is gone. -/
def nohup (words : List String) (environment : Environment) : Tool Unit := do
  modify fun s => { s with failStatus := 125 }
  let (_, command) ← OptionTable.read { letters := "", isStrict := true } words
  if command.isEmpty then failMissing
  ask (.arrange Signal.hangUp .ignored)
  becomeOr command environment "failed to run command "

/-- Runs a program more slowly; there is no other speed. -/
def nice (words : List String) (environment : Environment) : Tool Unit := do
  modify fun s => { s with failStatus := 125 }
  let words := match words with
    | word :: rest =>
      let digits := (word.toList.drop 1).dropWhile fun c => c == '-' || c == '+'
      if word.startsWith "-" && !digits.isEmpty && digits.all Char.isDigit then
        "-n" :: String.ofList digits :: rest
      else words
    | [] => []
  let (options, command) ← OptionTable.read
    { letters := "n:", names := [("adjustment", .required, 'n')], isStrict := true } words
  if let some text := lastOf? options 'n' then
    if text.toInt?.isNone then fail ("invalid adjustment " ++ Quote.text text)
    if command.isEmpty then failWords "a command must be given with an adjustment"
  if command.isEmpty then sayLine "0" else becomeOr command environment ""

/-- Whether the process leads its group. -/
def leadsGroup : Tool Bool := do
  let (pid, _) ← ask .self
  return (← ask .processes).any fun (number, _, group, _) => number == pid && group == pid

/-- Waits for the end of a child. -/
def waitFor (pid : Nat) : Nat → Tool Nat
  | 0 => return 1
  | fuel + 1 => do
    match ← ask (.wait true) with
    | .ended other ending => if other = pid then return ending.status else waitFor pid fuel
    | .childless => return 1
    | .nothing | .interrupted => waitFor pid fuel

/-- Runs a program in a new session. -/
def setsid (words : List String) (environment : Environment) : Tool Unit := do
  let (options, command) ← OptionTable.read
    { letters := "cfw", names := [("ctty", .no, 'c'), ("fork", .no, 'f'), ("wait", .no, 'w')]
      isStrict := true } words
  if command.isEmpty then failWords "no command specified"
  let forks ← if isGiven options 'f' then pure true else leadsGroup
  let start : Tool Unit := do
    ask .leaveSession
    let e ← become command environment
    complain ("failed to execute " ++ command.headD "" ++ ": " ++ e.reason)
    throw (failureStatus e)
  if forks then
    match ← ask .fork with
    | none => start
    | some pid => if isGiven options 'w' then throw (← waitFor pid partLimit)
  else start

/-! ### Time -/

def secondNanos : Nat := 1000000000

/-- A time that is as good as none. -/
def longTime : Nat := secondNanos * 1000000000000

/-- A length of time: a number, and a letter for its unit. -/
def nanos? (text : String) : Option Nat := do
  let (x, rest) ← Shell.Format.realOf? text.toList
  let unit ← match rest with
    | [] | ['s'] => some 1
    | ['m'] => some 60
    | ['h'] => some 3600
    | ['d'] => some 86400
    | _ => none
  match x.value with
  | .nan => none
  | .infinite negative => if negative then none else some longTime
  | .finite negative m q =>
    if negative && m != 0 then none
    let (num, den) := Decimal.Binary64.powTwo q
    some (min longTime ((m * num * unit * secondNanos + (den - 1)) / den))

/-- Rests for some time. -/
def sleep (words : List String) : Tool Unit := do
  let (_, operands) ← OptionTable.read { letters := "" } words
  if operands.isEmpty then failMissing
  let wrong := operands.filter fun text => (nanos? text).isNone
  for text in wrong do complain ("invalid time interval " ++ Quote.text text)
  unless wrong.isEmpty do failUsage
  ask (.rest ((operands.filterMap nanos?).foldl (· + ·) 0))

/-- A signal by its name or its number. -/
def signal? (text : String) : Option Nat :=
  match text.toNat? with
  | some n => if n ≤ Signal.last then some n else none
  | none =>
    let upper := text.toUpper
    let name := if upper.startsWith "SIG" then String.ofList (upper.toList.drop 3) else upper
    if name = "EXIT" || name = "0" then some 0 else Signal.ofName? name

/-! ### A limit of time -/

/-- What is done when the time is up. -/
structure Limit where
  child : Nat
  name : String
  signal : Nat
  /-- The time after which the program is killed if it has not ended. -/
  killAfter : Option Nat := none
  isForeground : Bool := false
  tells : Bool := false

/-- Sends a signal to the program, and to all in the same group. -/
def sendAll (l : Limit) (number : Nat) : Tool Unit := do
  discard (ask (.signal l.child number))
  unless l.isForeground do
    unless number = Signal.kill do ask (.arrange number .ignored)
    discard (ask (.signal 0 number))
    unless number = Signal.kill || number = Signal.continue_ do
      discard (ask (.signal l.child Signal.continue_))
      discard (ask (.signal 0 Signal.continue_))

/-- Waits for the program; gives its ending, and whether its time was up.  `due` is when it is. -/
def await (l : Limit) : Nat → Option Nat → Bool → Tool (Ending × Bool)
  | 0, _, isOver => return (.code 1, isOver)
  | fuel + 1, due, isOver => do
    match ← ask (.wait false) with
    | .ended pid ending =>
      if pid = l.child then return (ending, isOver) else await l fuel due isOver
    | .childless => return (.code 1, isOver)
    | .nothing | .interrupted =>
      let came := (← ask .caught).filter (· != Signal.child)
      match came.head? with
      | some number =>
        sendAll l number
        await l fuel due isOver
      | none =>
        let now ← ask .time
        match due with
        | some due =>
          if due ≤ now then
            let number := if isOver then Signal.kill else l.signal
            if l.tells then
              complain ("sending signal " ++ Signal.shortName number ++ " to command " ++
                Quote.always l.name)
            sendAll l number
            let next := if isOver then none else l.killAfter.map (now + ·)
            await l fuel next true
          else
            ask (.rest (due - now))
            await l fuel (some due) isOver
        | none =>
          ask (.rest longTime)
          await l fuel none isOver

/-- The options of `timeout`. -/
def timeoutTable : OptionTable where
  letters := "k:s:vfp"
  names := [("kill-after", .required, 'k'), ("signal", .required, 's'), ("verbose", .no, 'v'),
    ("foreground", .no, 'f'), ("preserve-status", .no, 'p')]
  isStrict := true

/-- Runs a program for a limited time. -/
def timeout (words : List String) (environment : Environment) : Tool Unit := do
  modify fun s => { s with failStatus := 125 }
  let (options, operands) ← timeoutTable.read words
  let readTime (text : String) : Tool Nat := do
    match nanos? text with
    | some n => return n
    | none => failWords ("invalid time interval " ++ Quote.text text)
  let killAfter ← (lastOf? options 'k').mapM readTime
  let name := (lastOf? options 's').getD "TERM"
  let some number := signal? name | failWords (Quote.text name ++ ": invalid signal")
  match operands with
  | time :: word :: rest =>
    let limit ← readTime time
    let isForeground := isGiven options 'f'
    unless isForeground do ask .leaveSession
    let noticed := [Signal.hangUp, Signal.interrupt, Signal.quit, Signal.term, number]
    for n in Signal.child :: noticed do
      unless n = Signal.kill || n = Signal.stop do ask (.arrange n .caught)
    match ← ask .fork with
    | none =>
      for n in Signal.child :: noticed do ask (.arrange n .usual)
      becomeOr (word :: rest) environment "failed to run command "
    | some child =>
      let l : Limit := { child, name := word, signal := number, killAfter, isForeground
                         tells := isGiven options 'v' }
      let due ← if limit = 0 then pure none else pure (some ((← ask .time) + limit))
      let (ending, isOver) ← await l partLimit due false
      throw (if isOver && !isGiven options 'p' && ending != .signal Signal.kill then 124
        else ending.status)
  | _ => failUsage

/-! ### Signals -/

/-- Sends signals. -/
def kill (words : List String) : Tool Unit := do
  let known (text : String) : Tool Nat := do
    match signal? text with
    | some n => return n
    | none => fail ("unknown signal: " ++ text)
  let (number, targets) ← match words with
    | "-l" :: texts | "-L" :: texts =>
      for text in texts do
        match text.toNat? with
        | some n => sayLine (Signal.shortName (if 128 < n then n - 128 else n))
        | none => sayLine (toString (← known text))
      if texts.isEmpty then sayLine (" ".intercalate Signal.names)
      throw 0
    | "-s" :: name :: rest | "--signal" :: name :: rest => pure (← known name, rest)
    | "--" :: rest => pure (Signal.term, rest)
    | word :: rest =>
      if word.startsWith "-" then pure (← known (String.ofList (word.toList.drop 1)), rest)
      else pure (Signal.term, words)
    | [] => pure (Signal.term, [])
  let targets := if targets.head? == some "--" then targets.drop 1 else targets
  if targets.isEmpty then
    tell "\nUsage:\n kill [options] <pid> [...]\n"
    throw 1
  for target in targets do
    match target.toInt? with
    | none => warn ("failed to parse argument: '" ++ target ++ "'")
    | some n =>
      if let .error e ← ask (.signal n number) then warn ("(" ++ target ++ "): " ++ e.reason)

end Runs

/-! ### Programs with words from the input -/

namespace Xargs

open Tool

/-- How programs are started. -/
structure Plan where
  command : List String
  environment : Environment
  /-- What a word is put in the place of. -/
  marker : Option String := none
  tells : Bool := false
  /-- The number of programs at the same time; zero means any number. -/
  most : Nat := 1

/-- A word that is being read: its characters, the last one first. -/
structure Reading where
  word : Option (List Char) := none
  /-- Whether blanks belong to words, and words end with lines. -/
  byLines : Bool := false
  /-- The words of the line. -/
  line : List String := []
  lines : List (List String) := []

def Reading.endWord (r : Reading) : Reading :=
  match r.word with
  | none => r
  | some word => { r with word := none, line := String.ofList word.reverse :: r.line }

def Reading.endLine (r : Reading) : Reading :=
  let r := r.endWord
  if r.line.isEmpty then r else { r with line := [], lines := r.line.reverse :: r.lines }

/-- Reads words, line by line; tells which quotation mark has no other one.  A line that ends with a
blank goes on. -/
def readWords : Nat → List Char → Reading → Reading × Option Char
  | 0, _, r => (r, none)
  | _ + 1, [], r => (r.endLine, none)
  | fuel + 1, c :: rest, r =>
    let add (chars : List Char) : Reading := { r with word := some (chars.reverse ++ r.word.getD []) }
    if c = '\n' then
      let isOpen := !r.byLines && r.word.isNone && !r.line.isEmpty
      readWords fuel rest (if isOpen then r.endWord else r.endLine)
    else if c = ' ' || c = '\t' then
      readWords fuel rest (if r.byLines && r.word.isSome then add [c] else r.endWord)
    else if c = '\\' then
      match rest with
      | [] => readWords fuel [] r
      | c :: rest => readWords fuel rest (add [c])
    else if c = '"' || c = '\'' then
      let inside := rest.takeWhile fun d => d != c && d != '\n'
      match rest.drop inside.length with
      | d :: rest => if d = c then readWords fuel rest (add inside) else (r.endWord.endLine, some c)
      | [] => (r.endWord.endLine, some c)
    else readWords fuel rest (add [c])

/-- A text with something in the place of each marker. -/
def filled (marker word text : String) : String := word.intercalate (text.splitOn marker)

/-- Notes how a program ended. -/
def noteEnding (p : Plan) (ending : Ending) : Tool Unit := do
  let name := p.command.headD ""
  match ending with
  | .code 0 => pure ()
  | .code 255 =>
    complain (name ++ ": exited with status 255; aborting")
    throw 124
  | .code _ => note 123
  | .signal n =>
    complain (name ++ ": terminated by signal " ++ toString n)
    throw 125

/-- Waits until fewer programs run than before. -/
def awaitOne (p : Plan) (running : Nat) : Nat → Tool Nat
  | 0 => return 0
  | fuel + 1 => do
    match ← ask (.wait true) with
    | .ended _ ending =>
      noteEnding p ending
      return running - 1
    | .childless => return 0
    | .nothing | .interrupted => awaitOne p running fuel

/-- The words of a program with words from the input. -/
def wordsWith (p : Plan) (words : List String) : List String :=
  match p.marker, words with
  | some marker, word :: _ =>
    (p.command.take 1) ++ (p.command.drop 1).map (filled marker word)
  | _, _ => p.command ++ words

/-- Starts a program with some words; gives the number of those that run. -/
def start (p : Plan) (running : Nat) (words : List String) : Tool Nat := do
  let command := wordsWith p words
  if p.tells then tell (" ".intercalate (command.map Quote.file) ++ "\n")
  let running ← if p.most ≤ running && 0 < p.most then awaitOne p running partLimit
    else pure running
  flush
  let (out, in_) ← match ← ask .pipe with
    | .ok ends => pure ends
    | .error e => fail ("cannot create pipe: " ++ e.reason)
  let back ← ask (.duplicate in_ 10)
  discard (ask (.close in_))
  let back := back.toOption.getD in_
  match ← ask .fork with
  | none =>
    discard (ask (.close out))
    if let .ok descriptor ← ask (.openFile "/dev/null" .reading) then
      discard (ask (.replace descriptor 0))
      close descriptor
    let e ← become command p.environment
    complain (command.headD "" ++ ": " ++ e.reason)
    discard (write back (toString (Runs.failureStatus e)))
    throw 127
  | some _ =>
    discard (ask (.close back))
    let answer ← readAll out
    discard (ask (.close out))
    match answer.toOption.getD [] with
    | [] => return running + 1
    | digits => throw ((String.ofList digits).toNat?.getD 127)

/-- Splits words into parts of a size. -/
def parts (size : Nat) : Nat → List String → List (List String)
  | 0, _ => []
  | _, [] => []
  | fuel + 1, words => words.take size :: parts size fuel (words.drop size)

/-- The options. -/
def table : OptionTable where
  letters := "0a:d:E:e::i::I:l::L:n:prs:txP:"
  names := [("null", .no, '0'), ("arg-file", .required, 'a'), ("delimiter", .required, 'd'),
    ("eof", .possible, 'e'), ("replace", .possible, 'i'), ("max-lines", .possible, 'l'),
    ("max-args", .required, 'n'), ("interactive", .no, 'p'), ("no-run-if-empty", .no, 'r'),
    ("max-chars", .required, 's'), ("verbose", .no, 't'), ("exit", .no, 'x'),
    ("max-procs", .required, 'P')]
  isStrict := true

/-- A number behind an option. -/
def numberOf (options : List Given) (letter : Char) (least : Nat) : Tool (Option Nat) := do
  match lastOf? options letter with
  | none => return none
  | some text =>
    match text.toNat? with
    | none => failWords ("invalid number \"" ++ text ++ "\" for -" ++ letter.toString ++ " option")
    | some n =>
      if n < least then
        failWords ("value " ++ toString n ++ " for -" ++ letter.toString ++
          " option should be >= " ++ toString least)
      return some n

/-- The character that ends a word. -/
def delimiter? (options : List Given) : Option Char :=
  if isGiven options '0' then some (Char.ofNat 0)
  else (lastOf? options 'd').map fun text =>
    ((Shell.Format.unescaped text).1.toList.head?).getD (Char.ofNat 0)

/-- The program. -/
def run (words : List String) (environment : Environment) : Tool Unit := do
  let (options, command) ← table.read words
  let count ← numberOf options 'n' 1
  let lineCount ← numberOf options 'L' 1
  let most := (← numberOf options 'P' 0).getD 1
  let marker := (lastOf? options 'I').or ((lastOf? options 'i').map fun text =>
    if text.isEmpty then "\x7b\x7d" else text)
  let command := if command.isEmpty then ["echo"] else command
  let p : Plan := { command, environment, marker, tells := isGiven options 't', most }
  let text ← match lastOf? options 'a' with
    | none => pure ((← readAll 0).toOption.getD [])
    | some path =>
      match ← open_ path with
      | .error e => fail ("Cannot open input file " ++ Quote.always path ++ ": " ++ e.reason)
      | .ok descriptor =>
        let text ← readAll descriptor
        close descriptor
        pure (text.toOption.getD [])
  let (rows, unmatched) := match delimiter? options with
    | some ending => ((linesBy ending text).map fun line => [String.ofList line], none)
    | none =>
      let (r, unmatched) := readWords (text.length + 2) text { byLines := marker.isSome }
      (r.lines.reverse, unmatched)
  let rows := match lastOf? options 'E' with
    | some last =>
      let whole := rows.takeWhile fun line => !line.contains last
      whole ++ ((rows.drop whole.length).take 1).map fun line => line.takeWhile (· != last)
    | none => rows
  let groups : List (List String) := match marker, lineCount, count with
    | some _, _, _ => rows
    | none, some n, _ =>
      let joined := (List.range ((rows.length + n - 1) / n)).map fun k =>
        ((rows.drop (k * n)).take n).flatten
      joined
    | none, none, some n => parts n (rows.flatten.length + 1) rows.flatten
    | none, none, none => if rows.isEmpty then [] else [rows.flatten]
  let isBare := groups.isEmpty && marker.isNone && !isGiven options 'r' && unmatched.isNone
  let running ← (if isBare then [[]] else groups).foldlM (start p) 0
  discard ((List.range running).foldlM (fun running _ => awaitOne p running partLimit) running)
  if let some mark := unmatched then
    let kind := if mark = '"' then "double" else "single"
    fail ("unmatched " ++ kind ++
      " quote; by default quotes are special to xargs unless you use the -0 option")

end Xargs

end DeviceLab.Tools
