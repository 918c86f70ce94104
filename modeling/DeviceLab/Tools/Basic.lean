import DeviceLab.Text.Utf8
import DeviceLab.Unix.Call

/-!
# What programs have in common

A program writes its output in large parts, and complains about single things while it goes on with
the others; at the end it tells whether all went well.

* `Tool`: what a program does.
* `Tool.say`, `Tool.complain`, `Tool.fail`: what it writes.
* `Tool.open_`, `Tool.readAll`, `Tool.readSome`: what it reads.
* `Tool.program`: a program as it is started.
* `Quote`: names and texts in complaints.
-/

namespace DeviceLab.Tools

open Text Unix

/-- A program: what it does with its words, the first of which is its own name, and its variables. -/
abbrev Program := List String → Environment → Activity

/-! ### Names in complaints -/

namespace Quote

/-- The letter that stands for a character behind a backslash. -/
def letter? (c : Char) : Option Char :=
  match c.toNat with
  | 7 => some 'a'
  | 8 => some 'b'
  | 9 => some 't'
  | 10 => some 'n'
  | 11 => some 'v'
  | 12 => some 'f'
  | 13 => some 'r'
  | _ => none

/-- Three octal digits. -/
def octal (n : Nat) : List Char :=
  [n / 64 % 8, n / 8 % 8, n % 8].map fun d => Char.ofNat (48 + d)

/-- What stands for a character that is not shown itself. -/
def escape? (c : Char) : Option (List Char) :=
  match letter? c with
  | some l => some ['\\', l]
  | none => if c.toNat < 32 || 126 < c.toNat then some ('\\' :: octal c.toNat) else none

/-- Whether a character has a meaning for a shell. -/
def isSpecial (c : Char) : Bool := " !\"$&()*;<=>[^`|?\\".toList.contains c

/-- Whether a name has to be quoted for a shell. -/
def needsQuotes (alsoColon : Bool) (name : List Char) : Bool :=
  name.isEmpty || name == ['\x7b'] || name == ['\x7d'] ||
    name.head?.any (fun c => c == '#' || c == '~') ||
    name.any fun c =>
      isSpecial c || c == '\'' || (escape? c).isSome || alsoColon && c == ':'

/-- Whether a name stays the same between double quotation marks. -/
def isMild (name : List Char) : Bool :=
  name.all fun c =>
    c.isAlphanum || " '%+,-./:]_".toList.contains c

/-- A name between quotation marks, piece by piece; `inEscape` tells whether the characters before
were shown by escapes. -/
def quotedFrom : List Char → Bool → List Char
  | [], _ => []
  | c :: rest, inEscape =>
    match escape? c with
    | some text => (if inEscape then [] else "'$'".toList) ++ text ++ quotedFrom rest true
    | none =>
      let front := if inEscape then ['\'', '\''] else []
      if c = '\'' then front ++ "'\\''".toList ++ quotedFrom rest false
      else front ++ c :: quotedFrom rest false

/-- A name as a shell would read it, between quotation marks. -/
def always (name : String) : String :=
  let chars := name.toList
  if chars.contains '\'' && isMild chars then "\"" ++ name ++ "\""
  else "'" ++ String.ofList (quotedFrom chars false) ++ "'"

/-- The name of a file in front of a complaint: between quotation marks only if it has to be. -/
def file (name : String) : String :=
  if needsQuotes true name.toList then always name else name

/-- A text that is no name, between quotation marks. -/
def text (text : String) : String :=
  let shown := text.toList.flatMap fun c =>
    if c = '\'' || c = '\\' then ['\\', c] else (escape? c).getD [c]
  "'" ++ String.ofList shown ++ "'"

end Quote

/-! ### Digits -/

/-- The number that up to some digits tell, and what is behind them. -/
def digits? (base most : Nat) (text : List Char) : Option (Nat × List Char) :=
  let value (c : Char) : Nat :=
    if c.isDigit then c.toNat - 48
    else if 'a' ≤ c.toLower && c.toLower ≤ 'f' then c.toLower.toNat - 87 else 16
  let front := (text.take most).takeWhile fun c => value c < base
  if front.isEmpty then none
  else some (front.foldl (fun n c => n * base + value c) 0, text.drop front.length)

/-! ### Tools -/

/-- What a program keeps in mind. -/
structure ToolState where
  /-- The name by which it was started. -/
  name : String
  /-- The status after a failure. -/
  failStatus : Nat := 1
  /-- What is still to be written, the last part first, with its size. -/
  output : List String := []
  size : Nat := 0
  status : Nat := 0
  /-- Why something could not be written. -/
  lost : Option IoError := none
  /-- How children ended that nobody has asked for. -/
  ended : List (Nat × Ending) := []

/-- What a program does; it can end at once with a status. -/
abbrev Tool := ExceptT Nat (StateT ToolState Routine)

namespace Tool

def ask (c : Call) : Tool c.Answer := ExceptT.lift (StateT.lift (Routine.ask c))

def write (descriptor : Nat) (text : String) : Tool (Except IoError Unit) := do
  if text.isEmpty then return .ok ()
  ask (.write descriptor (Octets.toBytes text))

/-- Writes what is to be written. -/
def flush : Tool Unit := do
  let s ← get
  unless s.output.isEmpty do
    set { s with output := [], size := 0 }
    match ← write 1 (String.join s.output.reverse) with
    | .ok () => pure ()
    | .error e => modify fun s => { s with lost := s.lost.or (some e) }

/-- The size of the parts in which output is written. -/
def partSize : Nat := 4096

/-- Writes a text to the output. -/
def say (text : String) : Tool Unit := do
  modify fun s => { s with output := text :: s.output, size := s.size + text.length }
  if partSize ≤ (← get).size then flush

/-- Writes a line to the output. -/
def sayLine (line : String) : Tool Unit := say (line ++ "\n")

/-- Writes a text as it is to the output for complaints. -/
def tell (text : String) : Tool Unit := do
  flush
  discard (write 2 text)

/-- Complains at once, before what is still to be written. -/
def blurt (detail : String) : Tool Unit := do
  discard (write 2 ((← get).name ++ ": " ++ detail ++ "\n"))

def complain (detail : String) : Tool Unit := do tell ((← get).name ++ ": " ++ detail ++ "\n")

/-- Notes a status, unless a worse one has been noted. -/
def note (status : Nat) : Tool Unit := modify fun s => { s with status := max s.status status }

/-- Complains, and notes that not all went well. -/
def warn (detail : String) : Tool Unit := do
  complain detail
  note (← get).failStatus

/-- Complains, and ends. -/
def fail (detail : String) : Tool α := do
  complain detail
  throw (← get).failStatus

/-- Tells how to get help, and ends. -/
def failUsage : Tool α := do
  let name := (← get).name
  tell ("Try '" ++ name ++ " --help' for more information.\n")
  throw (← get).failStatus

/-- Complains about words that are missing or too many, and ends. -/
def failWords (detail : String) : Tool α := do
  complain detail
  failUsage

/-- Complains that there is no operand, and ends. -/
def failMissing : Tool α := failWords "missing operand"

/-- Complains about an operand too many, and ends. -/
def failExtra (word : String) : Tool α := failWords ("extra operand " ++ Quote.text word)

/-- Complains about a file. -/
def warnFile (path : String) (e : IoError) : Tool Unit := warn (Quote.file path ++ ": " ++ e.reason)

/-! ### Reading -/

/-- The number of bytes that are read at once. -/
def blockSize : Nat := 65536

/-- Opens a file for reading; a single hyphen is the input. -/
def open_ (path : String) : Tool (Except IoError Nat) := do
  if path = "-" then return .ok 0
  ask (.openFile path .reading)

/-- Closes a file that was opened. -/
def close (descriptor : Nat) : Tool Unit := unless descriptor = 0 do discard (ask (.close descriptor))

/-- Reads some characters; there are none at the end. -/
def readSome (descriptor limit : Nat) : Tool (Except IoError (List Char)) := do
  match ← ask (.read descriptor limit false) with
  | .ok bytes => return .ok (bytes.map Octets.char)
  | .error e => return .error e

/-- The number of parts that are read at most. -/
def partLimit : Nat := 1000000000

/-- Reads what is left, part by part. -/
def readParts (descriptor : Nat) : Nat → List (List Char) → Tool (Except IoError (List Char))
  | 0, parts => return .ok parts.reverse.flatten
  | fuel + 1, parts => do
    match ← readSome descriptor blockSize with
    | .ok [] => return .ok parts.reverse.flatten
    | .ok part => readParts descriptor fuel (part :: parts)
    | .error e => return .error e

def readAll (descriptor : Nat) : Tool (Except IoError (List Char)) :=
  readParts descriptor partLimit []

/-- Reads a whole file; complains if that is impossible. -/
def readFile (path : String) : Tool (Option (List Char)) := do
  match ← open_ path with
  | .error e =>
    warnFile path e
    return none
  | .ok descriptor =>
    let result ← readAll descriptor
    close descriptor
    match result with
    | .ok text => return some text
    | .error e =>
      warnFile path e
      return none

/-- Whether a descriptor stands for a plain file. -/
def isPlain (descriptor : Nat) : Tool Bool := do
  match ← ask (.statusOf descriptor) with
  | .ok status => return status.kind == .plain
  | .error _ => return false

/-! ### Lines -/

/-- The lines of a text, each without its end, which is a character; the end of the last one may be
missing. -/
def linesBy (ending : Char) (text : List Char) : List (List Char) :=
  let (last, lines) := text.foldr (fun c (line, lines) =>
    if c == ending then ([], line :: lines) else (c :: line, lines)) (([], []) : List Char × _)
  match lines, last with
  | [], [] => []
  | [], last => [last]
  | _, _ =>
    let lines := last :: lines
    if text.getLast? == some ending then lines.dropLast else lines

/-- The lines of a text, each without its end. -/
def lines (text : List Char) : List (List Char) := linesBy '\n' text

/-! ### Starting -/

/-- Writes what is left to be written; gives the status. -/
def finish (status : Nat) : Tool Nat := do
  flush
  let s ← get
  match s.lost with
  | none => return status
  | some e =>
    complain ("write error: " ++ e.reason)
    return max 1 s.failStatus

/-- A program by what it does with the words behind its name, once it is started. -/
def program (body : List String → Environment → Tool Unit) : Program := fun words environment =>
  let name := words.headD ""
  let run : Routine Nat := do
    let (result, s) ← (body (words.drop 1) environment).run.run { name }
    let status := match result with
      | .ok () => s.status
      | .error status => status
    let (status, _) ← (finish status).run.run s
    return match status with
      | .ok status | .error status => status
  run.toActivity

/-- Becomes another program; gives the failure, and whether the program was not found. -/
def become (words : List String) (environment : Environment) : Tool IoError := do
  let name := words.headD ""
  let paths := if name.toList.contains '/' then [name]
    else (((environment.lookup "PATH").getD "/bin:/usr/bin").splitOn ":").map fun home =>
      if home.isEmpty then name else home ++ "/" ++ name
  if name.isEmpty then return .notFound
  let rec go : List String → IoError → Tool IoError
    | [], e => return e
    | path :: rest, e => do
      match ← ask (.become path words environment) with
      | .notExecutable =>
        ask (.become "/bin/sh" ("/bin/sh" :: path :: words.drop 1) environment)
      | .notFound | .notADirectory => go rest e
      | .permissionDenied => go rest .permissionDenied
      | e => return e
  go paths .notFound

/-! ### Children -/

/-- The status of a program that is not there. -/
def missingStatus : Nat := 127

/-- Starts a child that becomes another program after some preparations; gives its number. -/
def startChild (prepare : Tool Unit) (words : List String) (environment : Environment) :
    Tool Nat := do
  flush
  match ← ask .fork with
  | some pid => return pid
  | none =>
    prepare
    discard (become words environment)
    throw missingStatus

/-- Waits for the end of a child; `fuel` bounds the number of children that end first. -/
def awaitChild (pid : Nat) : Nat → Tool Ending
  | 0 => return .code missingStatus
  | fuel + 1 => do
    match (← get).ended.lookup pid with
    | some ending =>
      modify fun s => { s with ended := s.ended.filter fun entry => entry.1 != pid }
      return ending
    | none =>
      match ← ask (.wait true) with
      | .ended child ending => modify fun s => { s with ended := (child, ending) :: s.ended }
      | .childless => return .code missingStatus
      | .nothing | .interrupted => pure ()
      awaitChild pid fuel

/-- The words that let a shell carry out a command. -/
def shellWords (command : String) : List String := ["/bin/sh", "-c", command]

/-- Starts a program whose output is read; gives the descriptor to read from, and its number. -/
def startReading (words : List String) (environment : Environment) :
    Tool (Except IoError (Nat × Nat)) := do
  match ← ask .pipe with
  | .error e => return .error e
  | .ok (out, in_) =>
    let pid ← startChild (do
      close out
      unless in_ = 1 do
        discard (ask (.replace in_ 1))
        close in_) words environment
    close in_
    return .ok (out, pid)

/-- Starts a program that reads what is written to it; gives the descriptor to write to, and its
number. -/
def startWriting (words : List String) (environment : Environment) :
    Tool (Except IoError (Nat × Nat)) := do
  match ← ask .pipe with
  | .error e => return .error e
  | .ok (out, in_) =>
    let pid ← startChild (do
      discard (ask (.close in_))
      discard (ask (.replace out 0))
      discard (ask (.close out))) words environment
    discard (ask (.close out))
    return .ok (in_, pid)

/-- What a shell writes that carries out a command. -/
def outputOf (command : String) (environment : Environment) : Tool (List Char) := do
  match ← startReading (shellWords command) environment with
  | .error _ => return []
  | .ok (out, pid) =>
    let text ← readAll out
    close out
    discard (awaitChild pid partLimit)
    return text.toOption.getD []

end Tool

end DeviceLab.Tools
