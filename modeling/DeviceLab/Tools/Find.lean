import DeviceLab.Shell.Pattern
import DeviceLab.Tools.Facts
import DeviceLab.Tools.Runs

/-!
# Looking for files

* `Find.Test`: what is asked about a file, and what is done with it.
* `Find.run`: the program `find`.
-/

namespace DeviceLab.Tools

open Text Unix

namespace Find

open Tool

/-- How a number is compared with another one. -/
inductive Measure where
  | less (n : Nat)
  | equal (n : Nat)
  | more (n : Nat)
  deriving DecidableEq, Repr

/-- Whether a number is as it should be. -/
def Measure.fits : Measure → Nat → Bool
  | .less n, m => m < n
  | .equal n, m => m = n
  | .more n, m => n < m

/-- What is asked about a file, and what is done with it. -/
inductive Test where
  | always (value : Bool)
  /-- The name, or the whole path, is as a pattern says. -/
  | called (pattern : String) (wholePath ignoresCase : Bool)
  | kind (letter : Char)
  | size (measure : Measure) (unit : Nat)
  | age (measure : Measure) (unit : Nat)
  | links (measure : Measure)
  | empty
  | newer (time : Nat)
  /-- The rights: exactly, all of them, or any of them. -/
  | rights (mode : Nat) (sign : Char)
  | print (ending : String)
  | prune
  | delete
  | quit
  /-- Runs a program for the file, or for many files at once; the number is its place. -/
  | execute (words : List String) (isMany : Bool) (place : Nat)
  | negation (test : Test)
  | both (first second : Test)
  | either (first second : Test)
  /-- The value of the second one. -/
  | then_ (first second : Test)
  deriving Inhabited

/-! ### Reading -/

/-- What is asked for besides the test. -/
structure Options where
  least : Nat := 0
  most : Option Nat := none
  depthFirst : Bool := false
  follows : Bool := false
  /-- Whether anything is done with files, so that they are not shown by themselves. -/
  acts : Bool := false
  /-- The number of programs that are run. -/
  programs : Nat := 0

/-- The reading of a test; the state is what has not been read. -/
abbrev Reading := StateT (List String × Options) Tool

def refuse (detail : String) : Reading α := (fail detail : Tool α)

/-- A word between the marks that stand around names of tests. -/
def marked (word : String) : String := "\x60" ++ word ++ "'"

/-- Goes on by some words. -/
def advance (n : Nat) : Reading Unit := modify fun (rest, options) => (rest.drop n, options)

def setOptions (change : Options → Options) : Reading Unit :=
  modify fun (rest, options) => (rest, change options)

/-- The word behind a test. -/
def argument (test : String) : Reading String := do
  match (← get).1 with
  | word :: _ =>
    advance 1
    return word
  | [] => refuse ("missing argument to " ++ marked test)

/-- A number to be compared with, and what is behind it. -/
def measure? (text : String) : Option (Measure × List Char) :=
  let (make, digits) : (Nat → Measure) × List Char := match text.toList with
    | '+' :: rest => (Measure.more, rest)
    | '-' :: rest => (Measure.less, rest)
    | rest => (Measure.equal, rest)
  let first := digits.takeWhile Char.isDigit
  if first.isEmpty then none
  else some (make ((String.ofList first).toNat?.getD 0), digits.drop first.length)

/-- The size that a letter stands for. -/
def unitOf? : List Char → Option Nat
  | [] | ['b'] => some 512
  | ['c'] => some 1
  | ['w'] => some 2
  | ['k'] => some 1024
  | ['M'] => some 1048576
  | ['G'] => some 1073741824
  | _ => none

/-- Reads a number behind a test. -/
def readMeasure (test : String) : Reading Measure := do
  let text ← argument test
  match measure? text with
  | some (measure, []) => return measure
  | _ => refuse ("invalid argument " ++ marked text ++ " to " ++ marked test)

/-- Reads a test that consists of a single word and its arguments. -/
def readSingle (word : String) : Reading Test := do
  let acts : Reading Unit := setOptions fun o => { o with acts := true }
  let number : Reading Nat := do
    let text ← argument word
    match text.toNat? with
    | some n => return n
    | none => refuse ("Expected a positive decimal integer argument to " ++ word ++ ", but got " ++
        Quote.always text)
  match word with
  | "-true" => return .always true
  | "-false" => return .always false
  | "-name" => return .called (← argument word) false false
  | "-iname" => return .called (← argument word) false true
  | "-path" | "-wholename" => return .called (← argument word) true false
  | "-ipath" => return .called (← argument word) true true
  | "-type" =>
    match (← argument word).toList with
    | [c] =>
      if "bcdpfls".toList.contains c then return .kind c
      refuse ("Unknown argument to -type: " ++ c.toString)
    | _ => refuse "Must separate multiple arguments to -type using: ','"
  | "-size" =>
    let text ← argument word
    match measure? text with
    | some (measure, rest) =>
      match unitOf? rest with
      | some unit => return .size measure unit
      | none => refuse ("Invalid argument " ++ marked text ++ " to -size")
    | none => refuse ("Invalid argument " ++ marked text ++ " to -size")
  | "-mtime" | "-ctime" | "-atime" => return .age (← readMeasure word) 86400
  | "-mmin" | "-cmin" | "-amin" => return .age (← readMeasure word) 60
  | "-links" => return .links (← readMeasure word)
  | "-empty" => return .empty
  | "-newer" =>
    let path ← argument word
    match ← (Tool.status path true : Tool _) with
    | .ok status => return .newer status.modified
    | .error e => refuse (Quote.always path ++ ": " ++ e.reason)
  | "-perm" =>
    let text ← argument word
    let sign := text.toList.headD '0'
    let isSigned := sign == '-' || sign == '/'
    let rest := if isSigned then String.ofList (text.toList.drop 1) else text
    match Mode.read? 0 false 0 rest with
    | some mode => return .rights mode (if isSigned then sign else '=')
    | none => refuse ("invalid mode " ++ marked text)
  | "-print" =>
    acts
    return .print "\n"
  | "-print0" =>
    acts
    return .print "\x00"
  | "-prune" => return .prune
  | "-delete" =>
    acts
    setOptions fun o => { o with depthFirst := true }
    return .delete
  | "-quit" => return .quit
  | "-depth" =>
    setOptions fun o => { o with depthFirst := true }
    return .always true
  | "-maxdepth" =>
    let n ← number
    setOptions fun o => { o with most := some n }
    return .always true
  | "-mindepth" =>
    let n ← number
    setOptions fun o => { o with least := n }
    return .always true
  | "-follow" =>
    setOptions fun o => { o with follows := true }
    return .always true
  | "-mount" | "-xdev" | "-noleaf" => return .always true
  | "-exec" =>
    acts
    let (rest, options) ← get
    let words := rest.takeWhile (· != ";")
    let many := rest.takeWhile (· != "+")
    let place := options.programs
    setOptions fun o => { o with programs := place + 1 }
    if many.length < words.length && many.getLast? == some "\x7b\x7d" then
      advance (many.length + 1)
      return .execute many.dropLast true place
    if words.length = rest.length || words.isEmpty then refuse ("missing argument to " ++ marked word)
    advance (words.length + 1)
    return .execute words false place
  | _ => refuse ("unknown predicate " ++ marked word)

/-- What part of a test is read. -/
inductive Goal where
  | list
  | disjunction
  | conjunction
  | term

/-- Reads a part of a test; `fuel` bounds the number of parts. -/
def readPart : Nat → Goal → Reading Test
  | 0, _ => return .always true
  | fuel + 1, .list => do
    let first ← readPart fuel .disjunction
    match (← get).1 with
    | "," :: _ =>
      advance 1
      return .then_ first (← readPart fuel .list)
    | _ => return first
  | fuel + 1, .disjunction => do
    let first ← readPart fuel .conjunction
    match (← get).1 with
    | "-o" :: _ | "-or" :: _ =>
      advance 1
      return .either first (← readPart fuel .disjunction)
    | _ => return first
  | fuel + 1, .conjunction => do
    let first ← readPart fuel .term
    match (← get).1 with
    | [] | "-o" :: _ | "-or" :: _ | "," :: _ | ")" :: _ => return first
    | "-a" :: _ | "-and" :: _ =>
      advance 1
      return .both first (← readPart fuel .conjunction)
    | _ => return .both first (← readPart fuel .conjunction)
  | fuel + 1, .term => do
    match (← get).1 with
    | [] => refuse "invalid expression; expected another test"
    | word :: _ =>
      advance 1
      match word with
      | "(" =>
        let inside ← readPart fuel .list
        match (← get).1 with
        | ")" :: _ =>
          advance 1
          return inside
        | _ =>
          refuse ("invalid expression; I was expecting to find a ')' somewhere " ++
            "but did not see one.")
      | ")" => refuse "invalid expression; you have too many ')'"
      | "!" | "-not" => return .negation (← readPart fuel .term)
      | "-a" | "-and" | "-o" | "-or" | "," =>
        refuse ("invalid expression; you have used a binary operator " ++ Quote.always word ++
          " with nothing before it.")
      | _ => readSingle word

/-- Reads the whole test. -/
def readTest (words : List String) : Tool (Test × Options) := do
  if words.isEmpty then return (.always true, {})
  let (test, (rest, options)) ← (readPart (8 * words.length + 8) .list).run (words, {})
  unless rest.isEmpty do fail "you have too many ')'"
  return (test, options)

/-! ### Carrying out -/

/-- A file that has been found. -/
structure Item where
  path : String
  status : FileStatus
  depth : Nat

/-- What is kept in mind: the files for programs that are run for many of them, and whether the files
below one are passed over. -/
structure State where
  many : List (Nat × List String × List String) := []
  prunes : Bool := false
  isOver : Bool := false

/-- The search for files. -/
abbrev Finding := StateT State Tool

/-- Whether a text is as a pattern says. -/
def isCalled (pattern text : String) (ignoresCase : Bool) : Bool :=
  let fold (chars : List Char) : List Char := if ignoresCase then chars.map Char.toLower else chars
  Shell.Pattern.accepts ((fold pattern.toList).map fun char => { char }) (fold text.toList)

/-- Runs a program; tells whether it went well. -/
def execute (words : List String) (environment : Environment) : Tool Bool := do
  flush
  match ← ask .fork with
  | none =>
    let e ← become words environment
    complain (Quote.always (words.headD "") ++ ": " ++ e.reason)
    throw 1
  | some pid => return (← Runs.waitFor pid partLimit) = 0

/-- Whether there is nothing in a file or a directory. -/
def isEmpty (item : Item) : Tool Bool := do
  match item.status.kind with
  | .plain => return item.status.size = 0
  | .directory => return (← names item.path).isEmpty
  | _ => return false

/-- The value of a test for a file. -/
def holds (environment : Environment) (item : Item) : Test → Finding Bool
  | .always value => return value
  | .called pattern wholePath ignoresCase =>
    return isCalled pattern (if wholePath then item.path else lastName item.path) ignoresCase
  | .kind letter =>
    return match item.status.kind with
      | .directory => letter == 'd'
      | .plain => letter == 'f'
      | .link => letter == 'l'
      | .device => letter == 'c'
      | .pipe => letter == 'p'
  | .size measure unit => return measure.fits ((item.status.size + unit - 1) / unit)
  | .age measure unit => do
    let now ← (ask .time : Tool Nat)
    return measure.fits ((now - item.status.modified) / (unit * Runs.secondNanos))
  | .links measure => return measure.fits item.status.links
  | .empty => isEmpty item
  | .newer time => return time < item.status.modified
  | .rights mode sign =>
    let common := item.status.mode &&& mode
    return if sign = '-' then common == mode
      else if sign = '/' then mode == 0 || common != 0
      else item.status.mode == mode
  | .print ending => do
    say (item.path ++ ending)
    return true
  | .prune => do
    modify fun s => { s with prunes := true }
    return true
  | .delete => do
    let change := if item.status.kind == .directory then TreeChange.removeDirectory item.path
      else .removeFile item.path
    if item.path = "." then return true
    match ← (Tool.change change : Tool _) with
    | .ok () => return true
    | .error e =>
      warn ("cannot delete " ++ Quote.always item.path ++ ": " ++ e.reason)
      return false
  | .quit => do
    modify fun s => { s with isOver := true }
    return true
  | .execute words isMany place => do
    if isMany then
      modify fun s => { s with many := match s.many.lookup place with
        | some (words, paths) =>
          (place, words, item.path :: paths) :: s.many.filter fun entry => entry.1 != place
        | none => (place, words, [item.path]) :: s.many }
      return true
    execute (words.map (Xargs.filled "\x7b\x7d" item.path)) environment
  | .negation test => return !(← holds environment item test)
  | .both first second => do
    let value ← holds environment item first
    if !value || (← get).isOver then return false
    holds environment item second
  | .either first second => do
    let value ← holds environment item first
    if value || (← get).isOver then return value
    holds environment item second
  | .then_ first second => do
    discard (holds environment item first)
    if (← get).isOver then return false
    holds environment item second

/-- Looks at a file, and at those below it. -/
def visit (environment : Environment) (test : Test) (options : Options) :
    Nat → Nat → String → Finding Unit
  | 0, _, _ => return
  | fuel + 1, depth, path => do
    if (← get).isOver then return
    match ← (Tool.status path options.follows : Tool _) with
    | .error e => warn (Quote.always path ++ ": " ++ e.reason)
    | .ok status =>
      let item : Item := { path, status, depth }
      let look : Finding Unit := do
        if options.least ≤ depth then discard (holds environment item test)
      modify fun s => { s with prunes := false }
      unless options.depthFirst do look
      let enters := status.kind == .directory && options.most.all (depth < ·) &&
        !((← get).prunes && !options.depthFirst)
      if enters then
        for name in ← (names path : Tool _) do
          visit environment test options fuel (depth + 1)
            (if path.endsWith "/" then path ++ name else path ++ "/" ++ name)
      unless (← get).isOver do
        if options.depthFirst then look

def startsTest (word : String) : Bool :=
  (word.startsWith "-" && word != "-") || word = "(" || word = "!" || word = ")" || word = ","

/-- The program. -/
def run (words : List String) (environment : Environment) : Tool Unit := do
  let front := words.takeWhile fun word => word = "-H" || word = "-L" || word = "-P"
  let words := words.drop front.length
  let paths := words.takeWhile fun word => !startsTest word
  let (test, options) ← readTest (words.drop paths.length)
  let options := { options with follows := options.follows || front.contains "-L" }
  let test := if options.acts then test else .both test (.print "\n")
  let visitAll : Finding Unit :=
    (if paths.isEmpty then ["."] else paths).forM (visit environment test options depthLimit 0)
  let (_, s) ← visitAll.run {}
  for (_, words, paths) in s.many.reverse do
    unless ← execute (words ++ paths.reverse) environment do note 1

end Find

end DeviceLab.Tools
