import DeviceLab.Tools.EditScript

/-!
# The line editor

Each line of the input goes through a script; a line that is left at the end of it is written.

* `Edit.fill`: the input, across files.
* `Edit.isFor`: whether a command is for a line.
* `Edit.replaced`: what comes of a replacement.
* `Edit.run`: the program `sed`.
-/

namespace DeviceLab.Tools.Edit

open Text Unix Tool

/-! ### Input and output -/

/-- A line, and whether its end was there. -/
structure Row where
  chars : List Char := []
  isEnded : Bool := true

/-- What is left of the input. -/
structure Input where
  files : List String
  descriptor : Option Nat := none
  /-- Characters that have been read. -/
  ahead : List Char := []
  /-- The file that is read. -/
  name : String := "-"
  /-- Whether the next line is the first one of another file. -/
  isFresh : Bool := false

/-- A file that is written besides the output. -/
structure Sink where
  path : String
  descriptor : Nat
  /-- Whether the last line that was written had no end. -/
  owes : Bool := false

/-- What stands behind a line. -/
inductive Later where
  | text (text : String)
  | file (path : String)
  | row (text : String)

/-- What the editor keeps in mind. -/
structure State where
  input : Input
  row : Row := {}
  /-- The line that has been put aside. -/
  held : Row := {}
  number : Nat := 0
  /-- The end of the range that each command is in: the line, or an address. -/
  ranges : List (Nat × Option Nat) := []
  hasReplaced : Bool := false
  /-- What is written behind the line, the last part first. -/
  later : List Later := []
  /-- What is written, the last part first, if it is to be kept. -/
  kept : Option (List String) := none
  isQuiet : Bool := false
  /-- What ends a line. -/
  ending : Char := '\n'
  /-- Whether every file has lines of its own. -/
  isSeparate : Bool := false
  /-- Whether the last line that was written had no end. -/
  owes : Bool := false
  sinks : List Sink := []
  /-- Files that are read line by line, with what is left of them. -/
  sources : List (String × List Char) := []
  /-- The pattern that was used last. -/
  lastPattern : Option Pattern := none
  /-- The width of lines that are shown without doubt. -/
  width : Nat := 70
  environment : Environment := []

abbrev Editing := StateT State Tool

/-- The first line of some characters, what is left, and whether the line has ended. -/
def firstLine (ending : Char) (text : List Char) : List Char × List Char × Bool :=
  let line := text.takeWhile (· != ending)
  match text.drop line.length with
  | _ :: rest => (line, rest, true)
  | [] => (line, [], false)

/-- Reads on until there is a whole line, or nothing; stops in front of the next file if `stays`. -/
def fill (ending : Char) (stays : Bool) : Nat → Input → Tool Input
  | 0, i => return i
  | fuel + 1, i => do
    if i.ahead.contains ending then return i
    match i.descriptor, i.files with
    | some descriptor, _ =>
      match ← readSome descriptor blockSize with
      | .ok (c :: part) => fill ending stays fuel { i with ahead := i.ahead ++ c :: part }
      | .ok [] =>
        close descriptor
        if i.ahead.isEmpty then fill ending stays fuel { i with descriptor := none }
        else return { i with descriptor := none }
      | .error e =>
        blurt ("read error on " ++ i.name ++ ": " ++ e.reason)
        throw 4
    | none, path :: files =>
      if !i.ahead.isEmpty || stays then return i
      match ← open_ path with
      | .ok descriptor =>
        fill ending stays fuel
          { i with files, descriptor := some descriptor, name := path, isFresh := true }
      | .error e =>
        blurt ("can't read " ++ path ++ ": " ++ e.reason)
        note 2
        fill ending stays fuel { i with files }
    | none, [] => return i

/-- Writes a text as it is. -/
def emitBare (text : String) : Editing Unit := do
  let s ← get
  match s.kept with
  | none => say text
  | some kept => set { s with kept := some (text :: kept) }

/-- Writes the end of the last line, if it is missing. -/
def settle : Editing Unit := do
  let s ← get
  if s.owes then
    set { s with owes := false }
    emitBare s.ending.toString

/-- Writes a text. -/
def emit (text : String) : Editing Unit := do
  settle
  emitBare text

/-- Writes a line. -/
def showRow (row : Row) : Editing Unit := do
  emit (String.ofList row.chars)
  let s ← get
  if row.isEnded then emitBare s.ending.toString else set { s with owes := true }

/-- The file for a path, if it is written besides the output. -/
def sinkOf (s : State) (path : String) : Option Sink := s.sinks.find? fun sink => sink.path == path

/-- Writes a line to a file, or to the output. -/
def storeRow (path : String) (row : Row) : Editing Unit := do
  let s ← get
  match sinkOf s path with
  | none => if path = "/dev/stdout" then showRow row
  | some sink =>
    let front := if sink.owes then s.ending.toString else ""
    let back := if row.isEnded then s.ending.toString else ""
    discard (write sink.descriptor (front ++ String.ofList row.chars ++ back))
    set { s with sinks := s.sinks.map fun (other : Sink) =>
      if other.path = path then { other with owes := !row.isEnded } else other }

/-- Writes what stands behind the line. -/
def emitLater : Editing Unit := do
  let s ← get
  set { s with later := [] }
  for item in s.later.reverse do
    settle
    match item with
    | .text text => emitBare text
    | .row text => emitBare text
    | .file path =>
      match ← open_ (if path = "/dev/stdin" then "-" else path) with
      | .error _ => pure ()
      | .ok descriptor =>
        let text ← readAll descriptor
        close descriptor
        emitBare (String.ofList (text.toOption.getD []))

/-- Takes the next line, if there is one. -/
def nextRow? : Editing (Option Row) := do
  emitLater
  let s ← get
  let input ← fill s.ending false partLimit s.input
  if input.ahead.isEmpty then
    set { s with input }
    return none
  let (chars, ahead, isEnded) := firstLine s.ending input.ahead
  let isNew := input.isFresh && s.isSeparate
  let ranges := if isNew then [] else s.ranges
  set { s with
    input := { input with ahead, isFresh := false }
    number := if isNew then 1 else s.number + 1
    ranges }
  return some { chars, isEnded }

/-- Whether there is no other line. -/
def isLast : Editing Bool := do
  let s ← get
  let input ← fill s.ending s.isSeparate partLimit s.input
  set { s with input }
  return input.ahead.isEmpty

/-- Whether there is no other line in any file. -/
def isVeryLast : Editing Bool := do
  let s ← get
  let input ← fill s.ending false partLimit s.input
  set { s with input }
  return input.ahead.isEmpty

/-- Ends a cycle: the line is written, and what comes behind it. -/
def finishRow (isSilent : Bool) : Editing Unit := do
  let s ← get
  unless s.isQuiet || isSilent do showRow s.row
  emitLater

/-! ### Carrying out -/

/-- The pattern that is meant. -/
def patternFor (wanted : Wanted) : Editing Pattern := do
  match wanted with
  | some pattern =>
    modify fun s => { s with lastPattern := some pattern }
    return pattern
  | none =>
    match (← get).lastPattern with
    | some pattern => return pattern
    | none =>
      blurt "-e expression #1, char 0: no previous regular expression"
      throw 1

/-- A line to be looked through. -/
def lineOf (s : State) (manner : Manner) : Pattern.Line :=
  { chars := s.row.chars.toArray, ignoresCase := manner.ignoresCase
    hasLines := manner.hasLines && s.ending == '\n' }

/-- Whether the line is one that an address is for. -/
def fits (a : Address) : Editing Bool := do
  match a with
  | .line n | .behind n => return (← get).number = n
  | .last => isLast
  | .every first step =>
    let n := (← get).number
    return first ≤ n && (n - first) % step = 0
  | .multiple n => return n != 0 && (← get).number % n = 0
  | .found wanted manner =>
    let pattern ← patternFor wanted
    return (pattern.findFrom (lineOf (← get) manner) 0).isSome

/-- Whether a command is for the line; `n` is its place. -/
def isFor (n : Nat) (c : Command) : Editing Bool := do
  let applies ← match c.first, c.final with
    | none, _ => pure true
    | some first, none => fits first
    | some first, some final => do
      let s ← get
      let inside := s.ranges.lookup n
      let begins ← match first with
        | .line 0 => pure (s.number = 1 && inside.isNone)
        | _ => if inside.isSome then pure false else fits first
      let others := s.ranges.filter fun range => range.1 != n
      let leave : Editing Unit := modify fun s => { s with ranges := others }
      let stay (goal : Option Nat) : Editing Unit :=
        modify fun s => { s with ranges := (n, goal) :: others }
      match inside with
      | some goal =>
        match goal with
        | some goal =>
          if goal ≤ s.number then leave
          if s.number ≤ goal then pure true
          else if first matches .found _ _ then fits first
          else pure false
        | none =>
          if ← fits final then leave
          pure true
      | none =>
        if !begins then pure false
        else
          match final with
          | .line m => if s.number < m then stay (some m)
          | .behind m => if 0 < m then stay (some (s.number + m))
          | .multiple m => if m != 0 && s.number % m != 0 then
              stay (some ((s.number / m + 1) * m))
          | .every _ _ => stay none
          | .last => unless ← isLast do stay none
          | .found _ _ =>
            let ends ← if first matches .line 0 then fits final else pure false
            if ends then leave else stay none
          pure true
  return applies != c.inverts

/-! ### Replacements -/

/-- A text with the case of its letters, and of its first one. -/
def cased (casing : Casing) (first : Option Casing) (text : List Char) : List Char :=
  let change (casing : Casing) (c : Char) : Char := match casing with
    | .same => c
    | .upper => c.toUpper
    | .lower => c.toLower
  match first, text with
  | some first, c :: rest => change first c :: rest.map (change casing)
  | _, _ => text.map (change casing)

/-- What is put in the place of something found; `left` is the case of a first letter that has not
come yet. -/
def filled (found : Nat → List Char) : List Piece → Option Casing → List Char
  | [], _ => []
  | piece :: rest, left =>
    let first := piece.first.or left
    let text := cased piece.casing first piece.text
    let first := if piece.text.isEmpty then first else none
    match piece.group with
    | none => text ++ filled found rest none
    | some n =>
      let group := found n
      let left := if group.isEmpty && piece.first.isSome then first else none
      text ++ cased piece.casing first group ++ filled found rest left

/-- Puts something in the place of what a pattern finds; tells whether there was something. -/
def replaced (pattern : Pattern) (line : Pattern.Line) (r : Replacement) :
    Nat → Nat → Nat → Option Nat → List Char × Bool
  | 0, _, _, _ => ([], false)
  | fuel + 1, place, count, lastEnd =>
    let chars (start behind : Nat) : List Char := (line.chars.extract start behind).toList
    match pattern.findFrom line place with
    | none => (chars place line.chars.size, false)
    | some (start, behind, groups) =>
      let front := chars place start
      if start = behind && lastEnd == some start then
        let (rest, some_) := replaced pattern line r fuel (start + 1) count none
        (front ++ chars start (start + 1) ++ if start < line.chars.size then rest else [],
          some_ && start < line.chars.size)
      else
        let which := r.which.getD 1
        let isWanted := count + 1 = which || r.all && which ≤ count + 1
        let found (n : Nat) : List Char :=
          if n = 0 then chars start behind
          else ((groups.lookup n).map fun (a, b) => chars a b).getD []
        let new := if isWanted then filled found r.pieces none else chars start behind
        if isWanted && !r.all then (front ++ new ++ chars behind line.chars.size, true)
        else if start = behind then
          if line.chars.size ≤ start then (front ++ new, isWanted)
          else
            let (rest, some_) := replaced pattern line r fuel (start + 1) (count + 1) none
            (front ++ new ++ chars start (start + 1) ++ rest, isWanted || some_)
        else
          let (rest, some_) := replaced pattern line r fuel behind (count + 1) (some behind)
          (front ++ new ++ rest, isWanted || some_)

/-! ### Showing without doubt -/

/-- A character without doubt. -/
def shownChar (c : Char) : List Char :=
  match c with
  | '\\' => "\\\\".toList
  | '\x07' => "\\a".toList
  | '\x08' => "\\b".toList
  | '\x0c' => "\\f".toList
  | '\n' => "\\n".toList
  | '\r' => "\\r".toList
  | '\t' => "\\t".toList
  | '\x0b' => "\\v".toList
  | c =>
    if ' ' ≤ c && c ≤ '~' then [c]
    else
      let digits := Nat.toDigits 8 c.toNat
      '\\' :: (List.replicate (3 - digits.length) '0' ++ digits)

/-- A text without doubt, in lines of a width; no width stands for one line. -/
def shownText (width : Nat) (text : List Char) : List Char :=
  let (shown, _) := text.foldl (fun ((shown, filled) : List (List Char) × Nat) c =>
    let new := shownChar c
    if 0 < width && width - 1 < filled + new.length then (new :: ['\\', '\n'] :: shown, new.length)
    else (new :: shown, filled + new.length)) ([], 0)
  shown.reverse.flatten ++ ['$']

/-! ### The script -/

/-- How a cycle goes on. -/
inductive After where
  | here
  /-- Goes on at another place of the script. -/
  | at (n : Nat)
  /-- Ends the cycle; the line may be written. -/
  | cycle (isSilent : Bool)
  /-- Starts over without a new line. -/
  | again
  | quit (isSilent : Bool) (status : Nat)

/-- The place behind the group that opens at a place. -/
def behindGroup (script : Array Command) : Nat → Nat → Nat → Nat
  | 0, n, _ => n
  | fuel + 1, n, depth =>
    match (script[n]?).map Command.deed with
    | none => n
    | some .open_ => behindGroup script fuel (n + 1) (depth + 1)
    | some .close => if depth ≤ 1 then n + 1 else behindGroup script fuel (n + 1) (depth - 1)
    | some _ => behindGroup script fuel (n + 1) depth

/-- The place of a label; a script ends behind its last command. -/
def placeOf (script : Array Command) (name : String) : Nat :=
  (script.findIdx? fun c => match c.deed with
    | .label other => other == name
    | _ => false).getD script.size

/-- Changes the characters of the line. -/
def setChars (chars : List Char) : Editing Unit :=
  modify fun s => { s with row := { s.row with chars } }

/-- One line behind another one; whether it has ended is told by the second one. -/
def Row.behind (ending : Char) (first second : Row) : Row :=
  { chars := first.chars ++ ending :: second.chars, isEnded := second.isEnded }

/-- What a command of the system writes, without the end of its last line. -/
def performed (command : String) : Editing (List Char) := do
  let s ← get
  flush
  let text ← outputOf command s.environment
  return if text.getLast? == some s.ending then text.dropLast else text

/-- Carries out a replacement. -/
def replace (r : Replacement) : Editing Unit := do
  let pattern ← patternFor r.pattern
  let s ← get
  let (chars, some_) :=
    replaced pattern (lineOf s r.manner) r (s.row.chars.length + 2) 0 0 none
  if some_ then
    set { s with row := { s.row with chars }, hasReplaced := true }
    if r.printsFirst && r.isCommand then showRow (← get).row
    if r.isCommand then setChars (← performed (String.ofList chars))
    if r.prints || r.printsFirst && !r.isCommand then showRow (← get).row
    r.path.forM fun path => do storeRow path (← get).row

/-- The next line of a file that is read line by line. -/
def lineFrom (path : String) : Editing (Option String) := do
  let s ← get
  let text ← match s.sources.lookup path with
    | some text => pure text
    | none =>
      match ← open_ (if path = "/dev/stdin" then "-" else path) with
      | .error _ => pure []
      | .ok descriptor =>
        let text ← readAll descriptor
        close descriptor
        pure (text.toOption.getD [])
  let (line, rest, isEnded) := firstLine s.ending text
  set { s with sources := (path, rest) :: s.sources.filter fun source => source.1 != path }
  if text.isEmpty then return none
  return some (String.ofList line ++ if isEnded then s.ending.toString else "")

/-- Carries out one deed; `n` is its place. -/
def carryOut (script : Array Command) (n : Nat) (c : Command) : Editing After := do
  let s ← get
  let later (item : Later) : Editing After := do
    set { s with later := item :: s.later }
    return .here
  match c.deed with
  | .open_ | .close | .label _ | .nothing => return .here
  | .jump name condition =>
    let goes := condition.all (· == s.hasReplaced)
    if condition.isSome then modify fun s => { s with hasReplaced := false }
    return if goes then .at (if name.isEmpty then script.size else placeOf script name) else .here
  | .delete => return .cycle true
  | .deleteFirst =>
    if !s.row.chars.contains s.ending then return .cycle true
    setChars (firstLine s.ending s.row.chars).2.1
    return .again
  | .print =>
    showRow s.row
    return .here
  | .printFirst =>
    showRow { chars := (firstLine s.ending s.row.chars).1 }
    return .here
  | .number =>
    emit (toString s.number ++ "\n")
    return .here
  | .show_ width =>
    emit (String.ofList (shownText (width.getD s.width) s.row.chars) ++ s.ending.toString)
    return .here
  | .next =>
    if ← isVeryLast then return .quit false 0
    finishRow false
    if let some row ← nextRow? then modify fun s => { s with row }
    return .here
  | .nextAlso =>
    if ← isVeryLast then return .quit false 0
    if let some row ← nextRow? then
      modify fun s => { s with row := s.row.behind s.ending row }
    return .here
  | .hold adds =>
    set { s with held := if adds then s.held.behind s.ending s.row else s.row }
    return .here
  | .fetch adds =>
    set { s with row := if adds then s.row.behind s.ending s.held else s.held }
    return .here
  | .swap =>
    set { s with row := s.held, held := s.row }
    return .here
  | .clear =>
    setChars []
    return .here
  | .name =>
    emit (s.input.name ++ "\n")
    return .here
  | .quit isSilent status => return .quit isSilent status
  | .append text => later (.text text)
  | .insert text =>
    emit text
    return .here
  | .change text =>
    let isInside := c.final.isSome && !c.inverts && (s.ranges.lookup n).isSome
    unless isInside do emit text
    return .cycle true
  | .insertFile path => later (.file path)
  | .insertLine path =>
    match ← lineFrom path with
    | some text =>
      modify fun s => { s with later := .row text :: s.later }
      return .here
    | none => return .here
  | .store path onlyFirst =>
    storeRow path (if onlyFirst then { chars := (firstLine s.ending s.row.chars).1 } else s.row)
    return .here
  | .perform command =>
    if command.isEmpty then setChars (← performed (String.ofList s.row.chars))
    else
      settle
      flush
      emitBare (String.ofList (← outputOf command s.environment))
    return .here
  | .map table =>
    setChars (s.row.chars.map fun c => (table.lookup c).getD c)
    return .here
  | .replace r =>
    replace r
    return .here

/-- Goes through the script from a place on. -/
def carryFrom (script : Array Command) : Nat → Nat → Editing After
  | 0, _ => return .quit true 1
  | fuel + 1, n => do
    match script[n]? with
    | none => return .cycle false
    | some c =>
      if ← isFor n c then
        match ← carryOut script n c with
        | .here => carryFrom script fuel (n + 1)
        | .at m => carryFrom script fuel m
        | other => return other
      else if c.deed matches .open_ then
        carryFrom script fuel (behindGroup script (script.size + 1) n 0)
      else carryFrom script fuel (n + 1)

/-- Goes through all lines; gives the status of an early end. -/
def carryAll (script : Array Command) : Nat → Bool → Editing (Option Nat)
  | 0, _ => return some 1
  | fuel + 1, hasLine => do
    let row ← if hasLine then pure (some (← get).row) else nextRow?
    match row with
    | none => return none
    | some row =>
      modify fun s => { s with row, hasReplaced := false }
      match ← carryFrom script partLimit 0 with
      | .quit isSilent status =>
        if isSilent && status = 0 then modify fun s => { s with later := [] }
        finishRow isSilent
        return some status
      | .again =>
        finishRow true
        carryAll script fuel true
      | .cycle isSilent =>
        finishRow isSilent
        carryAll script fuel false
      | .here | .at _ => carryAll script fuel false

/-! ### Starting -/

/-- The options. -/
def table : OptionTable where
  letters := "bsnrzuEe:f:l:i::V:hs"
  names := [("binary", .no, 'b'), ("quiet", .no, 'n'), ("silent", .no, 'n'),
    ("expression", .required, 'e'), ("file", .required, 'f'), ("regexp-extended", .no, 'E'),
    ("in-place", .possible, 'i'), ("line-length", .required, 'l'), ("separate", .no, 's'),
    ("unbuffered", .no, 'u'), ("null-data", .no, 'z'), ("zero-terminated", .no, 'z'),
    ("posix", .no, 'p'), ("follow-symlinks", .no, 'F'), ("sandbox", .no, 'S')]

/-- Tells how the program is used. -/
def usage : String :=
  "Usage: sed [OPTION]... \x7bscript-only-if-no-other-script\x7d [input-file]...\n"

/-- Ends because of something that is wrong with the script. -/
def failFor (flaw : Flaw) : Tool α := do
  blurt flaw.detail
  throw flaw.status

/-- Reads all parts of the script. -/
def readScript (isExtended : Bool) (parts : List (Origin × String)) :
    Tool (Array Command × Bool) := do
  let s ← parts.foldlM (fun s (origin, text) => do
    match readPart s origin text with
    | .ok s => return s
    | .error flaw => failFor flaw) { isExtended }
  match s.conclude with
  | .ok script => return (script, s.isQuiet)
  | .error flaw => failFor flaw

/-- The part of a script that an option gives; `n` is its number. -/
def partOf (n : Nat) (given : Given) : Tool (Origin × String) := do
  if given.letter = 'e' then return (.word (n + 1), given.argument)
  match ← open_ given.argument with
  | .error e =>
    blurt ("couldn't open file " ++ given.argument ++ ": " ++ e.reason)
    throw 4
  | .ok descriptor =>
    let text ← readAll descriptor
    close descriptor
    let text := text.toOption.getD []
    let text := if text.getLast? == some '\n' then text.dropLast else text
    return (.file given.argument, String.ofList text)

/-- The paths of the files that a script writes. -/
def pathsOf (script : Array Command) : List String :=
  (script.toList.filterMap fun c => match c.deed with
    | .store path _ => some path
    | .replace r => r.path
    | _ => none).eraseDups

/-- Opens the files that a script writes. -/
def openSinks (script : Array Command) : Tool (List Sink) := do
  let paths := (pathsOf script).filter (· != "/dev/stdout")
  paths.mapM fun path => do
    if path = "/dev/stderr" then return { path, descriptor := 2 }
    match ← ask (.openFile path .writing) with
    | .ok descriptor => return { path, descriptor }
    | .error e =>
      blurt ("couldn't open file " ++ path ++ ": " ++ e.reason)
      throw 4

/-- Edits a file in its place: what would have been written is its new content.  Gives the status of an
early end. -/
def editInPlace (script : Array Command) (start : State) (suffix path : String) :
    Tool (Option Nat) := do
  match ← ask (.status path true) with
  | .error e =>
    blurt ("can't read " ++ path ++ ": " ++ e.reason)
    note 2
    return none
  | .ok status =>
    if status.kind != .plain then
      blurt ("couldn't edit " ++ path ++ ": not a regular file")
      note 4
      return none
    else
      let (ended, s) ← (carryAll script partLimit false).run
        { start with input := { files := [path] }, kept := some [] }
      let backup := if suffix.toList.contains '*' then
          (Path.parent? path).getD "" ++ (if path.toList.contains '/' then "/" else "") ++
            ((Path.names path).getLastD "").intercalate (suffix.splitOn "*")
        else path ++ suffix
      unless suffix.isEmpty do discard (change (.rename path backup))
      let temporary := path ++ ".sed"
      match ← ask (.openFile temporary .writing) with
      | .error e =>
        blurt ("couldn't open temporary file " ++ temporary ++ ": " ++ e.reason)
        throw 4
      | .ok descriptor =>
        discard (write descriptor (String.join (s.kept.getD []).reverse))
        discard (change (.setMode temporary status.mode))
        close descriptor
        discard (change (.rename temporary path))
      return ended

/-- Edits files in their places, one after the other. -/
def editEach (script : Array Command) (start : State) (suffix : String) : List String → Tool Unit
  | [] => return
  | path :: rest => do
    match ← editInPlace script start suffix path with
    | some status => note status
    | none => editEach script start suffix rest

/-- The program. -/
def run (words : List String) (environment : Environment) : Tool Unit := do
  let (options, operands) ← match table.readFrom words [] [] with
    | .ok found => pure found
    | .error detail =>
      blurt detail
      tell usage
      throw 1
  let given := options.filter fun given => given.letter = 'e' || given.letter = 'f'
  let parts ← if given.isEmpty then
      match operands with
      | [] =>
        tell usage
        throw 1
      | script :: _ => pure [(.word 1, script)]
    else (given.zip (List.range given.length)).mapM fun (given, n) => partOf n given
  let isExtended := isGiven options 'E' || isGiven options 'r'
  let (script, isQuiet) ← readScript isExtended parts
  let width ← match lastOf? options 'l' with
    | none => pure 70
    | some text =>
      match text.toNat? with
      | some n => pure n
      | none =>
        blurt ("invalid line length: " ++ text)
        throw 1
  let files := orInput (if given.isEmpty then operands.drop 1 else operands)
  let sinks ← openSinks script
  let start : State :=
    { input := { files }, isQuiet := isQuiet || isGiven options 'n', width, sinks, environment
      ending := if isGiven options 'z' then Char.ofNat 0 else '\n'
      isSeparate := isGiven options 's' }
  match lastOf? options 'i' with
  | some suffix =>
    if operands.length ≤ (if given.isEmpty then 1 else 0) then
      blurt "no input files"
      throw 4
    editEach script { start with isSeparate := true } suffix files
  | none =>
    let (status, _) ← (carryAll script partLimit false).run start
    if let some status := status then note status

end DeviceLab.Tools.Edit
