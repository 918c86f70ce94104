import DeviceLab.Tools.Search

/-!
# Scripts of the line editor

A script says what is done with each line of the input.  It may be given in several parts.

* `Edit.Command`: one command of a script, with the lines that it is for.
* `Edit.readPart`: one part of a script as it is written.
* `Edit.Reader.conclude`: the whole script, once all parts have been read.
-/

namespace DeviceLab.Tools.Edit

open Text Unix

/-- What a pattern is: nothing stands for the one that was used last. -/
abbrev Wanted := Option Pattern

/-- How letters are told apart, and whether the lines of a text count. -/
structure Manner where
  ignoresCase : Bool := false
  hasLines : Bool := false
  deriving Inhabited

/-- What a line has to be. -/
inductive Address where
  | line (n : Nat)
  | last
  /-- Every so many lines from one on. -/
  | every (first step : Nat)
  | found (pattern : Wanted) (manner : Manner)
  /-- So many lines behind the first one of a range. -/
  | behind (n : Nat)
  /-- The next line whose number is a multiple. -/
  | multiple (n : Nat)
  deriving Inhabited

/-- The case of letters in a part of what is put in the place of something found. -/
inductive Casing where
  | same
  | upper
  | lower
  deriving DecidableEq, Repr, Inhabited

/-- A part of what is put in the place of something found: a text, and what a group has found, with
the case of its letters and of its first one. -/
structure Piece where
  text : List Char := []
  group : Option Nat := none
  casing : Casing := .same
  first : Option Casing := none
  deriving Inhabited

/-- What is put in the place of something found. -/
structure Replacement where
  pattern : Wanted
  manner : Manner
  pieces : List Piece
  /-- Which of the places it is; nothing stands for the first one. -/
  which : Option Nat := none
  all : Bool := false
  /-- Whether the line is shown, before or after it was carried out. -/
  prints : Bool := false
  printsFirst : Bool := false
  /-- Whether the line is carried out as a command. -/
  isCommand : Bool := false
  /-- A file that the line is written to. -/
  path : Option String := none
  deriving Inhabited

/-- What is done. -/
inductive Deed where
  | open_
  | close
  | label (name : String)
  /-- Goes on behind a label, always, or depending on whether something was replaced. -/
  | jump (name : String) (condition : Option Bool)
  | delete
  | deleteFirst
  | print
  | printFirst
  | number
  | show_ (width : Option Nat)
  | next
  | nextAlso
  | hold (adds : Bool)
  | fetch (adds : Bool)
  | swap
  | clear
  | name
  | quit (isSilent : Bool) (status : Nat)
  | append (text : String)
  | insert (text : String)
  | change (text : String)
  | insertFile (path : String)
  | insertLine (path : String)
  | store (path : String) (onlyFirst : Bool)
  /-- Carries out a command, or else the line itself. -/
  | perform (command : String)
  | map (table : List (Char × Char))
  | replace (r : Replacement)
  | nothing
  deriving Inhabited

/-- A command: the lines that it is for, and what is done with them. -/
structure Command where
  first : Option Address := none
  final : Option Address := none
  inverts : Bool := false
  deed : Deed
  deriving Inhabited

/-! ### Reading -/

/-- Where a part of a script comes from: a word, by its number, or a file. -/
inductive Origin where
  | word (n : Nat)
  | file (path : String)
  deriving Inhabited

/-- What is wrong with a script, and the status. -/
structure Flaw where
  detail : String
  status : Nat := 1

/-- What is left of a part of a script, and what has been read. -/
structure Reader where
  rest : List Char := []
  isExtended : Bool := false
  origin : Origin := .word 1
  /-- The number of characters that have been taken, and of line ends among them. -/
  taken : Nat := 0
  row : Nat := 1
  /-- The groups that are open, by where they were opened. -/
  groups : List (Origin × Nat) := []
  /-- The commands, the last one first. -/
  commands : List Command := []
  /-- The letter and the text of the last command, if its text may go on in the next part. -/
  pending : Option (Char × String) := none
  /-- Whether lines are shown only where the script says so. -/
  isQuiet : Bool := false
  isFirstPart : Bool := true
  deriving Inhabited

/-- The reading of a part of a script, or what is wrong. -/
abbrev Reading := EStateM Flaw Reader

/-- A place in a script, in words. -/
def placeText (origin : Origin) (taken row : Nat) : String :=
  match origin with
  | .word n => "-e expression #" ++ toString n ++ ", char " ++ toString taken ++ ": "
  | .file path => "file " ++ path ++ " line " ++ toString row ++ ": "

/-- Says what is wrong. -/
def wrong (detail : String) : Reading α := do
  let s ← get
  throw { detail := placeText s.origin s.taken s.row ++ detail }

/-- A name between the marks that complaints have for it. -/
def marked (name : String) : String := "\x60" ++ name ++ "'"

/-- Takes characters. -/
def advance (n : Nat) : Reading Unit := modify fun s =>
  let front := s.rest.take n
  { s with rest := s.rest.drop n, taken := s.taken + front.length
           row := s.row + (front.filter (· == '\n')).length }

/-- The next character, which is not taken. -/
def peek? : Reading (Option Char) := return (← get).rest.head?

def next? : Reading (Option Char) := do
  let c ← peek?
  advance 1
  return c

def skip (test : Char → Bool) : Reading Unit := do
  advance ((← get).rest.takeWhile test).length

def isBlank (c : Char) : Bool := c = ' ' || c = '\t'

/-- Whether a character is a blank or the end of a line. -/
def isSpace (c : Char) : Bool := Wc.isSpace c

/-- The next character behind blanks. -/
def nextFilled? : Reading (Option Char) := do
  skip isBlank
  next?

/-- The characters that fit, which are taken. -/
def takeWhile (test : Char → Bool) : Reading (List Char) := do
  let front := (← get).rest.takeWhile test
  advance front.length
  return front

def readNumber : Reading Nat := do
  return (String.ofList (← takeWhile Char.isDigit)).toNat?.getD 0

/-! ### Escapes -/

/-- The character that an escape stands for, behind its backslash, and what is behind it. -/
def escape? : List Char → Option (Char × List Char)
  | 'a' :: rest => some ('\x07', rest)
  | 'f' :: rest => some ('\x0c', rest)
  | 'r' :: rest => some ('\r', rest)
  | 't' :: rest => some ('\t', rest)
  | 'v' :: rest => some ('\x0b', rest)
  | 'c' :: '\\' :: '\\' :: rest => some ('\x1c', rest)
  | 'c' :: c :: rest => some (Char.ofNat (c.toUpper.toNat ^^^ 64), rest)
  | 'd' :: rest => (digits? 10 3 rest).map fun (n, rest) => (Char.ofNat (n % 256), rest)
  | 'o' :: rest => (digits? 8 3 rest).map fun (n, rest) => (Char.ofNat (n % 256), rest)
  | 'x' :: rest => (digits? 16 2 rest).map fun (n, rest) => (Char.ofNat (n % 256), rest)
  | _ => none

/-- A text in which escapes have been carried out; what else is behind a backslash keeps it. -/
def carriedOut : Nat → List Char → List Char
  | 0, text => text
  | _, [] => []
  | fuel + 1, '\\' :: rest =>
    match escape? rest, rest with
    | some (c, rest), _ => c :: carriedOut fuel rest
    | none, c :: rest => '\\' :: c :: carriedOut fuel rest
    | none, [] => ['\\']
  | fuel + 1, c :: rest => c :: carriedOut fuel rest

/-- A text in which escapes have been carried out, and other backslashes left out. -/
def stripped : Nat → List Char → List Char
  | 0, text => text
  | _, [] => []
  | fuel + 1, '\\' :: rest =>
    match escape? rest, rest with
    | some (c, rest), _ => c :: stripped fuel rest
    | none, 'n' :: rest => '\n' :: stripped fuel rest
    | none, c :: rest => c :: stripped fuel rest
    | none, [] => []
  | fuel + 1, c :: rest => c :: stripped fuel rest

/-! ### Patterns -/

/-- The inside of a set between brackets, with its end; the whole text if there is none. -/
def setText (text : List Char) : List Char :=
  let front := if text.head? == some '^' then ['^'] else []
  let front := front ++ if (text.drop front.length).head? == some ']' then [']'] else []
  front ++ inside (text.length + 1) (text.drop front.length)
where
  /-- What is left of the inside. -/
  inside : Nat → List Char → List Char
    | 0, _ => []
    | _, [] => []
    | _, ']' :: _ => [']']
    | fuel + 1, '[' :: sign :: rest =>
      if sign = ':' || sign = '.' || sign = '=' then
        let name := rest.takeWhile (· != sign)
        match rest.drop name.length with
        | _ :: ']' :: behind =>
          '[' :: sign :: (name ++ sign :: ']' :: inside fuel behind)
        | _ => '[' :: inside fuel (sign :: rest)
      else '[' :: inside fuel (sign :: rest)
    | fuel + 1, c :: rest => c :: inside fuel rest

/-- The text up to a sign, which can be hidden by a backslash; none if there is no such sign in the
line. -/
def textUpTo (sign : Char) (isPattern : Bool) : Nat → List Char → Reading (Option (List Char))
  | 0, _ => return none
  | fuel + 1, found => do
    match ← peek? with
    | none => return none
    | some '\n' => return none
    | some '\\' =>
      advance 1
      match ← next? with
      | none => return none
      | some c =>
        let new := if c = 'n' && isPattern && sign != 'n' then ['\n']
          else if c = '\n' || c = sign && (isPattern || c != '&') then [c]
          else [c, '\\']
        textUpTo sign isPattern fuel (new ++ found)
    | some c =>
      advance 1
      if c = sign then return some found.reverse
      else if c = '[' && isPattern then
        let inside := setText (← get).rest
        advance inside.length
        textUpTo sign isPattern fuel (inside.reverse ++ '[' :: found)
      else textUpTo sign isPattern fuel (c :: found)

/-- A set between brackets, in which the end of a line may be written as an escape. -/
def withLineEnds : List Char → Bool → List Char
  | [], _ => []
  | '\\' :: 'n' :: rest, true => '\n' :: withLineEnds rest true
  | '\\' :: c :: rest, false => '\\' :: c :: withLineEnds rest false
  | '[' :: rest, _ => '[' :: withLineEnds rest true
  | ']' :: rest, _ => ']' :: withLineEnds rest false
  | c :: rest, inSet => c :: withLineEnds rest inSet

/-- A pattern that has been taken from the script, with the number of its groups. -/
def patternOf (text : List Char) (manner : Manner) : Reading (Wanted × Nat) := do
  if text.isEmpty then
    if manner.ignoresCase || manner.hasLines then wrong "cannot specify modifiers on empty regexp"
    return (none, 9)
  let text := carriedOut (text.length + 1) (withLineEnds text false)
  match Pattern.read (← get).isExtended true text with
  | .ok found => return (some found.pattern, found.groups)
  | .error e =>
    if e = Pattern.misplacedClass then throw { detail := e, status := 4 }
    wrong e

/-! ### Addresses -/

/-- The marks behind an address that is a pattern. -/
def readManner : Nat → Manner → Reading Manner
  | 0, manner => return manner
  | fuel + 1, manner => do
    skip isBlank
    match ← peek? with
    | some 'I' =>
      advance 1
      readManner fuel { manner with ignoresCase := true }
    | some 'M' =>
      advance 1
      readManner fuel { manner with hasLines := true }
    | _ => return manner

/-- An address, if there is one. -/
def readAddress (isSecond : Bool) : Reading (Option Address) := do
  let s ← get
  let stepped (make : Nat → Address) : Reading (Option Address) := do
    advance 1
    skip isBlank
    let n ← readNumber
    if isSecond then return some (make n)
    else throw { detail := placeText s.origin (s.taken + 2) s.row ++
      "invalid usage of +N or ~N as first address" }
  match s.rest with
  | '$' :: _ =>
    advance 1
    return some .last
  | '+' :: _ => stepped .behind
  | '~' :: _ => stepped .multiple
  | '/' :: _ | '\\' :: _ :: _ =>
    let sign := if s.rest.head? == some '/' then '/' else (s.rest.drop 1).headD '/'
    advance (if s.rest.head? == some '/' then 1 else 2)
    match ← textUpTo sign true (s.rest.length + 1) [] with
    | none => wrong "unterminated address regex"
    | some text =>
      let manner ← readManner (s.rest.length + 1) {}
      return some (.found (← patternOf text manner).1 manner)
  | c :: _ =>
    if !c.isDigit then return none
    let n ← readNumber
    skip isBlank
    if (← peek?) == some '~' then
      advance 1
      skip isBlank
      let step ← readNumber
      return some (if step = 0 then .line n else .every n step)
    return some (.line n)
  | [] => return none

/-! ### Texts -/

/-- The rest of a line, and of the next one if the line ends in a backslash; tells whether the part
ended in a backslash. -/
def rawText : Nat → List Char → Reading (List Char × Bool)
  | 0, found => return (found.reverse, false)
  | fuel + 1, found => do
    match ← next? with
    | none | some '\n' => return (found.reverse, false)
    | some '\\' =>
      match ← next? with
      | none => return (found.reverse, true)
      | some c => rawText fuel (c :: '\\' :: found)
    | some c => rawText fuel (c :: found)

/-- A text for a command, which may go on in the next part of the script. -/
def readText (letter : Char) (before : String) : Reading String := do
  let (raw, isOpen) ← rawText ((← get).rest.length + 1) []
  let text := before ++ String.ofList (stripped (raw.length + 1) raw) ++ "\n"
  if isOpen then modify fun s => { s with pending := some (letter, text) }
  return text

/-- The text for a command that writes it. -/
def readLines (letter : Char) : Reading String := do
  skip isBlank
  match (← get).rest with
  | [] => wrong ("expected \\ after " ++ marked "a" ++ ", " ++ marked "c" ++ " or " ++ marked "i")
  | ['\\'] =>
    advance 1
    modify fun s => { s with pending := some (letter, "") }
    return ""
  | '\\' :: '\n' :: _ =>
    advance 2
    if (← get).rest.isEmpty then
      return "\n"
    readText letter ""
  | '\\' :: _ =>
    advance 1
    readText letter ""
  | _ => readText letter ""

/-- What is put in the place of something found, with the greatest number of a group.  The letters
behind a backslash change the case of what comes next, or of all that comes. -/
def pieces : Nat → List Char → List Char → Casing → Option Casing → List Piece
  | 0, _, _, _, _ => []
  | _, [], text, casing, first =>
    if text.isEmpty then [] else [{ text := text.reverse, casing, first }]
  | fuel + 1, '&' :: rest, text, casing, first =>
    { text := text.reverse, group := some 0, casing, first } :: pieces fuel rest [] casing none
  | fuel + 1, '\\' :: rest, text, casing, first =>
    let ended : List Piece :=
      if text.isEmpty then [] else [{ text := text.reverse, casing, first }]
    match rest with
    | 'U' :: rest => ended ++ pieces fuel rest [] .upper none
    | 'L' :: rest => ended ++ pieces fuel rest [] .lower none
    | 'E' :: rest => ended ++ pieces fuel rest [] .same none
    | 'u' :: rest => ended ++ pieces fuel rest [] casing (some .upper)
    | 'l' :: rest => ended ++ pieces fuel rest [] casing (some .lower)
    | 'n' :: rest => pieces fuel rest ('\n' :: text) casing first
    | [] => pieces fuel [] ('\\' :: text) casing first
    | c :: others =>
      if c.isDigit then
        { text := text.reverse, group := some (c.toNat - 48), casing, first } ::
          pieces fuel others [] casing none
      else
        match escape? rest with
        | some (c, rest) => pieces fuel rest (c :: text) casing first
        | none => pieces fuel others (c :: text) casing first
  | fuel + 1, c :: rest, text, casing, first => pieces fuel rest (c :: text) casing first

/-- The name of a file, up to the end of the line. -/
def readPath : Reading String := do
  skip isBlank
  let name ← takeWhile (· != '\n')
  if name.isEmpty then wrong "missing filename in r/R/w/W commands"
  return String.ofList name

/-- The marks behind a replacement. -/
def readMarks : Nat → Replacement → Reading Replacement
  | 0, r => return r
  | fuel + 1, r => do
    match ← next? with
    | none | some '\n' | some ';' => return r
    | some 'i' | some 'I' => readMarks fuel { r with manner := { r.manner with ignoresCase := true } }
    | some 'm' | some 'M' => readMarks fuel { r with manner := { r.manner with hasLines := true } }
    | some 'e' => readMarks fuel { r with isCommand := true }
    | some 'p' =>
      if r.prints || r.printsFirst then
        wrong ("multiple " ++ marked "p" ++ " options to " ++ marked "s" ++ " command")
      readMarks fuel
        (if r.isCommand then { r with prints := true } else { r with printsFirst := true })
    | some 'g' =>
      if r.all then wrong ("multiple " ++ marked "g" ++ " options to " ++ marked "s" ++ " command")
      readMarks fuel { r with all := true }
    | some 'w' => return { r with path := some (← readPath) }
    | some c =>
      if c.isDigit then
        if r.which.isSome then
          wrong ("multiple number options to " ++ marked "s" ++ " command")
        modify fun s => { s with rest := c :: s.rest, taken := s.taken - 1 }
        let n ← readNumber
        if n = 0 then wrong ("number option to " ++ marked "s" ++ " command may not be zero")
        readMarks fuel { r with which := some n }
      else if c = '\x7d' || c = '#' then
        modify fun s => { s with rest := c :: s.rest, taken := s.taken - 1 }
        return r
      else if isBlank c then readMarks fuel r
      else wrong ("unknown option to " ++ marked "s")

/-- A replacement, behind its letter. -/
def readReplacement : Reading Deed := do
  let fuel := (← get).rest.length + 1
  let unterminated {α : Type} : Reading α := wrong ("unterminated " ++ marked "s" ++ " command")
  match ← next? with
  | none | some '\n' | some '\\' => unterminated
  | some sign =>
    match ← textUpTo sign true fuel [] with
    | none => unterminated
    | some source =>
      match ← textUpTo sign false fuel [] with
      | none => unterminated
      | some target =>
        let parts := pieces (target.length + 1) target [] .same none
        let r ← readMarks fuel { pattern := none, manner := {}, pieces := parts }
        let (pattern, groups) ← patternOf source r.manner
        let most := parts.foldl (fun most part => max most (part.group.getD 0)) 0
        if groups < most then
          wrong ("invalid reference \\" ++ toString most ++ " on " ++ marked "s" ++
            " command's RHS")
        return .replace { r with pattern }

/-- A table of characters, behind its letter. -/
def readMap : Reading Deed := do
  let fuel := (← get).rest.length + 1
  let unterminated {α : Type} : Reading α := wrong ("unterminated " ++ marked "y" ++ " command")
  match ← next? with
  | none => unterminated
  | some sign =>
    match ← textUpTo sign false fuel [] with
    | none => unterminated
    | some source =>
      match ← textUpTo sign false fuel [] with
      | none => unterminated
      | some target =>
        let source := stripped fuel source
        let target := stripped fuel target
        if source.length != target.length then
          wrong ("strings for " ++ marked "y" ++ " command are different lengths")
        return .map (source.zip target)

/-- A name up to the end of a command. -/
def readName : Reading String := do
  skip isBlank
  return String.ofList (← takeWhile fun c => !isSpace c && c != ';' && c != '\x7d')

/-- Sees to it that a command ends here. -/
def readEnd : Reading Unit := do
  skip isBlank
  match ← peek? with
  | none | some '\x7d' | some '#' => return
  | some '\n' | some ';' => advance 1
  | some _ =>
    advance 1
    wrong "extra characters after command"

/-- A number that may stand behind a letter. -/
def readWidth : Reading (Option Nat) := do
  skip isBlank
  if (← peek?).any Char.isDigit then return some (← readNumber) else return none

/-- What a command does, once its letter is known. -/
def readDeed (letter : Char) (hasAddress hasRange : Bool) : Reading Deed := do
  let simple (deed : Deed) : Reading Deed := do
    readEnd
    return deed
  match letter with
  | '\x7b' =>
    modify fun s => { s with groups := (s.origin, s.row) :: s.groups }
    return .open_
  | '\x7d' =>
    if (← get).groups.isEmpty then wrong ("unexpected " ++ marked "\x7d")
    if hasAddress then wrong (marked "\x7d" ++ " doesn't want any addresses")
    modify fun s => { s with groups := s.groups.drop 1 }
    simple .close
  | ':' =>
    if hasAddress then wrong ": doesn't want any addresses"
    skip isBlank
    let name ← takeWhile fun c => !isSpace c && c != ';' && c != '\x7d'
    if name.isEmpty then wrong "\":\" lacks a label"
    return .label (String.ofList name)
  | 'b' => return .jump (← readName) none
  | 't' => return .jump (← readName) (some true)
  | 'T' => return .jump (← readName) (some false)
  | 'd' => simple .delete
  | 'D' => simple .deleteFirst
  | 'p' => simple .print
  | 'P' => simple .printFirst
  | '=' => simple .number
  | 'l' =>
    let width ← readWidth
    simple (.show_ width)
  | 'n' => simple .next
  | 'N' => simple .nextAlso
  | 'h' => simple (.hold false)
  | 'H' => simple (.hold true)
  | 'g' => simple (.fetch false)
  | 'G' => simple (.fetch true)
  | 'x' => simple .swap
  | 'z' => simple .clear
  | 'F' => simple .name
  | 'q' | 'Q' =>
    if hasRange then wrong "command only uses one address"
    let status ← readWidth
    simple (.quit (letter = 'Q') (status.getD 0))
  | 'a' => return .append (← readLines letter)
  | 'i' => return .insert (← readLines letter)
  | 'c' => return .change (← readLines letter)
  | 'r' => return .insertFile (← readPath)
  | 'R' => return .insertLine (← readPath)
  | 'w' => return .store (← readPath) false
  | 'W' => return .store (← readPath) true
  | 'e' =>
    skip isBlank
    let command ← takeWhile (· != '\n')
    advance 1
    return .perform (String.ofList command)
  | 's' => readReplacement
  | 'y' =>
    let deed ← readMap
    simple deed
  | c => wrong ("unknown command: " ++ marked c.toString)

/-! ### Parts of a script -/

def enter (command : Command) : Reading Unit :=
  modify fun s => { s with commands := command :: s.commands }

/-- The addresses in front of a command. -/
def readAddresses : Reading (Option Address × Option Address) := do
  match ← readAddress false with
  | none => return (none, none)
  | some first =>
    skip isBlank
    let final ← if (← peek?) == some ',' then do
        advance 1
        skip isBlank
        match ← readAddress true with
        | some address => pure (some address)
        | none =>
          advance 1
          wrong ("unexpected " ++ marked ",")
      else pure none
    skip isBlank
    if first matches .line 0 then
      unless final matches some (.found _ _) do
        advance 1
        wrong "invalid usage of line address 0"
    return (some first, final)

/-- A comment, behind its sign; one at the very start can say that lines are not shown. -/
def readComment : Reading Unit := do
  let s ← get
  let isStart := s.isFirstPart && s.taken = 1
  let text ← takeWhile (· != '\n')
  if isStart && text.head? == some 'n' then modify fun s => { s with isQuiet := true }

/-- Whether a text names a version of the editor that is newer than this one. -/
def isNewer (text : String) : Bool :=
  let numbers := (text.splitOn ".").map fun part => part.toNat?.getD 0
  let number (n : Nat) : Nat := numbers.getD n 0
  4 < number 0 || 4 = number 0 && 9 < number 1 || 4 = number 0 && 9 = number 1 && 0 < number 2

/-- Reads the commands of a part of a script. -/
def readCommands : Nat → Reading Unit
  | 0 => return
  | fuel + 1 => do
    skip fun c => isSpace c || c = ';'
    if (← peek?).isNone then return
    let (first, final) ← readAddresses
    let inverts := (← peek?) == some '!'
    if inverts then
      advance 1
      skip isBlank
      if (← peek?) == some '!' then
        advance 1
        wrong ("multiple " ++ marked "!" ++ "s")
    match ← next? with
    | none => wrong "missing command"
    | some '#' =>
      if first.isSome then wrong "comments don't accept any addresses"
      readComment
    | some 'v' =>
      if isNewer (← readName) then wrong "expected newer version of sed"
    | some letter =>
      let deed ← readDeed letter first.isSome final.isSome
      enter { first, final, inverts, deed }
    readCommands fuel

/-- A command with another text. -/
def Command.withText (c : Command) (text : String) : Command :=
  { c with deed := match c.deed with
      | .append _ => .append text
      | .insert _ => .insert text
      | .change _ => .change text
      | deed => deed }

/-- Goes on with the text of the last command. -/
def readPending : Reading Unit := do
  match (← get).pending with
  | none => return
  | some (letter, before) =>
    modify fun s => { s with pending := none }
    let text ← readText letter before
    modify fun s =>
      match s.commands with
      | last :: rest => { s with commands := last.withText text :: rest }
      | [] => s

/-- Reads one part of a script behind those before it, or tells what is wrong. -/
def readPart (s : Reader) (origin : Origin) (text : String) : Except Flaw Reader :=
  let s := { s with rest := text.toList, origin, taken := 0, row := 1 }
  let reading : Reading Unit := do
    readPending
    readCommands (text.length + 1)
  match reading.run s with
  | .ok _ s => .ok { s with isFirstPart := false }
  | .error e _ => .error e

/-- Whether a script has a label. -/
def hasLabel (commands : List Command) (name : String) : Bool :=
  commands.any fun c => match c.deed with
    | .label other => other == name
    | _ => false

/-- The whole script, once all parts have been read, or what is wrong. -/
def Reader.conclude (s : Reader) : Except Flaw (Array Command) :=
  match s.groups with
  | (origin, row) :: _ => .error { detail := placeText origin 0 row ++ "unmatched " ++ marked "\x7b" }
  | [] =>
    let missing := s.commands.reverse.findSome? fun c => match c.deed with
      | .jump name _ => if name.isEmpty || hasLabel s.commands name then none else some name
      | _ => none
    match missing with
    | some name => .error { detail := "can't find label for jump to " ++ marked name, status := 4 }
    | none => .ok s.commands.reverse.toArray

end DeviceLab.Tools.Edit
