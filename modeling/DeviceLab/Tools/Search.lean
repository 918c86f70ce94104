import DeviceLab.Text.Path
import DeviceLab.Tools.Patterns
import DeviceLab.Tools.Trees

/-!
# Programs that look for patterns

* `Grep.run`: the lines in which a pattern is found.
-/

namespace DeviceLab.Tools

open Text Unix

namespace Grep

open Tool

/-- How a pattern is written. -/
inductive Writing where
  | basic
  | extended
  | plain
  deriving DecidableEq, Repr

/-- What is looked for, and what is told about it. -/
structure Plan where
  patterns : List Pattern
  options : List Given
  /-- The number of lines after which the search ends. -/
  most : Option Nat := none
  /-- The numbers of lines that are shown around a line. -/
  before : Nat := 0
  after : Nat := 0
  showsNames : Bool := false

/-- Whether an option was given. -/
def Plan.has (p : Plan) (letter : Char) : Bool := isGiven p.options letter

/-- What ends a line. -/
def Plan.ending (p : Plan) : Char := if p.has 'z' then Char.ofNat 0 else '\n'

/-- Whether only the fact is told that there is such a line. -/
def Plan.isBrief (p : Plan) : Bool := p.has 'q' || p.has 'l' || p.has 'L'

/-- How far the search in a file has come. -/
structure Progress where
  /-- The number of lines so far, and of bytes. -/
  number : Nat := 0
  offset : Nat := 0
  found : Nat := 0
  /-- The last lines, which have not been shown, the last one first. -/
  recent : List (Nat × Nat × List Char) := []
  /-- How many lines are still to be shown behind the last one found. -/
  pending : Nat := 0
  /-- The number of the last line that was shown. -/
  shown : Nat := 0
  isBinary : Bool := false

/-! ### Finding -/

/-- The part of a line at a place that a pattern accepts as the options want it. -/
def partAt (p : Plan) (line : Pattern.Line) (n : Nat) (pattern : Pattern) : Option Nat :=
  let fits (m : Nat) : Bool :=
    if p.has 'x' then n = 0 && m = line.chars.size
    else if p.has 'w' then !line.isWordBefore n && !line.isWordAt m
    else true
  (pattern.accept line (Pattern.stepsFor line) n [] fun m groups =>
    if fits m then some (m, groups) else none).map (·.1)

/-- The first part of a line from a place on that one of the patterns accepts. -/
def partFrom (p : Plan) (line : Pattern.Line) (n : Nat) : Option (Nat × Nat) :=
  let places := if p.has 'x' then [n] else List.range' n (line.chars.size + 1 - n)
  places.findSome? fun n =>
    let ends := p.patterns.filterMap (partAt p line n)
    if ends.isEmpty then none else some (n, ends.foldl max 0)

/-- All parts of a line that the patterns accept, without empty ones. -/
def partsOf (p : Plan) (line : Pattern.Line) : Nat → Nat → List (Nat × Nat)
  | 0, _ => []
  | fuel + 1, n =>
    match partFrom p line n with
    | none => []
    | some (start, behind) =>
      if start < behind then (start, behind) :: partsOf p line fuel behind
      else partsOf p line fuel (start + 1)

/-! ### Showing -/

/-- What stands in front of a line. -/
def front (p : Plan) (name : String) (number offset : Nat) (sign : String) : String :=
  (if p.showsNames then name ++ sign else "") ++
    (if p.has 'n' then toString number ++ sign else "") ++
    (if p.has 'b' then toString offset ++ sign else "")

def showLine (p : Plan) (name sign : String) (line : Nat × Nat × List Char) : Tool Unit :=
  say (front p name line.1 line.2.1 sign ++ String.ofList line.2.2 ++ p.ending.toString)

/-- Shows a line that was found, with the lines before it. -/
def showFound (p : Plan) (name : String) (s : Progress) (text : List Char) : Tool Progress := do
  let line : Pattern.Line := { chars := text.toArray, ignoresCase := p.has 'i' }
  if p.has 'o' then
    unless p.has 'v' do
      for (start, behind) in partsOf p line (text.length + 1) 0 do
        let part := (text.drop start).take (behind - start)
        showLine p name ":" (s.number, s.offset + start, part)
    return s
  let recent := s.recent.reverse
  let first := (recent.head?.map (·.1)).getD s.number
  if (0 < p.before || 0 < p.after) && 0 < s.shown && s.shown + 1 < first then say "--\n"
  recent.forM (showLine p name "-")
  showLine p name ":" (s.number, s.offset, text)
  return { s with recent := [], pending := p.after, shown := s.number }

/-- Goes on with one line; tells whether the search is over. -/
def takeLine (p : Plan) (name : String) (s : Progress) (text : List Char) :
    Tool (Progress × Bool) := do
  let line : Pattern.Line := { chars := text.toArray, ignoresCase := p.has 'i' }
  let s := { s with number := s.number + 1 }
  let next (s : Progress) : Progress := { s with offset := s.offset + text.length + 1 }
  if (partFrom p line 0).isSome != p.has 'v' then
    let s := { s with found := s.found + 1 }
    if p.isBrief then return (next s, true)
    let isOver := p.most.any (· ≤ s.found)
    if p.has 'c' then return (next s, isOver)
    if s.isBinary then
      sayLine ((← get).name ++ ": " ++ name ++ ": binary file matches")
      return (next s, true)
    return (next (← showFound p name s text), isOver)
  if 0 < s.pending && !p.has 'c' && !p.has 'o' then
    showLine p name "-" (s.number, s.offset, text)
    return (next { s with pending := s.pending - 1, shown := s.number }, false)
  let recent := ((s.number, s.offset, text) :: s.recent).take p.before
  return (next { s with recent }, false)

/-- Goes on with several lines. -/
def takeLines (p : Plan) (name : String) : Progress → List (List Char) → Tool (Progress × Bool)
  | s, [] => return (s, false)
  | s, line :: rest => do
    let (s, isOver) ← takeLine p name s line
    if isOver then return (s, true) else takeLines p name s rest

/-- Searches a file, part by part; `open_` is the start of a line whose end has not been read. -/
def searchParts (p : Plan) (name : String) (descriptor : Nat) :
    Nat → Progress → List Char → Tool (Except IoError Progress)
  | 0, s, _ => return .ok s
  | fuel + 1, s, begun => do
    match ← readSome descriptor blockSize with
    | .error e => return .error e
    | .ok [] =>
      if begun.isEmpty then return .ok s
      let (s, _) ← takeLine p name s begun
      return .ok s
    | .ok part =>
      let s := { s with
        isBinary := s.isBinary || !p.has 'a' && !p.has 'z' && part.contains (Char.ofNat 0) }
      let text := begun ++ part
      let last := (text.reverse.takeWhile (· != p.ending)).reverse
      let whole := text.take (text.length - last.length)
      let (s, isOver) ← takeLines p name s (linesBy p.ending whole)
      if isOver then return .ok s else searchParts p name descriptor fuel s last

/-- Shows the lines behind the last one that was found, if the search ended there. -/
def conclude (p : Plan) (name : String) (s : Progress) : Tool Unit := do
  let isFound := 0 < s.found
  if p.has 'c' && !p.isBrief then
    say ((if p.showsNames then name ++ ":" else "") ++ toString s.found ++ "\n")
  if p.has 'l' && isFound && !p.has 'q' then sayLine name
  if p.has 'L' && !isFound && !p.has 'q' then sayLine name

/-! ### Files -/

/-- Complains about a file, unless that is not wanted. -/
def warnAbout (p : Plan) (name : String) (e : IoError) : Tool Unit := do
  unless p.has 's' do complain (name ++ ": " ++ e.reason)
  note 2

/-- Searches a file that has been opened; tells whether something was found. -/
def searchOpen (p : Plan) (name : String) (descriptor : Nat) : Tool Bool := do
  if p.most = some 0 then return false
  match ← searchParts p name descriptor partLimit {} [] with
  | .error e =>
    warnAbout p name e
    return false
  | .ok s =>
    conclude p name s
    return if p.has 'L' then s.found = 0 else 0 < s.found

/-- Searches a file, or all files in a directory. -/
def searchPath (p : Plan) (isRecursive : Bool) : Nat → String → Tool Bool
  | 0, _ => return false
  | fuel + 1, path => do
    let isFolder ← if isRecursive && path != "-" then isDirectory path else pure false
    if isFolder then
      (← names path).foldlM (fun found name => do
        return (← searchPath p true fuel (Path.join path name)) || found) false
    else
      match ← open_ path with
      | .error e =>
        warnAbout p path e
        return false
      | .ok descriptor =>
        let name := if path = "-" then "(standard input)" else path
        let found ← searchOpen p name descriptor
        close descriptor
        if found && p.has 'q' then
          throw 0
        return found

/-! ### Options -/

/-- The options. -/
def table : OptionTable where
  letters := "EFGPivyclLnoqshHwxe:f:m:A:B:C:rRabzIU"
  names := [("regexp", .required, 'e'), ("file", .required, 'f'), ("ignore-case", .no, 'i'),
    ("word-regexp", .no, 'w'), ("line-regexp", .no, 'x'), ("null-data", .no, 'z'),
    ("no-messages", .no, 's'), ("invert-match", .no, 'v'), ("max-count", .required, 'm'),
    ("byte-offset", .no, 'b'), ("line-number", .no, 'n'), ("line-buffered", .no, 'u'),
    ("with-filename", .no, 'H'), ("no-filename", .no, 'h'), ("only-matching", .no, 'o'),
    ("quiet", .no, 'q'), ("silent", .no, 'q'), ("text", .no, 'a'), ("recursive", .no, 'r'),
    ("files-without-match", .no, 'L'), ("files-with-matches", .no, 'l'), ("count", .no, 'c'),
    ("after-context", .required, 'A'), ("before-context", .required, 'B'),
    ("context", .required, 'C'), ("extended-regexp", .no, 'E'), ("fixed-strings", .no, 'F'),
    ("basic-regexp", .no, 'G'), ("perl-regexp", .no, 'P'), ("color", .possible, '0'),
    ("colour", .possible, '0')]

/-- Tells how the program is used, and ends. -/
def failUsage : Tool α := do
  tell ("Usage: " ++ (← get).name ++ " [OPTION]... PATTERNS [FILE]...\n")
  Tool.failUsage

/-- A pattern in one way of writing, or what is wrong with it. -/
def patternOf (writing : Writing) (text : List Char) : Except String Pattern.Found :=
  if writing = .plain then .ok { pattern := Pattern.ofText text, groups := 0, oddities := [] }
  else Pattern.read (writing = .extended) false text

/-- A number behind an option. -/
def numberOf (options : List Given) (letters : List Char) (complaint : String → String) :
    Tool (Option Nat) := do
  match (options.filter fun given => letters.contains given.letter).getLast? with
  | none => return none
  | some given =>
    match given.argument.toNat? with
    | some n => return some n
    | none => fail (complaint given.argument)

/-- The texts of the patterns, line by line. -/
def textsOf (options : List Given) : Tool (List (List Char)) := do
  let parts ← options.mapM fun given => do
    match given.letter with
    | 'e' => return given.argument.splitOn "\n" |>.map String.toList
    | 'f' =>
      match ← open_ given.argument with
      | .error e => fail (given.argument ++ ": " ++ e.reason)
      | .ok descriptor =>
        let text ← readAll descriptor
        close descriptor
        return Tool.lines (text.toOption.getD [])
    | _ => return []
  return parts.flatten

/-- The program. -/
def run (usual : Writing) (words : List String) : Tool Unit := do
  modify fun s => { s with name := "grep", failStatus := 2 }
  let (options, operands) ← match table.readFrom words [] [] with
    | .ok found => pure found
    | .error detail =>
      complain detail
      failUsage
  let hasPattern := isGiven options 'e' || isGiven options 'f'
  if !hasPattern && operands.isEmpty then failUsage
  let context (detail : String) : String := detail ++ ": invalid context length argument"
  let after ← numberOf options ['A', 'C'] context
  let before ← numberOf options ['B', 'C'] context
  let most ← numberOf options ['m'] fun _ => "invalid max count"
  let texts ← if hasPattern then textsOf options
    else pure ((operands.headD "").splitOn "\n" |>.map String.toList)
  let files := if hasPattern then operands else operands.drop 1
  let writing := options.foldl (fun w given => match given.letter with
    | 'E' | 'P' => .extended
    | 'F' => .plain
    | 'G' => .basic
    | _ => w) usual
  let patterns ← texts.mapM fun text => do
    match patternOf writing text with
    | .ok found =>
      found.oddities.forM fun oddity => complain ("warning: " ++ oddity)
      return found.pattern
    | .error e => fail e
  let isRecursive := isGiven options 'r' || isGiven options 'R'
  let showsNames := match (options.filter fun g => g.letter = 'h' || g.letter = 'H').getLast? with
    | some given => given.letter = 'H'
    | none => 1 < files.length || isRecursive
  let options := if isGiven options 'y' then { letter := 'i' } :: options else options
  let plan : Plan := { patterns, options, most, before := before.getD 0, after := after.getD 0
                       showsNames }
  let found ← if isRecursive && files.isEmpty then
      (← names ".").foldlM (fun found name => do
        return (← searchPath plan true depthLimit name) || found) false
    else
      (orInput files).foldlM (fun found path => do
        return (← searchPath plan isRecursive depthLimit path) || found) false
  unless found do note 1

end Grep

end DeviceLab.Tools
