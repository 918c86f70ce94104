import DeviceLab.Shell.Format
import DeviceLab.Tools.Trees

/-!
# Programs that show what is known about files

Programs that list directories, follow links, and take paths apart: `ls`, `stat`, `readlink`,
`realpath`, `basename`, `dirname`, `pwd`.
-/

namespace DeviceLab.Tools

open Text Unix

/-! ### Days -/

/-- A point in time by the calendar. -/
structure Moment where
  year : Nat
  month : Nat
  day : Nat
  hour : Nat
  minute : Nat
  second : Nat
  /-- The number of the day, counted from the first of January 1970. -/
  number : Nat

/-- The moment at a number of seconds. -/
def Moment.ofSeconds (seconds : Nat) : Moment :=
  let number := seconds / 86400
  let rest := seconds % 86400
  let date := CalendarDay.ofNumber number
  { year := date.year.toNat, month := date.month, day := date.day, hour := rest / 3600
    minute := rest / 60 % 60, second := rest % 60, number }

def monthNames : List String :=
  ["January", "February", "March", "April", "May", "June", "July", "August", "September", "October",
    "November", "December"]

def dayNames : List String :=
  ["Sunday", "Monday", "Tuesday", "Wednesday", "Thursday", "Friday", "Saturday"]

namespace Moment

/-- The day of the week, from zero on Sunday. -/
def weekday (m : Moment) : Nat := (m.number + 4) % 7

/-- The day of the year, from one on. -/
def yearDay (m : Moment) : Nat :=
  (m.number - (CalendarDay.number { year := m.year, month := 1, day := 1 }) + 1).toNat

/-- A number in two digits. -/
def two (n : Nat) : String := padLeft 2 (toString n) '0'

/-- What a letter stands for in a form for moments. -/
def field? (m : Moment) (nanos : Nat) (letter : Char) : Option String :=
  let clock := s!"{two m.hour}:{two m.minute}"
  let month := monthNames.getD (m.month - 1) ""
  let day := dayNames.getD m.weekday ""
  let half := if m.hour % 12 = 0 then 12 else m.hour % 12
  let short (name : String) : String := String.ofList (name.toList.take 3)
  match letter with
  | 'Y' => some (toString m.year)
  | 'y' => some (two (m.year % 100))
  | 'C' => some (two (m.year / 100))
  | 'm' => some (two m.month)
  | 'd' => some (two m.day)
  | 'e' => some (padLeft 2 (toString m.day) ' ')
  | 'H' => some (two m.hour)
  | 'I' => some (two half)
  | 'k' => some (padLeft 2 (toString m.hour) ' ')
  | 'l' => some (padLeft 2 (toString half) ' ')
  | 'M' => some (two m.minute)
  | 'S' => some (two m.second)
  | 'N' => some (padLeft 9 (toString nanos) '0')
  | 's' => some (toString (m.number * 86400 + m.hour * 3600 + m.minute * 60 + m.second))
  | 'j' => some (padLeft 3 (toString m.yearDay) '0')
  | 'a' => some (short day)
  | 'A' => some day
  | 'b' | 'h' => some (short month)
  | 'B' => some month
  | 'p' => some (if m.hour < 12 then "AM" else "PM")
  | 'P' => some (if m.hour < 12 then "am" else "pm")
  | 'u' => some (toString (if m.weekday = 0 then 7 else m.weekday))
  | 'w' => some (toString m.weekday)
  | 'F' => some s!"{m.year}-{two m.month}-{two m.day}"
  | 'D' | 'x' => some s!"{two m.month}/{two m.day}/{two (m.year % 100)}"
  | 'T' | 'X' => some s!"{clock}:{two m.second}"
  | 'R' => some clock
  | 'c' =>
    some (s!"{short day} {short month} " ++ padLeft 2 (toString m.day) ' ' ++
      s!" {clock}:{two m.second} {m.year}")
  | 'Z' => some "UTC"
  | 'z' => some "+0000"
  | 'n' => some "\n"
  | 't' => some "\t"
  | '%' => some "%"
  | _ => none

/-- A moment in a form. -/
def shown (m : Moment) (nanos : Nat) : List Char → List Char
  | '%' :: '-' :: c :: rest =>
    let text := ((m.field? nanos c).map String.toList).getD ['%', '-', c]
    let bare := text.dropWhile fun c => c == '0' || c == ' '
    (if bare.isEmpty then text.getLast?.toList else bare) ++ m.shown nanos rest
  | '%' :: c :: rest =>
    ((m.field? nanos c).map String.toList).getD ['%', c] ++ m.shown nanos rest
  | c :: rest => c :: m.shown nanos rest
  | [] => []

end Moment

/-- A time of a file in a form. -/
def dateText (nanos : Nat) (format : String) : String :=
  let m := Moment.ofSeconds (nanos / Touch.second)
  String.ofList (m.shown (nanos % Touch.second) format.toList)

/-! ### Lists of files -/

/-- The letter for what a file is. -/
def kindLetter : FileKind → Char
  | .directory => 'd'
  | .plain => '-'
  | .link => 'l'
  | .device => 'c'
  | .pipe => 'p'

namespace Ls

/-- A file in a list. -/
structure Item where
  name : String
  path : String
  status : FileStatus
  /-- What a link leads to. -/
  target : Option String := none

/-- The names of the options with their letters. -/
def table : OptionTable :=
  { letters := "aAbBcCdfFgGhHiIklLmnNopqQrRsStTuUvw:xXZ1"
    names := [("all", .no, 'a'), ("almost-all", .no, 'A'), ("directory", .no, 'd'),
      ("classify", .possible, 'F'), ("file-type", .no, '3'), ("human-readable", .no, 'h'),
      ("inode", .no, 'i'), ("numeric-uid-gid", .no, 'n'), ("reverse", .no, 'r'),
      ("recursive", .no, 'R'), ("size", .no, 's'), ("sort", .required, '2'),
      ("color", .possible, '4'), ("quote-name", .no, 'Q'), ("dereference", .no, 'L'),
      ("no-group", .no, 'G'), ("literal", .no, 'N'), ("format", .required, '5')] }

/-- What is known about a file in a list. -/
def itemOf? (options : List Given) (isOperand isLong : Bool) (name path : String) :
    Tool (Option Item) := do
  let follows := isGiven options 'L' || isGiven options 'H' && isOperand
  let opens := isOperand && !isLong && !isGiven options 'd' && !isGiven options 'F'
  let found ← if follows then Tool.status path true
    else if opens then do
      match ← Tool.status path true with
      | .ok status =>
        if status.kind = .directory then pure (.ok status) else Tool.status path false
      | .error _ => Tool.status path false
    else Tool.status path false
  match found with
  | .error e =>
    Tool.complain ("cannot access " ++ Quote.always path ++ ": " ++ e.reason)
    Tool.note (if isOperand then 2 else 1)
    return none
  | .ok status =>
    let target ← if status.kind = .link then
        return some { name, path, status, target := (← Tool.ask (.readLink path)).toOption }
      else pure none
    return some { name, path, status, target }

/-- Whether one file stands in front of another one. -/
def isBefore (options : List Given) (a b : Item) : Bool :=
  let byName := decide (a.name ≤ b.name)
  let order := (lastOf? options '2').getD ""
  if isGiven options 'U' || order == "none" then true
  else if isGiven options 'S' || order == "size" then
    if a.status.size = b.status.size then byName else b.status.size < a.status.size
  else if isGiven options 't' || order == "time" then
    if a.status.modified = b.status.modified then byName
    else b.status.modified < a.status.modified
  else byName

/-- Files in their order. -/
def sorted (options : List Given) (items : List Item) : List Item :=
  let items := items.mergeSort (isBefore options)
  if isGiven options 'r' then items.reverse else items

/-- The number of kilobytes that a file takes up. -/
def blocks (status : FileStatus) : Nat :=
  match status.kind with
  | .plain | .directory => (status.size + 4095) / 4096 * 4
  | _ => 0

/-- A size in few figures. -/
def humanSize (n : Nat) : String :=
  let rec go (n : Nat) (tenths : Nat) : List String → String
    | [] => toString n
    | unit :: units =>
      if tenths < 100 then s!"{tenths / 10}.{tenths % 10}{unit}"
      else if tenths ≤ 10230 then s!"{(tenths + 9) / 10}{unit}"
      else go n ((tenths + 1023) / 1024) units
  if n < 1024 then toString n
  else go n ((n * 10 + 1023) / 1024) ["K", "M", "G", "T", "P"]

/-- What is shown behind a name. -/
def mark (options : List Given) (item : Item) : String :=
  let isFull := isGiven options 'F'
  let isType := isFull || isGiven options '3'
  match item.status.kind with
  | .directory => if isType || isGiven options 'p' then "/" else ""
  | .link => if isType then "@" else ""
  | .pipe => if isType then "|" else ""
  | .plain => if isFull && item.status.isExecutable then "*" else ""
  | .device => ""

/-- A name as it is shown. -/
def shownName (options : List Given) (item : Item) : String :=
  let name := if isGiven options 'Q' then "\"" ++ item.name ++ "\"" else item.name
  name ++ mark options item

/-- What is shown in front of names. -/
def front (options : List Given) (items : List Item) (item : Item) : String :=
  let widest (value : Item → String) : Nat := items.foldl (fun n i => max n (value i).length) 0
  let column (letter : Char) (value : Item → String) : String :=
    if isGiven options letter then padLeft (widest value) (value item) ' ' ++ " " else ""
  let size (item : Item) : String :=
    let n := blocks item.status
    if isGiven options 'h' then if n = 0 then "0" else humanSize (n * 1024) else toString n
  column 'i' (fun item => toString item.status.number) ++ column 's' size

/-- A line with everything that is known about a file. -/
def longLine (options : List Given) (items : List Item) (item : Item) : String :=
  let widest (value : Item → String) : Nat := items.foldl (fun n i => max n (value i).length) 0
  let column (value : Item → String) : String := padLeft (widest value) (value item) ' '
  let size (item : Item) : String :=
    if isGiven options 'h' then humanSize item.status.size else toString item.status.size
  let user := if isGiven options 'n' then "0" else "root"
  let owner := if isGiven options 'g' then "" else user ++ " "
  let group := if isGiven options 'o' || isGiven options 'G' then "" else user ++ " "
  let arrow := (item.target.map fun target => " -> " ++ target).getD ""
  let name := if item.status.kind = .link then
      (if isGiven options 'Q' then "\"" ++ item.name ++ "\"" else item.name) ++ arrow
    else shownName options item
  (kindLetter item.status.kind).toString ++ Mode.shown item.status.mode ++ " " ++
    column (fun item => toString item.status.links) ++ " " ++ owner ++ group ++ column size ++ " " ++
    dateText item.status.modified "%b %e %H:%M" ++ " " ++ name

/-- The lines of names in columns; `across` tells that neighbours stand side by side. -/
def columns (across : Bool) (width : Nat) (names : List String) : List String :=
  let count := names.length
  let cell (rows cols r c : Nat) : Option String :=
    let n := if across then r * cols + c else c * rows + r
    if c < cols then names[n]? else none
  let widths (rows cols : Nat) : List Nat :=
    (List.range cols).map fun c =>
      ((List.range rows).filterMap fun r => (cell rows cols r c).map String.length).foldl max 0
  let fits (cols : Nat) : Bool :=
    let rows := (count + cols - 1) / cols
    let used := if across then cols else (count + rows - 1) / rows
    (widths rows cols).foldl (· + ·) 0 + 2 * (used - 1) < width
  let cols := (((List.range count).map (· + 1)).filter fits).getLast?.getD 1
  let rows := (count + cols - 1) / max 1 cols
  (List.range rows).map fun r =>
    let cells := (List.range cols).filterMap fun c =>
      (cell rows cols r c).map fun name => (c, name)
    String.join (cells.map fun (c, name) =>
      if c + 1 = cells.length then name else padRight ((widths rows cols).getD c 0 + 2) name)

/-- Shows files. -/
def showItems (options : List Given) (isLong : Bool) (items : List Item) : Tool Unit := do
  let last := (options.filter fun given => "C1xml".toList.contains given.letter).getLast?
  if isLong then
    items.forM fun item => Tool.sayLine (front options items item ++ longLine options items item)
  else
    let names := items.map fun item => front options items item ++ shownName options item
    match last.map (·.letter) with
    | some 'm' => unless names.isEmpty do Tool.sayLine (", ".intercalate names)
    | some 'C' => (columns false 80 names).forM Tool.sayLine
    | some 'x' => (columns true 80 names).forM Tool.sayLine
    | _ => names.forM Tool.sayLine

/-- The files in a directory. -/
def itemsIn (options : List Given) (isLong : Bool) (path : String) : Tool (List Item) := do
  let all := isGiven options 'a' || isGiven options 'f'
  let hidden := all || isGiven options 'A'
  let names := (if all then [".", ".."] else []) ++ (← Tool.names path)
  let names := names.filter fun name => hidden || !name.startsWith "."
  let needs := isLong || ["i", "s", "S", "t", "F", "p", "R", "L"].any fun letter =>
    isGiven options (letter.toList.headD 'i')
  names.filterMapM fun name => do
    let whole := Path.join path name
    if needs then return ← itemOf? options false isLong name whole
    let unknown : FileStatus :=
      { kind := .plain, mode := 0, size := 0, modified := 0, number := 0, links := 1 }
    return some { name, path := whole, status := unknown }

/-- Shows a directory, and perhaps those below it. -/
def showDirectory (options : List Given) (isLong isNamed : Bool) :
    Nat → Bool → String → Tool Unit
  | 0, _, _ => return
  | fuel + 1, isFirst, path => do
    match ← Tool.ask (.list path) with
    | .error e =>
      Tool.complain ("cannot open directory " ++ Quote.always path ++ ": " ++ e.reason)
      Tool.note 2
    | .ok _ =>
      if isNamed then
        Tool.say ((if isFirst then "" else "\n") ++ Quote.file path ++ ":\n")
      let items := sorted options (← itemsIn options isLong path)
      if isLong || isGiven options 's' then
        let total := items.foldl (fun n item => n + blocks item.status) 0
        Tool.sayLine ("total " ++ if isGiven options 'h' && 0 < total then humanSize (total * 1024)
          else toString total)
      showItems options isLong items
      if isGiven options 'R' then
        items.forM fun item => do
          if item.status.kind == .directory && item.name != "." && item.name != ".." then
            showDirectory options isLong isNamed fuel false item.path

/-- Lists files. -/
def run (words : List String) : Tool Unit := do
  modify fun s => { s with failStatus := 2 }
  let (options, operands) ← table.read words
  let isLong := (options.filter fun given => "lgon1Cxm".toList.contains given.letter).any fun given =>
    "lgon".toList.contains given.letter
  let operands := if operands.isEmpty then ["."] else operands
  let items ← operands.filterMapM fun path => itemOf? options true isLong path path
  let (directories, files) := if isGiven options 'd' then ([], items)
    else items.partition fun item => item.status.kind == .directory
  let files := sorted options files
  let directories := sorted options directories
  showItems options isLong files
  let isNamed := 1 < operands.length || isGiven options 'R'
  discard <| directories.foldlM (fun isFirst item => do
    showDirectory options isLong isNamed depthLimit isFirst item.path
    return false) files.isEmpty

end Ls

namespace Stat

/-- What a file is called. -/
def kindName (status : FileStatus) : String :=
  match status.kind with
  | .directory => "directory"
  | .plain => if status.size = 0 then "regular empty file" else "regular file"
  | .link => "symbolic link"
  | .device => "character special file"
  | .pipe => "fifo"

/-- How wide a part of a form is, and how it is filled up. -/
structure Field where
  flags : List Char := []
  width : Nat := 0
  precision : Option Nat := none

/-- The field at the start of some characters behind a percent sign, and what is behind it. -/
def fieldOf (text : List Char) : Field × List Char :=
  let flags := text.takeWhile fun c => "-+ #0'".toList.contains c
  let text := text.drop flags.length
  let width := text.takeWhile Char.isDigit
  let text := text.drop width.length
  let number (digits : List Char) : Nat := (String.ofList digits).toNat?.getD 0
  match text with
  | '.' :: rest =>
    let digits := rest.takeWhile Char.isDigit
    ({ flags, width := number width, precision := some (number digits) }, rest.drop digits.length)
  | _ => ({ flags, width := number width }, text)

/-- A value in a field; only numbers are filled up with zeros. -/
def Field.shown (f : Field) (isNumber : Bool) (value : String) : String :=
  let value := match f.precision with
    | some n => if isNumber then String.ofList (List.replicate (n - value.length) '0') ++ value
      else String.ofList (value.toList.take n)
    | none => value
  let room := f.width - value.length
  if f.flags.contains '-' then value ++ String.ofList (List.replicate room ' ')
  else
    let filler := if f.flags.contains '0' && isNumber then '0' else ' '
    String.ofList (List.replicate room filler) ++ value

/-- The bits of the kind of a file. -/
def kindBits : FileKind → Nat
  | .directory => 0o040000
  | .plain => 0o100000
  | .link => 0o120000
  | .device => 0o020000
  | .pipe => 0o010000

/-- The number of the device that holds all files. -/
def deviceNumber : Nat := 65024

/-- What a letter of a form stands for, and whether that is a number. -/
def valueOf? (path : String) (target : Option String) (s : FileStatus) (f : Field) (c : Char) :
    Option (String × Bool) :=
  let number (n : Nat) : Option (String × Bool) := some (toString n, true)
  let text (t : String) : Option (String × Bool) := some (t, false)
  let hexadecimal (n : Nat) : String := String.ofList (Nat.toDigits 16 n)
  match c with
  | 'n' => text path
  | 'N' => text (Quote.always path ++ ((target.map fun t => " -> " ++ Quote.always t).getD ""))
  | 's' => number s.size
  | 'F' => text (kindName s)
  | 'a' =>
    let digits := String.ofList (Nat.toDigits 8 s.mode)
    some (if f.flags.contains '#' then "0" ++ digits else digits, true)
  | 'A' => text ((kindLetter s.kind).toString ++ Mode.shown s.mode)
  | 'f' => some (hexadecimal (kindBits s.kind ||| s.mode), true)
  | 'h' => number s.links
  | 'i' => number s.number
  | 'u' | 'g' | 't' | 'T' | 'r' | 'R' => some ("0", true)
  | 'U' | 'G' => text "root"
  | 'd' => number deviceNumber
  | 'D' => some (hexadecimal deviceNumber, true)
  | 'm' => text "/"
  | 'b' => number (Ls.blocks s * 2)
  | 'B' => number 512
  | 'o' => number 4096
  | 'X' | 'Y' | 'Z' | 'W' =>
    let seconds := toString (s.modified / Touch.second)
    match f.precision with
    | none => some (seconds, true)
    | some n =>
      let digits := toString (s.modified % Touch.second)
      let nanos := List.replicate (9 - digits.length) '0' ++ digits.toList
      let count := if n = 0 then 9 else n
      text (seconds ++ "." ++ String.ofList (nanos.take count))
  | 'x' | 'y' | 'z' | 'w' => text (dateText s.modified "%Y-%m-%d %H:%M:%S.%N %z")
  | _ => none

/-- What is known about a file system in a form. -/
def systemValue? (path : String) (_ : Option String) (_ : FileStatus) (_ : Field) (c : Char) :
    Option (String × Bool) :=
  match c with
  | 'n' => some (path, false)
  | 'T' => some ("ext2/ext3", false)
  | 'l' => some ("255", true)
  | 's' | 'S' => some ("4096", true)
  | 't' => some ("ef53", true)
  | 'i' | 'a' | 'b' | 'c' | 'd' | 'f' => some ("0", true)
  | _ => none

/-- What is known about a file in a form; `escapes` tells whether a backslash is special there. -/
def shown (value? : Field → Char → Option (String × Bool)) (escapes : Bool) :
    Nat → List Char → Tool (List Char)
  | 0, _ => return []
  | _, [] => return []
  | fuel + 1, '%' :: '%' :: rest => return '%' :: (← shown value? escapes fuel rest)
  | _ + 1, ['%'] => return ['%']
  | fuel + 1, '%' :: rest => do
    let (field, behind) := fieldOf rest
    let bad {α : Type} : Tool α :=
      Tool.fail (Quote.always ("%" ++ String.ofList (rest.take (rest.length - behind.length))) ++
        ": invalid directive")
    match behind with
    | [] => bad
    | c :: rest =>
      let text := match value? field c with
        | some (value, isNumber) => if (".XYZW".toList.contains c) && field.precision.isSome then
            { field with precision := none }.shown isNumber value
          else field.shown isNumber value
        | none => "?"
      return text.toList ++ (← shown value? escapes fuel rest)
  | fuel + 1, '\\' :: c :: rest => do
    if !escapes then return '\\' :: (← shown value? escapes fuel (c :: rest))
    if c = '"' then return '"' :: (← shown value? escapes fuel rest)
    if c = 'x' then
      match digits? 16 2 rest with
      | some (n, rest) => return Char.ofNat n :: (← shown value? escapes fuel rest)
      | none => pure ()
    let (d, behind) := Shell.Format.escape (c :: rest)
    if behind.length = rest.length + 1 then
      Tool.complain ("warning: unrecognized escape '\\" ++ c.toString ++ "'")
      return c :: (← shown value? escapes fuel rest)
    return d :: (← shown value? escapes fuel behind)
  | fuel + 1, c :: rest => return c :: (← shown value? escapes fuel rest)

/-- The form in which everything is told. -/
def usual : String :=
  "  Size: %-10s\tBlocks: %-10b IO Block: %-6o %F\nDevice: 254,0\t" ++
    "Inode: %-10i  Links: %h\nAccess: (%04a/%10.10A)  Uid: (%5u/%8U)   Gid: (%5g/%8G)\n" ++
    "Access: %x\nModify: %y\nChange: %z\n Birth: %w\n"

/-- Tells what is known about files. -/
def run (words : List String) : Tool Unit := do
  let table : OptionTable :=
    { letters := "c:fLt"
      names := [("format", .required, 'c'), ("dereference", .no, 'L'), ("printf", .required, 'P'),
        ("file-system", .no, 'f'), ("terse", .no, 't')] }
  let (options, operands) ← table.read words
  if operands.isEmpty then Tool.failMissing
  let form := (options.filter fun given => given.letter = 'c' || given.letter = 'P').getLast?
  let isSystem := isGiven options 'f'
  operands.forM fun path => do
    match ← Tool.status path (isGiven options 'L' || isSystem) with
    | .error e =>
      let what := if isSystem then "cannot read file system information for " else "cannot statx "
      Tool.warn (what ++ Quote.always path ++ ": " ++ e.reason)
    | .ok status =>
      let target := (← Tool.ask (.readLink path)).toOption
      let value? := if isSystem then systemValue? path target status else valueOf? path target status
      let (format, escapes, ending) := match form with
        | some given => (given.argument, given.letter == 'P', if given.letter = 'P' then "" else "\n")
        | none =>
          if isGiven options 't' then
            ("%n %s %b %f %u %g %D %i %h %t %T %X %Y %Z %W %o", false, "\n")
          else (usual, false, "")
      if form.isNone && !isGiven options 't' then
        let arrow := (target.map fun t => " -> " ++ Quote.file t).getD ""
        Tool.sayLine ("  File: " ++ Quote.file path ++ arrow)
      let text ← shown value? escapes (format.length + 1) format.toList
      Tool.say (String.ofList text ++ ending)

end Stat

/-! ### Paths -/

/-- What has to be there along a path. -/
inductive Demand where
  /-- Everything. -/
  | all
  /-- Everything but the last name. -/
  | directory
  | nothing
  deriving DecidableEq

/-- Follows names from a directory, through links; gives the path without links. -/
def canonicalFrom (demand : Demand) : Nat → Nat → List String → List String →
    Tool (Except IoError String)
  | 0, _, _, _ => return .error .tooManyLinks
  | _ + 1, _, reached, [] => return .ok ("/" ++ "/".intercalate reached.reverse)
  | fuel + 1, links, reached, name :: rest => do
    if name = "." then canonicalFrom demand fuel links reached rest
    else if name = ".." then canonicalFrom demand fuel links (reached.drop 1) rest
    else
      let path := "/" ++ "/".intercalate (name :: reached).reverse
      let goOn : Tool (Except IoError String) :=
        canonicalFrom demand fuel links (name :: reached) rest
      match ← Tool.ask (.readLink path) with
      | .ok target =>
        if links = 0 then
          if demand = .nothing then goOn else return .error .tooManyLinks
        else
          let start := if Path.isAbsolute target then [] else reached
          canonicalFrom demand fuel (links - 1) start (Path.names target ++ rest)
      | .error _ =>
        match ← Tool.status path false with
        | .ok status =>
          if rest.isEmpty || status.kind = .directory || demand = .nothing then goOn
          else return .error .notADirectory
        | .error e =>
          if demand = .nothing || demand = .directory && rest.all (· == ".") && e == .notFound then
            goOn
          else return .error e

/-- The path without links, points and double slashes. -/
def canonical (demand : Demand) (path : String) : Tool (Except IoError String) := do
  if path.isEmpty then return .error .notFound
  let start ← if Path.isAbsolute path then pure "" else Tool.ask .directory
  let result ← canonicalFrom demand depthLimit 40 [] (Path.names start ++ Path.names path)
  match result with
  | .ok found =>
    if Path.endsInSlash path && demand != .nothing then
      match ← Tool.status found true with
      | .ok status =>
        return if status.kind = .directory then .ok found else .error .notADirectory
      | .error .notFound => if demand = .all then return .error .notFound else return .ok found
      | .error e => return .error e
    else return .ok found
  | .error e => return .error e

namespace Readlink

/-- Tells where links lead. -/
def run (words : List String) : Tool Unit := do
  let table : OptionTable :=
    { letters := "efmnqsvz"
      names := [("canonicalize", .no, 'f'), ("canonicalize-existing", .no, 'e'),
        ("canonicalize-missing", .no, 'm'), ("no-newline", .no, 'n'), ("verbose", .no, 'v'),
        ("quiet", .no, 'q'), ("silent", .no, 's'), ("zero", .no, 'z')] }
  let (options, operands) ← table.read words
  if operands.isEmpty then Tool.failMissing
  let keepsLine := isGiven options 'n' && operands.length = 1
  if isGiven options 'n' && !keepsLine then
    Tool.complain "ignoring --no-newline with multiple arguments"
  let demand := (options.filterMap fun given => match given.letter with
    | 'e' => some Demand.all
    | 'f' => some .directory
    | 'm' => some .nothing
    | _ => none).getLast?
  let ending := if keepsLine then "" else if isGiven options 'z' then "\x00" else "\n"
  operands.forM fun path => do
    let found ← match demand with
      | some demand => canonical demand path
      | none => Tool.ask (.readLink path)
    match found with
    | .ok target => Tool.say (target ++ ending)
    | .error e =>
      if isGiven options 'v' then Tool.complain (Quote.file path ++ ": " ++ e.reason)
      Tool.note 1

end Readlink

namespace Realpath

/-- A path without points, seen from a directory. -/
def plain (directory path : String) : String :=
  let start := if Path.isAbsolute path then [] else Path.names directory
  let names := (Path.names path).foldl (fun names name =>
    if name = "." then names else if name = ".." then names.drop 1 else name :: names) start.reverse
  "/" ++ "/".intercalate names.reverse

/-- The way from one path to another one. -/
def relative (base path : String) : String :=
  let rec go : List String → List String → List String
    | a :: as, b :: bs => if a = b then go as bs else (a :: as).map (fun _ => "..") ++ b :: bs
    | as, bs => as.map (fun _ => "..") ++ bs
  let names := go (Path.names base) (Path.names path)
  if names.isEmpty then "." else "/".intercalate names

/-- Tells paths without links. -/
def run (words : List String) : Tool Unit := do
  let table : OptionTable :=
    { letters := "eLmPqsz"
      names := [("canonicalize-existing", .no, 'e'), ("canonicalize-missing", .no, 'm'),
        ("strip", .no, 's'), ("no-symlinks", .no, 's'), ("quiet", .no, 'q'), ("zero", .no, 'z'),
        ("relative-to", .required, 'R')] }
  let (options, operands) ← table.read words
  if operands.isEmpty then Tool.failMissing
  let demand : Demand := if isGiven options 'm' then .nothing
    else if isGiven options 'e' then .all else .directory
  let base ← match lastOf? options 'R' with
    | none => pure none
    | some base =>
      match ← canonical demand base with
      | .ok base => pure (some base)
      | .error e => Tool.fail (Quote.file base ++ ": " ++ e.reason)
  operands.forM fun path => do
    let found ← if isGiven options 's' && path != "" then do
        pure (.ok (plain (← Tool.ask .directory) path))
      else canonical demand path
    match found with
    | .ok path =>
      Tool.say ((base.map (relative · path)).getD path ++
        if isGiven options 'z' then "\x00" else "\n")
    | .error e => if isGiven options 'q' then Tool.note 1 else Tool.warnFile path e

end Realpath

/-- Takes the directories, and perhaps an ending, away from paths. -/
def basename (words : List String) : Tool Unit := do
  let table : OptionTable :=
    { letters := "as:z", isStrict := true
      names := [("multiple", .no, 'a'), ("suffix", .required, 's'), ("zero", .no, 'z')] }
  let (options, operands) ← table.read words
  if operands.isEmpty then Tool.failMissing
  let without (suffix name : String) : String :=
    if name != suffix && !suffix.isEmpty && name.endsWith suffix then
      String.ofList (name.toList.take (name.length - suffix.length))
    else name
  let say (suffix path : String) : Tool Unit :=
    Tool.say (without suffix (lastName path) ++ if isGiven options 'z' then "\x00" else "\n")
  if isGiven options 'a' || isGiven options 's' then
    operands.forM (say ((lastOf? options 's').getD ""))
  else match operands with
    | [path] => say "" path
    | [path, suffix] => say suffix path
    | _ :: _ :: extra :: _ => Tool.failExtra extra
    | [] => return

/-- Tells the directories of paths. -/
def dirname (words : List String) : Tool Unit := do
  let table : OptionTable := { letters := "z", names := [("zero", .no, 'z')] }
  let (options, operands) ← table.read words
  if operands.isEmpty then Tool.failMissing
  operands.forM fun path =>
    let chars := (withoutSlashes path).toList.reverse
    let above := (chars.dropWhile (· != '/')).dropWhile (· == '/')
    let shown := if !above.isEmpty then String.ofList above.reverse
      else if Path.isAbsolute path then "/" else "."
    Tool.say (shown ++ if isGiven options 'z' then "\x00" else "\n")

/-- Tells the directory. -/
def pwd (words : List String) : Tool Unit := do
  let table : OptionTable := { letters := "LP" }
  let (_, operands) ← table.read words
  unless operands.isEmpty do Tool.complain "ignoring non-option arguments"
  Tool.sayLine (← Tool.ask .directory)

end DeviceLab.Tools
