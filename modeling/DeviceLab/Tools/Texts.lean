import DeviceLab.Tools.Options
import DeviceLab.Unix.Mode

/-!
# Programs that show texts

Programs that write files, parts of them, or what they count in them: `cat`, `rev`, `head`, `tail`,
`wc`, `tee`.
-/

namespace DeviceLab.Tools

open Text Unix

/-! ### Numbers -/

/-- What a letter behind a number multiplies it with; the letter may be followed by others. -/
def scaleOf? (suffix : String) : Option Nat :=
  let kilo (n : Nat) : Nat := Nat.pow 1024 n
  let thousand (n : Nat) : Nat := Nat.pow 1000 n
  [("", 1), ("b", 512), ("k", kilo 1), ("K", kilo 1), ("kB", thousand 1), ("KB", thousand 1),
    ("KiB", kilo 1), ("M", kilo 2), ("m", kilo 2), ("MB", thousand 2), ("MiB", kilo 2),
    ("G", kilo 3), ("GB", thousand 3), ("GiB", kilo 3), ("T", kilo 4), ("TB", thousand 4),
    ("TiB", kilo 4)].lookup suffix

/-- A number with a letter behind it. -/
def scaled? (text : String) : Option Nat :=
  let chars := text.toList.dropWhile fun c => c == ' '
  let chars := if chars.head? = some '+' then chars.drop 1 else chars
  let digits := chars.takeWhile Char.isDigit
  if digits.isEmpty then none
  else
    (scaleOf? (String.ofList (chars.drop digits.length))).map fun scale =>
      (String.ofList digits).toNat?.getD 0 * scale

/-- A text that is filled up at its start. -/
def padLeft (width : Nat) (text : String) (fill : Char) : String :=
  String.ofList (List.replicate (width - text.length) fill) ++ text

/-- A text that is filled up at its end. -/
def padRight (width : Nat) (text : String) : String :=
  text ++ String.ofList (List.replicate (width - text.length) ' ')

/-- The files that are read: those that are named, or the input. -/
def orInput (files : List String) : List String := if files.isEmpty then ["-"] else files

/-! ### Whole files -/

namespace Cat

/-- How characters and lines are shown. -/
structure Manner where
  numbersAll : Bool
  numbersFilled : Bool
  showsEnds : Bool
  showsTabs : Bool
  showsOthers : Bool
  squeezes : Bool

/-- Whether everything is shown as it is. -/
def Manner.isPlain (m : Manner) : Bool :=
  !(m.numbersAll || m.numbersFilled || m.showsEnds || m.showsTabs || m.showsOthers || m.squeezes)

/-- A character as it is shown. -/
def shown (m : Manner) (c : Char) : List Char :=
  let n := c.toNat
  if c = '\t' then if m.showsTabs then ['^', 'I'] else [c]
  else if !m.showsOthers then [c]
  else
    let low (n : Nat) : List Char :=
      if n < 32 then ['^', Char.ofNat (n + 64)]
      else if n = 127 then ['^', '?'] else [Char.ofNat n]
    if n < 128 then low n else 'M' :: '-' :: low (n - 128)

/-- What is known between two lines. -/
structure Place where
  number : Nat := 0
  blanks : Nat := 0
  /-- Whether the last line has not been ended. -/
  isOpen : Bool := false

/-- Shows a line; gives what is written. -/
def line (m : Manner) (p : Place) (text : List Char) (isEnded : Bool) : String × Place :=
  let isBlank := text.isEmpty && isEnded && !p.isOpen
  if m.squeezes && isBlank && 0 < p.blanks then ("", p)
  else
    let isNumbered := !p.isOpen && (if m.numbersFilled then !isBlank else m.numbersAll)
    let number := if isNumbered then p.number + 1 else p.number
    let front := if isNumbered then padLeft 6 (toString number) ' ' ++ "\t" else ""
    let isCarriage := m.showsEnds && isEnded && text.getLast? == some '\r'
    let body := (if isCarriage && !m.showsOthers then text.dropLast else text).flatMap (shown m)
    let body := if isCarriage && !m.showsOthers then body ++ ['^', 'M'] else body
    let back := if isEnded then (if m.showsEnds then "$\n" else "\n") else ""
    (front ++ String.ofList body ++ back,
      { number, blanks := if isBlank then p.blanks + 1 else 0, isOpen := !isEnded })

/-- Shows a text line by line. -/
def text (m : Manner) (p : Place) (chars : List Char) : Tool Place := do
  let lines := Tool.lines chars
  let isEnded := chars.getLast? == some '\n'
  let rec go : List (List Char) → Place → Tool Place
    | [], p => return p
    | [last], p => do
      let (out, p) := line m p last isEnded
      Tool.say out
      return p
    | next :: rest, p => do
      let (out, p) := line m p next true
      Tool.say out
      go rest p
  go lines p

/-- Copies what is left to read, part by part. -/
def copy (path : String) (descriptor : Nat) : Nat → Tool Unit
  | 0 => return
  | fuel + 1 => do
    match ← Tool.readSome descriptor Tool.blockSize with
    | .ok [] => return
    | .ok part =>
      Tool.say (String.ofList part)
      Tool.flush
      copy path descriptor fuel
    | .error e => Tool.warnFile path e

/-- Whether a file is the one that output goes to. -/
def isOutput (descriptor : Nat) : Tool Bool := do
  match ← Tool.ask (.statusOf descriptor), ← Tool.ask (.statusOf 1) with
  | .ok source, .ok target =>
    return source.kind == .plain && source.number == target.number && 0 < source.size
  | _, _ => return false

/-- Writes files. -/
def run (words : List String) : Tool Unit := do
  let table : OptionTable :=
    { letters := "AbeEnstTuv"
      names := [("show-all", .no, 'A'), ("number-nonblank", .no, 'b'), ("show-ends", .no, 'E'),
        ("number", .no, 'n'), ("squeeze-blank", .no, 's'), ("show-tabs", .no, 'T'),
        ("show-nonprinting", .no, 'v')] }
  let (options, files) ← table.read words
  if let .error e ← Tool.ask (.statusOf 1) then Tool.fail ("standard output: " ++ e.reason)
  let has (letters : String) : Bool := letters.toList.any (isGiven options)
  let m : Manner :=
    { numbersAll := has "n", numbersFilled := has "b", showsEnds := has "AeE", showsTabs := has "AtT"
      showsOthers := has "Aetv", squeezes := has "s" }
  discard <| (orInput files).foldlM (fun (p : Place) path => do
    match ← Tool.open_ path with
    | .error e =>
      Tool.warnFile path e
      return p
    | .ok descriptor =>
      if ← isOutput descriptor then
        Tool.warn (Quote.file path ++ ": input file is output file")
        return p
      if m.isPlain then
        copy path descriptor Tool.partLimit
        Tool.close descriptor
        return p
      let result ← Tool.readAll descriptor
      Tool.close descriptor
      match result with
      | .ok chars => text m p chars
      | .error e =>
        Tool.warnFile path e
        return p) {}
  if (orInput files).contains "-" then
    if let .error e ← Tool.ask (.statusOf 0) then Tool.warn ("closing standard input: " ++ e.reason)

end Cat

/-- Does something with the text of each file. -/
def forTexts (files : List String) (use : List Char → Tool Unit) : Tool Unit :=
  (orInput files).forM fun path => do (← Tool.readFile path).forM use

/-- Writes the lines of files with their characters turned around. -/
def rev (words : List String) : Tool Unit := do
  let table : OptionTable := { letters := "" }
  let (_, files) ← table.read words
  (orInput files).forM fun path => do
    match ← Tool.open_ path with
    | .error e => Tool.warn (s!"cannot open {path}: " ++ e.reason)
    | .ok descriptor =>
      match ← Tool.readAll descriptor with
      | .error e => Tool.warn (s!"{path}: " ++ e.reason)
      | .ok text =>
        let isEnded := text.getLast? == some '\n'
        let lines := (Tool.lines text).map fun line => String.ofList line.reverse
        Tool.say ("\n".intercalate lines ++ if isEnded then "\n" else "")

/-! ### Parts of files -/

/-- How much of a file is shown. -/
structure Extent where
  count : Nat := 10
  countsBytes : Bool := false
  /-- Whether the count tells what is left out at the other end. -/
  isRest : Bool := false
  ending : Char := '\n'

/-- When names are shown over files. -/
inductive Headings where
  | several
  | never
  | always

/-- A count in the word of an option; a sign tells that it is a count of what is left out. -/
def readExtent (sign : Char) (isRest : Bool) (countsBytes : Bool) (word : String) : Tool Extent := do
  let chars := word.toList
  let (isRest, chars) := match chars with
    | c :: rest => if c = sign then (!isRest, rest) else
        if c = '-' || c = '+' then (isRest, rest) else (isRest, chars)
    | [] => (isRest, chars)
  match if chars.head?.any Char.isDigit then scaled? (String.ofList chars) else none with
  | some count => return { count, countsBytes, isRest }
  | none =>
    let kind := if countsBytes then "bytes" else "lines"
    let shown := match word.toList with
      | '-' :: rest => String.ofList rest
      | _ => word
    Tool.fail s!"invalid number of {kind}: {Quote.text shown}"

/-- The extent and the headings that options tell. -/
def extentOf (sign : Char) (options : List Given) : Tool (Extent × Headings) := do
  let (extent, headings) ← options.foldlM (fun (extent, headings) given => do
    match given.letter with
    | 'n' => return (← readExtent sign false false given.argument, headings)
    | 'c' => return (← readExtent sign false true given.argument, headings)
    | 'q' => return (extent, .never)
    | 'v' => return (extent, .always)
    | _ => return (extent, headings)) (({} : Extent), Headings.several)
  return ({ extent with ending := if isGiven options 'z' then '\x00' else '\n' }, headings)

/-- The options that a first word of a hyphen and a number stands for. -/
def oldOptions (words : List String) : List String :=
  match words with
  | word :: rest =>
    match word.toList with
    | '-' :: c :: more =>
      if !c.isDigit then words
      else
        let digits := (c :: more).takeWhile Char.isDigit
        let letters := (c :: more).drop digits.length
        let kind := if letters.contains 'c' then "-c" else "-n"
        let others := letters.filter fun c => c == 'q' || c == 'v' || c == 'z' || c == 'f'
        if (letters.all fun c => "clqvzfbkm".toList.contains c) then
          let scale := letters.filter fun c => "bkm".toList.contains c
          others.map (fun c => String.ofList ['-', c]) ++
            (kind ++ String.ofList (digits ++ scale)) :: rest
        else words
    | _ => words
  | [] => []

/-- The first of some lines with their ends, and what is behind. -/
def takeLines (ending : Char) : Nat → List Char → List Char → List Char × List Char × Nat
  | 0, rest, taken => (taken.reverse, rest, 0)
  | n, [], taken => (taken.reverse, [], n)
  | n + 1, c :: rest, taken =>
    if c = ending then takeLines ending n rest (c :: taken)
    else takeLines ending (n + 1) rest (c :: taken)
termination_by n rest => (rest.length, n)

/-- The lines of a text with their ends. -/
def fullLines (ending : Char) (text : List Char) : List (List Char) :=
  let lines := Tool.linesBy ending text
  if text.getLast? = some ending then lines.map (· ++ [ending])
  else lines.dropLast.map (· ++ [ending]) ++ lines.getLast?.toList

/-- Shows a heading over a file. -/
def heading (headings : Headings) (isFirst isSeveral : Bool) (name : String) : Tool Unit := do
  let isShown := match headings with
    | .several => isSeveral
    | .never => false
    | .always => true
  if isShown then
    let name := if name = "-" then "standard input" else name
    Tool.say ((if isFirst then "" else "\n") ++ "==> " ++ name ++ " <==\n")

namespace Head

/-- Copies the first lines of what is left to read. -/
def copyLines (path : String) (descriptor : Nat) (ending : Char) (inLines : Bool) :
    Nat → Nat → Tool Unit
  | 0, _ => return
  | _, 0 => return
  | fuel + 1, left => do
    match ← Tool.ask (.read descriptor (if inLines then Tool.blockSize else 1024) inLines) with
    | .error e => Tool.warn ("error reading " ++ Quote.always path ++ ": " ++ e.reason)
    | .ok [] => return
    | .ok bytes =>
      let (taken, _, left) := takeLines ending left (bytes.map Octets.char) []
      Tool.say (String.ofList taken)
      copyLines path descriptor ending inLines fuel left

/-- Copies the first bytes of what is left to read. -/
def copyBytes (path : String) (descriptor : Nat) : Nat → Nat → Tool Unit
  | 0, _ => return
  | _, 0 => return
  | fuel + 1, left => do
    match ← Tool.readSome descriptor (min left Tool.blockSize) with
    | .error e => Tool.warn ("error reading " ++ Quote.always path ++ ": " ++ e.reason)
    | .ok [] => return
    | .ok part =>
      Tool.say (String.ofList part)
      copyBytes path descriptor fuel (left - part.length)

/-- Shows the first part of what is left to read. -/
def show_ (extent : Extent) (path : String) (descriptor : Nat) : Tool Unit := do
  if extent.isRest then
    match ← Tool.readAll descriptor with
    | .error e => Tool.warn ("error reading " ++ Quote.always path ++ ": " ++ e.reason)
    | .ok text =>
      if extent.countsBytes then
        Tool.say (String.ofList (text.take (text.length - extent.count)))
      else
        let lines := fullLines extent.ending text
        Tool.say (String.ofList (lines.take (lines.length - extent.count)).flatten)
  else if extent.countsBytes then copyBytes path descriptor Tool.partLimit extent.count
  else
    let inLines := extent.ending == '\n' && (← Tool.isPlain descriptor)
    copyLines path descriptor extent.ending inLines Tool.partLimit extent.count

/-- Shows the first parts of files. -/
def run (words : List String) : Tool Unit := do
  let table : OptionTable :=
    { letters := "c:n:qvz"
      names := [("bytes", .required, 'c'), ("lines", .required, 'n'), ("quiet", .no, 'q'),
        ("silent", .no, 'q'), ("verbose", .no, 'v'), ("zero-terminated", .no, 'z')] }
  let (options, files) ← table.read (oldOptions words)
  let (extent, headings) ← extentOf '-' options
  discard <| (orInput files).foldlM (fun isFirst path => do
    match ← Tool.open_ path with
    | .error e =>
      Tool.warn ("cannot open " ++ Quote.always path ++ " for reading: " ++ e.reason)
      return isFirst
    | .ok descriptor =>
      heading headings isFirst (1 < files.length) path
      show_ extent path descriptor
      Tool.close descriptor
      return false) true

end Head

namespace Tail

/-- The last part of a text. -/
def part (extent : Extent) (text : List Char) : List Char :=
  if extent.countsBytes then
    if extent.isRest then text.drop (extent.count - 1) else text.drop (text.length - extent.count)
  else
    let lines := fullLines extent.ending text
    (if extent.isRest then lines.drop (extent.count - 1)
    else lines.drop (lines.length - extent.count)).flatten

/-- The time between two looks at a file that may grow. -/
def pauseTime : Nat := 1000000000

/-- Shows what is added to a file. -/
def follow (descriptor : Nat) : Nat → Tool Unit
  | 0 => return
  | fuel + 1 => do
    Tool.flush
    match ← Tool.readAll descriptor with
    | .ok text => Tool.say (String.ofList text)
    | .error _ => return
    Tool.flush
    Tool.ask (.rest pauseTime)
    follow descriptor fuel

/-- Shows the last parts of files. -/
def run (words : List String) : Tool Unit := do
  let table : OptionTable :=
    { letters := "c:n:qvzfFs:"
      names := [("bytes", .required, 'c'), ("lines", .required, 'n'), ("quiet", .no, 'q'),
        ("silent", .no, 'q'), ("verbose", .no, 'v'), ("zero-terminated", .no, 'z'),
        ("follow", .possible, 'f'), ("sleep-interval", .required, 's')] }
  let words := match words with
    | word :: rest =>
      match word.toList with
      | '+' :: c :: more =>
        if c.isDigit then ("-n+" ++ String.ofList (c :: more)) :: rest else words
      | _ => words
    | [] => []
  let (options, files) ← table.read (oldOptions words)
  let (extent, headings) ← extentOf '+' options
  let follows := isGiven options 'f' || isGiven options 'F'
  discard <| (orInput files).foldlM (fun isFirst path => do
    match ← Tool.open_ path with
    | .error e =>
      Tool.warn ("cannot open " ++ Quote.always path ++ " for reading: " ++ e.reason)
      return isFirst
    | .ok descriptor =>
      heading headings isFirst (1 < files.length) path
      match ← Tool.readAll descriptor with
      | .ok text =>
        Tool.say (String.ofList (part extent text))
        if follows && path != "-" then follow descriptor Tool.partLimit
      | .error e => Tool.warn ("error reading " ++ Quote.always path ++ ": " ++ e.reason)
      Tool.close descriptor
      return false) true

end Tail

/-! ### Counting -/

namespace Wc

/-- What is counted in a text. -/
structure Counts where
  lines : Nat := 0
  words : Nat := 0
  bytes : Nat := 0
  longest : Nat := 0

/-- Whether a character divides words. -/
def isSpace (c : Char) : Bool := c == ' ' || (9 ≤ c.toNat && c.toNat ≤ 13)

/-- Counts in a text; `column` is the length of the line so far. -/
def count : List Char → Bool → Nat → Counts → Counts
  | [], _, column, k => { k with longest := max k.longest column }
  | c :: rest, inWord, column, k =>
    let k := { k with bytes := k.bytes + 1 }
    if c = '\n' then
      count rest false 0 { k with lines := k.lines + 1, longest := max k.longest column }
    else if c = '\t' then count rest false ((column / 8 + 1) * 8) k
    else if c = '\r' || c.toNat = 12 then
      count rest false 0 { k with longest := max k.longest column }
    else if isSpace c then count rest false (if c = ' ' then column + 1 else column) k
    else if 32 ≤ c.toNat && c.toNat < 127 then
      count rest true (column + 1) { k with words := if inWord then k.words else k.words + 1 }
    else count rest inWord column k

/-- The counts that options ask for, in their order. -/
def selected (options : List Given) (k : Counts) : List Nat :=
  let all := [('l', k.lines), ('w', k.words), ('m', k.bytes), ('c', k.bytes), ('L', k.longest)]
  if options.isEmpty then [k.lines, k.words, k.bytes]
  else (all.filter fun entry => isGiven options entry.1).map (·.2)

/-- How wide numbers are shown. -/
def widthFor (options : List Given) (files : List String) : Tool Nat := do
  if files.isEmpty && (selected options {}).length ≤ 1 then return 1
  if files.length = 1 && (selected options {}).length = 1 then return 1
  if files.isEmpty then
    match ← Tool.ask (.statusOf 0) with
    | .ok status =>
      return if status.kind = .plain then (toString status.size).length else 7
    | .error _ => return 1
  let statuses ← files.mapM fun path =>
    if path = "-" then Tool.ask (.statusOf 0) else Tool.ask (.status path true)
  let known := statuses.filterMap Except.toOption
  let total := (known.filter fun s => s.kind == .plain).foldl (fun n s => n + s.size) 0
  let least := if known.all fun s => s.kind == .plain then 1 else 7
  return max least (toString total).length

/-- Shows counts, and perhaps a name. -/
def show_ (options : List Given) (width : Nat) (k : Counts) (name : Option String) : Tool Unit := do
  let numbers := (selected options k).map fun n => padLeft width (toString n) ' '
  Tool.sayLine (" ".intercalate (numbers ++ (name.map Quote.file).toList))

/-- Counts lines, words and bytes of files. -/
def run (words : List String) : Tool Unit := do
  let table : OptionTable :=
    { letters := "clmwL"
      names := [("bytes", .no, 'c'), ("chars", .no, 'm'), ("lines", .no, 'l'), ("words", .no, 'w'),
        ("max-line-length", .no, 'L')] }
  let (options, files) ← table.read words
  let width ← widthFor options files
  let total ← (orInput files).foldlM (fun (total : Counts) path => do
    match ← Tool.open_ path with
    | .error e =>
      Tool.warnFile path e
      return total
    | .ok descriptor =>
      let result ← Tool.readAll descriptor
      Tool.close descriptor
      let k ← match result with
        | .ok text => pure (count text false 0 {})
        | .error e => do
          Tool.warnFile path e
          pure {}
      show_ options width k (if files.isEmpty then none else some path)
      return {
        lines := total.lines + k.lines
        words := total.words + k.words
        bytes := total.bytes + k.bytes
        longest := max total.longest k.longest }) {}
  if 1 < files.length then show_ options width total (some "total")

end Wc

/-! ### Other shows -/

namespace Tee

/-- Copies the input to descriptors; those that fail are left out. -/
def copy : Nat → List (String × Nat) → Tool Unit
  | 0, _ => return
  | fuel + 1, targets => do
    match ← Tool.readSome 0 Tool.blockSize with
    | .ok [] | .error _ => return
    | .ok part =>
      let text := String.ofList part
      let kept ← targets.filterM fun (name, descriptor) => do
        match ← Tool.write descriptor text with
        | .ok () => return true
        | .error e =>
          Tool.warnFile name e
          return false
      copy fuel kept

/-- Copies the input to the output and to files. -/
def run (words : List String) : Tool Unit := do
  let table : OptionTable :=
    { letters := "aip", names := [("append", .no, 'a'), ("ignore-interrupts", .no, 'i')] }
  let (options, files) ← table.read words
  if isGiven options 'i' then Tool.ask (.arrange Signal.interrupt .ignored)
  let mode : OpenMode := if isGiven options 'a' then .appending else .writing
  let targets ← files.filterMapM fun path => do
    match ← Tool.ask (.openFile path mode) with
    | .ok descriptor => return some (path, descriptor)
    | .error e =>
      Tool.warnFile path e
      return none
  copy Tool.partLimit (("standard output", 1) :: targets)

end Tee

end DeviceLab.Tools
