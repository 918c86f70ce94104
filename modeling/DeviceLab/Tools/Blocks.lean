import DeviceLab.Tools.Digests
import DeviceLab.Tools.Trees

/-!
# Files in parts

Programs that copy parts of files, and that cut a file into several ones: `dd`, `split`.

* `Copy.run`: copies a part of a file, in blocks.
* `Split.run`: cuts a file into others.
-/

namespace DeviceLab.Tools

open Unix Tool

/-! ### Copies in blocks -/

namespace Copy

/-- What is to be copied, and how. -/
structure Plan where
  source : Option String := none
  target : Option String := none
  /-- The size of blocks that are read, and of those that are written. -/
  readSize : Nat := 512
  writeSize : Nat := 512
  /-- The size of both, if one is given for both. -/
  bothSize : Option Nat := none
  /-- How many blocks are passed over, and whether they are bytes. -/
  skip : Nat × Bool := (0, false)
  seek : Nat × Bool := (0, false)
  count : Option (Nat × Bool) := none
  /-- The size of lines in blocks. -/
  lineSize : Nat := 0
  changes : List String := []
  inputFlags : List String := []
  outputFlags : List String := []
  status : String := ""

/-- Scales of numbers, by what stands behind them. -/
def scales : List (String × Nat) :=
  [("", 1), ("c", 1), ("w", 2), ("b", 512), ("B", 1), ("kB", 1000), ("K", 1024), ("k", 1024),
    ("KiB", 1024), ("MB", 1000000), ("M", 1048576), ("MiB", 1048576), ("GB", 1000000000),
    ("G", 1073741824), ("GiB", 1073741824)]

/-- A product of numbers with letters behind them, and whether it is told in bytes. -/
def number? (text : String) : Option (Nat × Bool) :=
  let factors := (text.splitOn "x").map fun part =>
    let digits := part.toList.takeWhile Char.isDigit
    match (String.ofList digits).toNat?, scales.lookup (String.ofList (part.toList.drop digits.length)) with
    | some n, some scale => some (n * scale)
    | _, _ => none
  if factors.any Option.isNone then none
  else some (factors.foldl (fun n factor => n * factor.getD 0) 1, text.endsWith "B")

/-- The changes that may be made on the way. -/
def knownChanges : List String :=
  ["block", "unblock", "lcase", "ucase", "sparse", "swab", "noerror", "nocreat", "excl", "notrunc",
    "sync", "fdatasync", "fsync"]

/-- The flags that a file may be opened with. -/
def knownFlags : List String :=
  ["append", "direct", "directory", "dsync", "sync", "fullblock", "nonblock", "noatime", "nocache",
    "noctty", "nofollow", "count_bytes", "skip_bytes", "seek_bytes"]

/-- Complains about a word, and tells how to get help. -/
def failAbout (what text : String) : Tool α := failWords ("invalid " ++ what ++ ": " ++ Quote.always text)

/-- Reads one word. -/
def readWord (p : Plan) (word : String) : Tool Plan := do
  let name := String.ofList (word.toList.takeWhile (· != '='))
  let value := String.ofList (word.toList.drop (name.length + 1))
  let unknown : Tool Plan := failWords ("unrecognized operand " ++ Quote.always word)
  if name.length = word.length then unknown
  else
    let isSize := ["ibs", "obs", "bs", "cbs"].contains name
    let number : Tool (Nat × Bool) := do
      match number? value with
      | some (n, inBytes) =>
        if n = 0 && isSize then fail ("invalid number: " ++ Quote.always value)
        return (n, inBytes)
      | none => fail ("invalid number: " ++ Quote.always value)
    let known (what : String) (names : List String) : Tool (List String) := do
      let parts := value.splitOn ","
      if let some part := parts.find? fun part => !names.contains part then failAbout what part
      return parts
    match name with
    | "if" => return { p with source := some value }
    | "of" => return { p with target := some value }
    | "ibs" => return { p with readSize := (← number).1 }
    | "obs" => return { p with writeSize := (← number).1 }
    | "bs" => return { p with bothSize := some (← number).1 }
    | "cbs" => return { p with lineSize := (← number).1 }
    | "skip" | "iseek" => return { p with skip := ← number }
    | "seek" | "oseek" => return { p with seek := ← number }
    | "count" => return { p with count := some (← number) }
    | "conv" => return { p with changes := p.changes ++ (← known "conversion" knownChanges) }
    | "iflag" => return { p with inputFlags := p.inputFlags ++ (← known "input flag" knownFlags) }
    | "oflag" => return { p with outputFlags := p.outputFlags ++ (← known "output flag" knownFlags) }
    | "status" =>
      match ["none", "noxfer", "progress"].contains value with
      | true => return { p with status := value }
      | false => failAbout "status level" value
    | _ => unknown

/-- The bytes in pairs, each of which is turned around, and the last one if it is alone. -/
def swapped : List Char → List Char × List Char
  | a :: b :: rest =>
    let (text, odd) := swapped rest
    (b :: a :: text, odd)
  | odd => ([], odd)

/-- Lines in blocks of a size. -/
def blocked (size : Nat) (text : List Char) : List Char :=
  (Tool.lines text).flatMap fun line =>
    let line := line.take size
    line ++ List.replicate (size - line.length) ' '

/-- Blocks of a size as lines, without the blanks at their ends. -/
def unblocked (size : Nat) (text : List Char) : List Char :=
  (Words.parts size text).flatMap fun block =>
    (block.reverse.dropWhile (· = ' ')).reverse ++ ['\n']

/-- What is made of what has been read. -/
def changed (p : Plan) (text : List Char) : List Char :=
  let has := p.changes.contains
  let text := if has "ucase" then text.map Char.toUpper else text
  let text := if has "lcase" then text.map Char.toLower else text
  let text := if has "block" && 0 < p.lineSize then blocked p.lineSize text else text
  if has "unblock" && 0 < p.lineSize then unblocked p.lineSize text else text

/-- How many blocks have gone through, whole ones and others, and how many bytes. -/
structure Tally where
  readWhole : Nat := 0
  readPart : Nat := 0
  wroteWhole : Nat := 0
  wrotePart : Nat := 0
  bytes : Nat := 0

/-- A size with a letter, by a base. -/
def shortSize (base : Nat) (units : List String) (n : Nat) : String :=
  let rec go (scale : Nat) : List String → String
    | [] => toString n
    | [unit] => show_ scale unit
    | unit :: units => if n < scale * base then show_ scale unit else go (scale * base) units
  go base units
where
  /-- A number with one place, or none if it is large. -/
  show_ (scale : Nat) (unit : String) : String :=
    let tenths := (n * 10 + scale / 2) / scale
    if tenths < 100 then toString (tenths / 10) ++ "." ++ toString (tenths % 10) ++ " " ++ unit
    else toString ((n + scale / 2) / scale) ++ " " ++ unit

/-- Tells what has gone through. -/
def report (p : Plan) (t : Tally) (started : Nat) : Tool Unit := do
  if p.status = "none" then return
  flush
  tell (s!"{t.readWhole}+{t.readPart} records in\n{t.wroteWhole}+{t.wrotePart} records out\n")
  if p.status = "noxfer" then return
  let took := (← ask .time) - started
  let decimal := shortSize 1000 ["kB", "MB", "GB"] t.bytes
  let binary := shortSize 1024 ["KiB", "MiB", "GiB"] t.bytes
  let sizes := if t.bytes < 1000 then "" else if t.bytes < 1024 then " (" ++ decimal ++ ")"
    else " (" ++ decimal ++ ", " ++ binary ++ ")"
  let micros := took / 1000
  let seconds := toString (micros / 1000000) ++ "."
    ++ String.ofList (Nat.toDigits 10 (1000000 + micros % 1000000) |>.drop 1)
  let rate := t.bytes * 1000000 / max 1 micros
  let speed := if rate < 1000 then "0." ++ toString (rate / 100) ++ " kB/s"
    else shortSize 1000 ["kB", "MB", "GB"] rate ++ "/s"
  let noun := if t.bytes = 1 then " byte" else " bytes"
  tell (toString t.bytes ++ noun ++ sizes ++ " copied, " ++ seconds ++ " s, " ++ speed ++ "\n")

/-- Passes over some bytes; gives how many there were. -/
def passOver (descriptor : Nat) : Nat → Nat → Tool Nat
  | 0, _ => return 0
  | fuel + 1, left => do
    if left = 0 then return 0
    match ← readSome descriptor (min left blockSize) with
    | .ok [] | .error _ => return 0
    | .ok part => return part.length + (← passOver descriptor fuel (left - part.length))

/-- Reads a block, which is whole unless there is nothing left, if that is asked for. -/
def readBlock (descriptor size : Nat) (whole : Bool) :
    Nat → List Char → Tool (Except IoError (List Char))
  | 0, found => return .ok found
  | fuel + 1, found => do
    match ← readSome descriptor (size - found.length) with
    | .error e => return .error e
    | .ok [] => return .ok found
    | .ok part =>
      let found := found ++ part
      if whole && found.length < size then readBlock descriptor size whole fuel found
      else return .ok found

/-- What is in the middle of being copied. -/
structure Progress where
  tally : Tally := {}
  /-- What does not fill a block yet. -/
  waiting : List Char := []
  /-- A byte without the other one of its pair. -/
  odd : List Char := []
  /-- What is left of the number of blocks or bytes. -/
  left : Option (Nat × Bool)

/-- Writes a block. -/
def writeBlock (output size : Nat) (block : List Char) (t : Tally) : Tool Tally := do
  if block.isEmpty then return t
  match ← write output (String.ofList block) with
  | .ok () =>
    let t := { t with bytes := t.bytes + block.length }
    return if block.length = size then { t with wroteWhole := t.wroteWhole + 1 }
      else { t with wrotePart := t.wrotePart + 1 }
  | .error e => fail ("error writing 'standard output': " ++ e.reason)

/-- Writes blocks as long as they are whole. -/
def writeWhole (output size : Nat) : Nat → Progress → Tool Progress
  | 0, s => return s
  | fuel + 1, s => do
    if s.waiting.length < size then return s
    let tally ← writeBlock output size (s.waiting.take size) s.tally
    writeWhole output size fuel { s with tally, waiting := s.waiting.drop size }

/-- Copies blocks; `direct` tells that they are written as they have been read. -/
def copy (p : Plan) (input output : Nat) (direct : Bool) : Nat → Progress → Tool Progress
  | 0, s => return s
  | fuel + 1, s => do
    let wanted := match s.left with
      | none => p.readSize
      | some (n, inBytes) => if inBytes then min n p.readSize else if n = 0 then 0 else p.readSize
    if wanted = 0 then return s
    match ← readBlock input wanted (p.inputFlags.contains "fullblock") partLimit [] with
    | .error e =>
      complain ("error reading " ++ Quote.always (p.source.getD "standard input") ++ ": " ++ e.reason)
      note 1
      return s
    | .ok [] => return s
    | .ok block =>
      let isWhole := block.length = p.readSize
      let tally := if isWhole then { s.tally with readWhole := s.tally.readWhole + 1 }
        else { s.tally with readPart := s.tally.readPart + 1 }
      let left := s.left.map fun (n, inBytes) => (if inBytes then n - block.length else n - 1, inBytes)
      let fill := if p.changes.contains "block" || p.changes.contains "unblock" then ' ' else '\x00'
      let block := if p.changes.contains "sync" then
        block ++ List.replicate (p.readSize - block.length) fill else block
      let isLined := p.changes.contains "block" || p.changes.contains "unblock"
      let s := { s with tally, left }
      if direct then
        let tally ← writeBlock output p.writeSize block s.tally
        copy p input output direct fuel { s with tally }
      else if isLined then copy p input output direct fuel { s with waiting := s.waiting ++ block }
      else
        let (block, odd) := if p.changes.contains "swab" then swapped (s.odd ++ block) else (block, [])
        let s := { s with waiting := s.waiting ++ changed p block, odd }
        copy p input output direct fuel (← writeWhole output p.writeSize partLimit s)

/-- Opens the file that is written; gives its descriptor and the place where writing starts. -/
def openTarget (p : Plan) (path : String) : Tool Nat := do
  let has := p.changes.contains
  let failed (e : IoError) : Tool Nat :=
    fail ("failed to open " ++ Quote.always path ++ ": " ++ e.reason)
  let (n, inBytes) := p.seek
  let place := if inBytes || p.outputFlags.contains "seek_bytes" then n else n * p.writeSize
  if has "nocreat" then
    if let .error e ← Tool.status path true then return ← failed e
  if has "excl" then
    match ← ask (.openFile path .creating) with
    | .ok descriptor => close descriptor
    | .error e => return ← failed e
  if p.outputFlags.contains "append" then
    match ← ask (.openFile path .appending) with
    | .ok descriptor => return descriptor
    | .error e => failed e
  else
    let mode : OpenMode := if has "notrunc" || 0 < place then .both else .writing
    match ← ask (.openFile path mode) with
    | .error e => failed e
    | .ok descriptor =>
      if 0 < place then
        let size ← match ← Tool.status path true with
          | .ok s => pure s.size
          | .error _ => pure 0
        unless has "notrunc" && place ≤ size do discard (Tool.change (.resize path place))
        discard (passOver descriptor partLimit place)
      return descriptor

/-- Copies a part of a file. -/
def run (words : List String) : Tool Unit := do
  let words := if words.head? == some "--" then words.drop 1 else words
  let p ← words.foldlM readWord {}
  let p := match p.bothSize with
    | some n => { p with readSize := n, writeSize := n }
    | none => p
  let changesText := p.changes.any fun name => ["ucase", "lcase", "swab", "block", "unblock"].contains name
  let input ← match p.source with
    | none => pure 0
    | some path => do
      match ← ask (.openFile path .reading) with
      | .ok descriptor => pure descriptor
      | .error e => fail ("failed to open " ++ Quote.always path ++ ": " ++ e.reason)
  let output ← match p.target with
    | none => pure 1
    | some path => openTarget p path
  let started ← ask .time
  let (n, inBytes) := p.skip
  let passed := if inBytes || p.inputFlags.contains "skip_bytes" then n else n * p.readSize
  let found ← passOver input partLimit passed
  if found < passed then
    complain (Quote.file (p.source.getD "standard input") ++ ": cannot skip to specified offset")
  let left := p.count.map fun (n, inBytes) => (n, inBytes || p.inputFlags.contains "count_bytes")
  let direct := p.bothSize.isSome && !changesText
  let s ← copy p input output direct partLimit { left }
  let isLined := p.changes.contains "block" || p.changes.contains "unblock"
  let s := if isLined then { s with waiting := changed p s.waiting }
    else { s with waiting := s.waiting ++ changed p s.odd }
  let s ← writeWhole output p.writeSize partLimit s
  let tally ← writeBlock output p.writeSize s.waiting s.tally
  report p tally started

end Copy

/-! ### Several files out of one -/

namespace Split

/-- How a file is cut. -/
inductive Cut where
  | rows (count : Nat)
  | bytes (count : Nat)
  /-- Lines, as many as have room in a number of bytes. -/
  | lineBytes (count : Nat)
  /-- A number of parts, of which one may be asked for. -/
  | parts (count : Nat) (only : Option Nat)
  | lineParts (count : Nat) (only : Option Nat)
  /-- A number of parts that get lines in turn. -/
  | turns (count : Nat) (only : Option Nat)

/-- Names of files. -/
structure Naming where
  front : String := "x"
  back : String := ""
  letters : Array Char := "abcdefghijklmnopqrstuvwxyz".toList.toArray
  length : Nat := 2
  /-- Whether there may be more letters when all names have been used. -/
  grows : Bool := true
  first : Nat := 0

/-- A number by letters, of a fixed length. -/
def Naming.word (naming : Naming) : Nat → Nat → List Char
  | 0, _ => []
  | length + 1, n =>
    naming.word length (n / naming.letters.size) ++
      [naming.letters.getD (n % naming.letters.size) 'a']

/-- The name of a file by its number, if there are as many names. -/
def Naming.name? (naming : Naming) (n : Nat) : Option String :=
  let base := naming.letters.size
  let n := n + naming.first
  let last := [naming.letters.getD (base - 1) 'z']
  let short := base.pow naming.length
  let usable := if naming.grows then short - base.pow (naming.length - 1) else short
  let shown (word : List Char) : String := naming.front ++ String.ofList word ++ naming.back
  if n < usable then some (shown (naming.word naming.length n))
  else if naming.grows && n - usable < base.pow (naming.length + 1) then
    some (shown (last ++ naming.word (naming.length + 1) (n - usable)))
  else none

/-- The lines of a text, each with its end. -/
def wholeLines (ending : Char) (text : List Char) : List (List Char) :=
  let (last, lines) := text.foldr (fun c (line, lines) =>
    if c == ending then ([c], if line.isEmpty then lines else line :: lines)
    else (c :: line, lines)) (([], []) : List Char × _)
  if last.isEmpty then lines else last :: lines

/-- Lines in parts of at most a number of bytes. -/
def packed (room : Nat) : List (List Char) → List Char → List (List Char)
  | [], part => if part.isEmpty then [] else [part]
  | line :: rest, part =>
    if part.length + line.length ≤ room then packed room rest (part ++ line)
    else
      let front := if part.isEmpty then [] else [part]
      let pieces := Words.parts room line
      front ++ pieces.dropLast ++ packed room rest (pieces.getLastD [])

/-- The sizes of a number of parts of a size. -/
def sizes (size count : Nat) : List Nat :=
  (List.range count).map fun n => size / count + if n < size % count then 1 else 0

/-- The parts of a text that have given sizes. -/
def bySizes : List Nat → List Char → List (List Char)
  | [], _ => []
  | n :: rest, text => text.take n :: bySizes rest (text.drop n)

/-- Lines in parts: each belongs to the part in which it starts. -/
def byStarts (lines : List (List Char)) (sizes : List Nat) : List (List Char) :=
  let starts := lines.foldl (fun (found, place) line =>
    ((place, line) :: found, place + line.length)) (([] : List (Nat × List Char)), 0)
  let ends := sizes.foldl (fun (found, place) n => ((place, place + n) :: found, place + n))
    (([] : List (Nat × Nat)), 0)
  ends.1.reverse.map fun (first, behind) =>
    (starts.1.reverse.filterMap fun (place, line) =>
      if first ≤ place && place < behind then some line else none).flatten

/-- The parts of a text, and the number of the only one that is asked for. -/
def partsOf (cut : Cut) (ending : Char) (text : List Char) : List (List Char) × Option Nat :=
  let all := wholeLines ending text
  match cut with
  | .rows count => ((Words.parts count all).map List.flatten, none)
  | .bytes count => (Words.parts count text, none)
  | .lineBytes count => (packed count all [], none)
  | .parts count only => (bySizes (sizes text.length count) text, only)
  | .lineParts count only => (byStarts all (sizes text.length count), only)
  | .turns count only =>
    ((List.range count).map fun n => (all.zipIdx.filterMap fun (line, k) =>
      if k % count = n then some line else none).flatten, only)

/-- How parts are written. -/
structure Manner where
  naming : Naming
  tells : Bool := false
  skipsEmpty : Bool := false
  filter : Option String := none
  environment : Environment := []

/-- Writes one part. -/
def writePart (manner : Manner) (n : Nat) (part : List Char) : Tool Unit := do
  match manner.naming.name? n with
  | none => fail "output file suffixes exhausted"
  | some name =>
    if manner.tells then sayLine ("creating file " ++ Quote.always name)
    match manner.filter with
    | some command =>
      let given := ("FILE", name) :: manner.environment.filter fun entry => entry.1 != "FILE"
      match ← startWriting (shellWords command) given with
      | .error e => fail e.reason
      | .ok (descriptor, pid) =>
        discard (write descriptor (String.ofList part))
        close descriptor
        discard (awaitChild pid partLimit)
    | none =>
      match ← ask (.openFile name .writing) with
      | .error e => fail (Quote.file name ++ ": " ++ e.reason)
      | .ok descriptor =>
        discard (write descriptor (String.ofList part))
        close descriptor

/-- A way to cut into a number of parts. -/
def readParts (text : String) : Tool Cut := do
  let (kind, rest) := match text.splitOn "/" with
    | first :: rest =>
      if first = "l" || first = "r" then (first, rest) else ("", first :: rest)
    | [] => ("", [])
  let number (text : String) : Tool Nat := do
    match text.toNat? with
    | some n => if n = 0 then fail ("invalid number of chunks: " ++ Quote.always text) else return n
    | none => fail ("invalid number of chunks: " ++ Quote.always text)
  let make (count : Nat) (only : Option Nat) : Cut :=
    if kind = "l" then .lineParts count only else if kind = "r" then .turns count only
    else .parts count only
  match rest with
  | [count] => return make (← number count) none
  | [only, count] =>
    let n ← number count
    match only.toNat? with
    | some k =>
      if k = 0 || n < k then fail ("invalid chunk number: " ++ Quote.always only)
      return make n (some k)
    | none => fail ("invalid chunk number: " ++ Quote.always only)
  | _ => fail ("invalid number of chunks: " ++ Quote.always text)

/-- The options. -/
def table : OptionTable :=
  { letters := "a:b:C:del:n:t:uxv:D:X:f:s:"
    names := [("suffix-length", .required, 'a'), ("bytes", .required, 'b'),
      ("line-bytes", .required, 'C'), ("lines", .required, 'l'), ("number", .required, 'n'),
      ("elide-empty-files", .no, 'e'), ("numeric-suffixes", .possible, 'D'),
      ("hex-suffixes", .possible, 'X'), ("additional-suffix", .required, 's'),
      ("filter", .required, 'f'), ("separator", .required, 't'), ("unbuffered", .no, 'u'),
      ("verbose", .no, 'V')] }

/-- How the file is cut, by the options. -/
def cutFor (options : List Given) : Tool Cut := do
  let ways := options.filter fun o => "lbCn".toList.contains o.letter
  let size (what text : String) : Tool Nat := do
    match scaled? text with
    | some n =>
      if n = 0 then fail ("invalid number of " ++ what ++ ": " ++ Quote.always text)
      return n
    | none => fail ("invalid number of " ++ what ++ ": " ++ Quote.always text)
  match ways with
  | [] => return .rows 1000
  | [o] =>
    match o.letter with
    | 'l' => return .rows (← size "lines" o.argument)
    | 'b' => return .bytes (← size "bytes" o.argument)
    | 'C' => return .lineBytes (← size "bytes" o.argument)
    | _ => readParts o.argument
  | _ => failWords "cannot split in more than one way"

/-- The names of the parts, by the options. -/
def namingFor (options : List Given) (cut : Cut) (front : String) : Tool Naming := do
  let naming : Naming := { front, back := (lastOf? options 's').getD "" }
  let numbers := options.filter fun o => "dxDX".toList.contains o.letter
  let naming := match numbers.getLast? with
    | none => naming
    | some o =>
      let isHex := o.letter = 'x' || o.letter = 'X'
      let letters := (if isHex then "0123456789abcdef" else "0123456789").toList.toArray
      { naming with letters, first := o.argument.toNat?.getD 0 }
  let needed := match cut with
    | .parts n _ | .lineParts n _ | .turns n _ => n
    | _ => 0
  let length := ((List.range 8).find? fun k => needed ≤ naming.letters.size.pow k).getD 2
  let fixed := 0 < needed || 0 < naming.first
  match lastOf? options 'a' with
  | none => return { naming with length := max 2 length, grows := !fixed }
  | some text =>
    match text.toNat? with
    | none => fail ("invalid suffix length: " ++ Quote.always text)
    | some 0 => return { naming with length := max 2 length, grows := !fixed }
    | some n => return { naming with length := n, grows := false }

/-- Cuts a file into others. -/
def run (words : List String) (environment : Environment) : Tool Unit := do
  let words := words.flatMap fun word =>
    match word.toList with
    | '-' :: digits =>
      if !digits.isEmpty && digits.all Char.isDigit then ["-l", String.ofList digits] else [word]
    | _ => [word]
  let (options, operands) ← table.read words
  let cut ← cutFor options
  let (path, front) ← match operands with
    | [] => pure ("-", "x")
    | [path] => pure (path, "x")
    | [path, front] => pure (path, front)
    | _ :: _ :: word :: _ => failWords ("extra operand " ++ Quote.always word)
  let naming ← namingFor options cut front
  let ending := match (lastOf? options 't').map String.toList with
    | some ['\\', '0'] => '\x00'
    | some (c :: _) => c
    | _ => '\n'
  let text ← match ← open_ path with
    | .error e => fail ("cannot open " ++ Quote.always path ++ " for reading: " ++ e.reason)
    | .ok descriptor => do
      let text ← readAll descriptor
      close descriptor
      match text with
      | .ok text => pure text
      | .error e => fail (Quote.file path ++ ": " ++ e.reason)
  match partsOf cut ending text with
  | (parts, some only) => say (String.ofList (parts.getD (only - 1) []))
  | (parts, none) =>
    let skips := isGiven options 'e'
    let parts := if skips then parts.filter fun part => !part.isEmpty else parts
    let manner : Manner :=
      { naming, tells := isGiven options 'V', filter := lastOf? options 'f', environment }
    for (part, n) in parts.zipIdx do writePart manner n part

end Split

end DeviceLab.Tools
