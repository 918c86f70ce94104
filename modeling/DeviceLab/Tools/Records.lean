import DeviceLab.Tools.Listing
import DeviceLab.Tools.RecordTable

/-!
# The program for records

Each record of the input is split into fields and goes through the rules of a script.

* `Records.Running`: the carrying out of a script.
* `Records.formatted`: texts with values put into them.
* `Records.readRecord`: records of the input.
* `Records.eval`, `Records.exec`: expressions and statements.
* `Records.run`: the program `awk`.
-/

namespace DeviceLab.Tools.Records

open Decimal Text Unix Tool

/-! ### Numbers and texts -/

/-- A double-precision number by its bits; what is no number comes from an operation that is not
defined, and is negative. -/
def bitsOf (x : Float) : Binary64 := if x != x then Binary64.nan.negated else ⟨x.toBits⟩

/-- The double-precision number with some bits. -/
def ofBits (x : Binary64) : Float := Float.ofBits x.bits

/-- A natural number as a double-precision one. -/
def ofNat (n : Nat) : Float := ofBits (.ofNat n)

/-- A whole number as a double-precision one. -/
def ofInt (n : Int) : Float := ofBits (.ofInt n)

/-- A truth value as a number. -/
def ofBool (b : Bool) : Float := if b then 1 else 0

/-- The whole part of a number, and whether there is nothing else in it. -/
def wholePart? (x : Float) : Option (Int × Bool) :=
  match (bitsOf x).value with
  | .finite negative m q =>
    let (up, down) := Binary64.powTwo q
    let n : Int := (m * up / down : Nat)
    some (if negative then -n else n, m * up % down = 0)
  | _ => none

/-- What stays within signed or unsigned words of the machine. -/
def clamped (least most n : Int) : Int := max least (min most n)

/-- The greatest signed word of the machine, and the greatest unsigned one. -/
def greatestSigned : Int := 0x7fffffffffffffff
def greatestUnsigned : Int := 0xffffffffffffffff

/-- A number as a whole one, as far as words of the machine go. -/
def wholeOf (x : Float) : Int :=
  match wholePart? x with
  | some (n, _) => clamped (-greatestSigned) greatestUnsigned n
  | none => if 0 < x then greatestUnsigned else -greatestSigned

/-- The number at the start of a text. -/
def leadingNumber (s : String) : Float :=
  match Shell.Format.realOf? s.toList with
  | some (x, _) => ofBits x
  | none => 0

/-- The number that a text is as a whole, but for blanks around it. -/
def wholeNumber? (s : String) : Option Float :=
  let isBlank (c : Char) : Bool := c = ' ' || c = '\t' || c = '\n'
  let body := s.toList.dropWhile isBlank
  let starts := body.head?.any fun c => c.isDigit || c = '+' || c = '-' || c = '.'
  if !starts then none
  else
    match Shell.Format.realOf? body with
    | some (x, rest) => if rest.all isBlank then some (ofBits x) else none
    | none => none

/-- The remainder of a division that goes toward zero. -/
def remainder (x y : Float) : Float :=
  match (bitsOf x).value, (bitsOf y).value with
  | .finite negative m q, .finite _ n p =>
    if n = 0 then -(0 / 0)
    else
      let least := min q p
      let r := m * twoTo (q - least).toNat % (n * twoTo (p - least).toNat)
      let (up, down) := Binary64.powTwo least
      ofBits (.ofRatio negative (r * up) down)
  | .finite _ _ _, .infinite _ => x
  | _, _ => -(0 / 0)

namespace Value

/-- The value as a number. -/
def toFloat : Value → Float
  | .number x => x
  | .text s | .likely s => leadingNumber s
  | .unset => 0

/-- The number that a value counts as in comparisons, if it does. -/
def number? : Value → Option Float
  | .number x => some x
  | .likely s => wholeNumber? s
  | .unset => some 0
  | .text _ => none

/-- Whether a value counts as true. -/
def isTrue : Value → Bool
  | .number x => x != 0
  | .text s => !s.isEmpty
  | .likely s => match wholeNumber? s with
    | some x => x != 0
    | none => !s.isEmpty
  | .unset => false

end Value

def truth (b : Bool) : Value := .number (ofBool b)

/-! ### Formats -/

/-- What is wrong with a format. -/
inductive FormatFault where
  | tooFew
  | unknown (number : Nat)

/-- What is known while a format is carried out. -/
structure Filling where
  arguments : List Value
  /-- The number of the conversion at hand. -/
  count : Nat := 0
  /-- What has come of it, the last part first. -/
  done : List String := []

/-- The text that has come of a format. -/
def Filling.text (f : Filling) : String := String.join f.done.reverse

/-- A number by the letter of a conversion, or nothing if there is no such letter. -/
def converted? (layout : Layout) (letter : Char) (x : Float) : Option String :=
  let natural (base : Nat) : Option String :=
    let n := wholeOf x
    some (layout.natural base letter.isUpper (n % (greatestUnsigned + 1)).toNat)
  let real (style : Layout.Style) : Option String :=
    some (layout.real style letter.isUpper (bitsOf x))
  match letter with
  | 'd' | 'i' => some (layout.whole (wholeOf x))
  | 'o' => natural 8
  | 'u' => natural 10
  | 'x' | 'X' => natural 16
  | 'e' | 'E' => real .exponent
  | 'f' | 'F' => real .fixed
  | 'g' | 'G' => real .general
  | 'a' | 'A' => real .hexadecimal
  | _ => none

/-- The text of a number in a format for numbers, but for whole ones, which are told by their
digits. -/
def numberText (format : String) (x : Float) : String :=
  let plain : String := match format.toList with
    | '%' :: rest =>
      let places := rest.drop 1 |>.takeWhile Char.isDigit
      let precision := if rest.head? == some '.' then some (ofDigits places) else none
      let letter := (rest.drop (if precision.isSome then 1 + places.length else 0)).head?.getD 'g'
      (converted? { precision } letter x).getD ""
    | _ => format
  match wholePart? x with
  | some (n, true) =>
    if -greatestSigned ≤ n && n ≤ greatestUnsigned + 1 then
      toString (clamped (-greatestSigned) greatestUnsigned n)
    else plain
  | _ => plain

def Value.shown (format : String) : Value → String
  | .number x => numberText format x
  | .text s | .likely s => s
  | .unset => ""

/-- A format with values put into it; `fuel` bounds its length. -/
def fill (numberFormat : String) : Nat → List Char → Filling → Filling × Option FormatFault
  | 0, _, f => (f, none)
  | _ + 1, [], f => (f, none)
  | fuel + 1, '%' :: '%' :: rest, f => fill numberFormat fuel rest { f with done := "%" :: f.done }
  | fuel + 1, '%' :: rest, f =>
    let f := { f with count := f.count + 1 }
    let flags := rest.takeWhile fun c => "#-+ 0".toList.contains c
    let take (f : Filling) (text : List Char) : Option (Int × List Char × Filling) :=
      match text with
      | '*' :: rest =>
        match f.arguments with
        | v :: arguments => some (wholeOf v.toFloat, rest, { f with arguments })
        | [] => none
      | _ =>
        let digits := text.takeWhile Char.isDigit
        some (ofDigits digits, text.drop digits.length, f)
    match take f (rest.drop flags.length) with
    | none => (f, some .tooFew)
    | some (width, rest, f) =>
      let precise : Option (Option Nat × List Char × Filling) := match rest with
        | '.' :: rest => (take f rest).map fun ((n, rest, f) : Int × _) =>
          (if n < 0 then none else some n.toNat, rest, f)
        | _ => some (none, rest, f)
      match precise with
      | none => (f, some .tooFew)
      | some (precision, rest, f) =>
        let rest := rest.dropWhile fun c => c = 'h' || c = 'l' || c = 'L'
        let atLeft := flags.contains '-' || width < 0
        let layout : Layout :=
          { atLeft, zeros := flags.contains '0' && !atLeft, plus := flags.contains '+'
            blank := flags.contains ' ', full := flags.contains '#'
            width := width.natAbs, precision }
        match rest, f.arguments with
        | [], [] => (f, some .tooFew)
        | [], _ :: _ => (f, some (.unknown f.count))
        | _ :: _, [] => (f, some .tooFew)
        | letter :: rest, v :: arguments =>
          let goOn (text : String) : Filling × Option FormatFault :=
            fill numberFormat fuel rest { f with arguments, done := text :: f.done }
          match letter with
          | 's' => goOn (layout.text (v.shown numberFormat))
          | 'c' =>
            let c := match v with
              | .number x => Char.ofNat ((wholeOf x) % 256).toNat
              | _ => ((v.shown numberFormat).toList.head?).getD '\x00'
            goOn ({ layout with precision := none }.text c.toString)
          | _ =>
            match converted? layout letter v.toFloat with
            | some text => goOn text
            | none => (f, some (.unknown f.count))
  | fuel + 1, c :: rest, f =>
    let plain := (c :: rest).takeWhile (· != '%')
    fill numberFormat fuel ((c :: rest).drop plain.length)
      { f with done := String.ofList plain :: f.done }

/-- What comes of a format with some values, and what is wrong with it. -/
def formatted (numberFormat format : String) (arguments : List Value) :
    String × Option FormatFault :=
  let (f, fault) := fill numberFormat (format.length + 1) format.toList { arguments }
  (f.text, fault)

/-! ### Patterns -/

/-- The source of a pattern in the extended way, in which brackets may hold backslashes. -/
def plainSource : Nat → Bool → List Char → List Char
  | 0, _, _ => []
  | _ + 1, _, [] => []
  | fuel + 1, inSet, '\\' :: rest =>
    let isSpecial (c : Char) : Bool := "\\.[]()*+?\x7b\x7d|^$-".toList.contains c
    let (chars, rest) := textEscape rest
    match chars with
    | ['\\', c] =>
      (if isSpecial c then ['\\', c] else [c]) ++ plainSource fuel inSet rest
    | [c] => (if isSpecial c then ['\\', c] else [c]) ++ plainSource fuel inSet rest
    | _ => chars ++ plainSource fuel inSet rest
  | fuel + 1, false, '[' :: rest =>
    match rest with
    | '^' :: ']' :: rest => '[' :: '^' :: ']' :: plainSource fuel true rest
    | ']' :: rest => '[' :: ']' :: plainSource fuel true rest
    | _ => '[' :: plainSource fuel true rest
  | fuel + 1, true, '[' :: ':' :: rest =>
    let name := rest.takeWhile Char.isAlpha
    match rest.drop name.length with
    | ':' :: ']' :: rest => '[' :: ':' :: (name ++ ':' :: ']' :: plainSource fuel true rest)
    | _ => '[' :: ':' :: plainSource fuel true rest
  | fuel + 1, inSet, c :: rest => c :: plainSource fuel (inSet && c != ']') rest

/-- A pattern by its source, or what is wrong with it. -/
def patternOf (source : String) : Except String Pattern :=
  let text := plainSource (source.length + 1) false source.toList
  match Pattern.readEscaped text with
  | .ok found => if found.oddities.isEmpty then .ok found.pattern else .error "missing operand"
  | .error "Unmatched ( or \\(" => .error "missing ')'"
  | .error _ => .error "bad class -- [], [^] or ["

/-- How a text is split. -/
inductive Separator where
  /-- At blanks, which may stand at both ends. -/
  | blanks
  /-- Into its characters. -/
  | nothing
  | char (c : Char)
  | pattern (p : Pattern)

/-- The parts of a text between what a pattern finds; `fuel` bounds their number. -/
def splitBy (p : Pattern) (line : Pattern.Line) : Nat → Nat → Nat → List (List Char)
  | 0, _, _ => []
  | fuel + 1, start, place =>
    let part (behind : Nat) : List Char := (line.chars.extract start behind).toList
    match p.findFrom line place with
    | none => [part line.chars.size]
    | some (first, behind, _) =>
      if first = behind then
        if line.chars.size ≤ first then [part line.chars.size]
        else splitBy p line fuel start (first + 1)
      else part first :: splitBy p line fuel behind behind

/-- The parts of a text. -/
def Separator.split (separator : Separator) (text : List Char) : List String :=
  match separator with
  | .blanks =>
    (text.splitOnP fun c => c = ' ' || c = '\t' || c = '\n').filterMap fun part =>
      if part.isEmpty then none else some (String.ofList part)
  | .nothing => text.map Char.toString
  | .char c => if text.isEmpty then [] else (text.splitOn c).map String.ofList
  | .pattern p =>
    if text.isEmpty then []
    else (splitBy p { chars := text.toArray } (text.length + 2) 0 0).map String.ofList

/-! ### The state -/

/-- Where records are read. -/
structure Source where
  descriptor : Option Nat
  ahead : List Char := []
  /-- The number of the process that writes them. -/
  pid : Option Nat := none
  deriving Inhabited

/-- Where texts are written. -/
structure Sink where
  name : String
  descriptor : Nat
  pid : Option Nat
  /-- What is still to be written, the last part first, with its size. -/
  waiting : List String := []
  size : Nat := 0

/-- A variable: its value, and the number of its table. -/
structure Cell where
  value : Value := .unset
  table : Nat
  deriving Inhabited

/-- What is known while a script is carried out. -/
structure State where
  script : Script
  environment : Environment
  globals : Std.HashMap String Cell := {}
  /-- The variables of the function at hand. -/
  locals : List (String × Cell) := []
  tables : Std.HashMap Nat Table := {}
  /-- The number of the next table. -/
  fresh : Nat := 0
  record : String := ""
  fields : Array Value := #[]
  /-- Whether fields have been changed since the record was put together. -/
  isStale : Bool := false
  /-- The input that is read, and the number of the next operand. -/
  input : Option Source := none
  operand : Nat := 1
  hasInput : Bool := false
  isOver : Bool := false
  sources : List (String × Source) := []
  sinks : List Sink := []
  patterns : Std.HashMap String Pattern := {}
  /-- The rules that are in the middle of a range. -/
  ranges : List Nat := []
  seed : Float := 0
  random : Nat := 1

/-- Why the rest of a rule is not carried out. -/
inductive Stop where
  | next
  | nextFile
  | exit

/-- The carrying out of a script. -/
abbrev Running := ExceptT Stop (StateT State Tool)

/-- How a statement is left. -/
inductive Flow where
  | on
  | leave
  | proceed
  | give (value : Value)

/-- Something that programs do. -/
def lift (x : Tool α) : Running α := ExceptT.lift (StateT.lift x)

def failureStatus : Nat := 2

/-- Complains, and ends the program. -/
def failWith (detail : String) : Running α := lift do
  blurt detail
  throw failureStatus

/-- A table that has not been there. -/
def newTable : Running Nat := modifyGet fun s => (s.fresh, { s with fresh := s.fresh + 1 })

/-- A variable. -/
def cellOf (name : String) : Running Cell := do
  let s ← get
  match s.locals.lookup name with
  | some cell => return cell
  | none =>
    match s.globals[name]? with
    | some cell => return cell
    | none =>
      let cell : Cell := { table := ← newTable }
      modify fun s => { s with globals := s.globals.insert name cell }
      return cell

/-- Changes the value of a variable, but for what comes of that. -/
def setPlain (name : String) (value : Value) : Running Unit := do
  let cell ← cellOf name
  modify fun s =>
    if (s.locals.lookup name).isSome then
      { s with locals := s.locals.map fun entry =>
          if entry.1 == name then (name, { cell with value }) else entry }
    else { s with globals := s.globals.insert name { cell with value } }

/-- The value of a global variable. -/
def global (name : String) : Running Value := do
  return match (← get).globals[name]? with
    | some cell => cell.value
    | none => .unset

/-- The text of a global variable. -/
def globalText (name : String) : Running String := do
  let format := match ← global "CONVFMT" with
    | .text s | .likely s => s
    | _ => "%.6g"
  return (← global name).shown format

/-- The text of a value. -/
def textOf (v : Value) : Running String := do
  match v with
  | .number x => return numberText (← globalText "CONVFMT") x
  | .text s | .likely s => return s
  | .unset => return ""

/-- Tells where a complaint comes from. -/
def failRun (detail : String) : Running α := do
  let name ← globalText "FILENAME"
  let inFile ← globalText "FNR"
  let inAll ← globalText "NR"
  failWith ("run time error: " ++ detail ++ "\n\tFILENAME=\"" ++ name ++ "\" FNR=" ++ inFile
    ++ " NR=" ++ inAll)

/-- A pattern by its source. -/
def compiled (source : String) : Running Pattern := do
  match (← get).patterns[source]? with
  | some p => return p
  | none =>
    match patternOf source with
    | .ok p =>
      modify fun s => { s with patterns := s.patterns.insert source p }
      return p
    | .error e => failRun ("regular expression compile failed (" ++ e ++ ")\n" ++ source)

/-- How a text is split by what a separator tells. -/
def separatorOf (text : String) : Running Separator := do
  match text.toList with
  | [] => return .nothing
  | [c] => return if c = ' ' then .blanks else .char c
  | _ => return .pattern (← compiled text)

/-- The text of the record. -/
def recordText : Running String := do
  let s ← get
  if s.isStale then
    let between ← globalText "OFS"
    let texts ← s.fields.toList.mapM textOf
    let record := between.intercalate texts
    modify fun s => { s with record, isStale := false }
    return record
  else return s.record

/-- The fields of a text. -/
def fieldsOf (record : String) : Running (Array Value) := do
  let separator ← separatorOf (← globalText "FS")
  let texts ←
    if (← globalText "RS").isEmpty then
      match separator with
      | .blanks | .nothing => pure (separator.split record.toList)
      | _ =>
        if record.isEmpty then pure []
        else pure (((record.toList.splitOn '\n').map fun line =>
          if line.isEmpty then [""] else separator.split line).flatten)
    else pure (separator.split record.toList)
  return (texts.map Value.likely).toArray

/-- Makes a text the record. -/
def setRecord (record : String) : Running Unit := do
  let fields ← fieldsOf record
  modify fun s => { s with record, fields, isStale := false }

/-- Changes the number of fields. -/
def resize (n : Nat) : Running Unit :=
  modify fun s =>
    let kept := s.fields.extract 0 n
    { s with
      fields := kept ++ Array.replicate (n - kept.size) (.text "")
      isStale := true }

/-- The greatest number of a field. -/
def fieldLimit : Int := 0x80000000

/-- The number of a field. -/
def fieldNumber (v : Value) : Running Nat := do
  let n := wholeOf v.toFloat
  if n < 0 then failRun ("negative field index $" ++ toString n)
  else if fieldLimit ≤ n then failRun "field index is too large"
  else return n.toNat

def fieldAt (n : Nat) : Running Value := do
  if n = 0 then return .likely (← recordText)
  return (← get).fields.getD (n - 1) .unset

/-- Changes a field. -/
def setField (n : Nat) (value : Value) : Running Unit := do
  if n = 0 then setRecord (← textOf value)
  else
    let s ← get
    if s.fields.size < n then resize n
    modify fun s => { s with fields := s.fields.set! (n - 1) value, isStale := true }

/-- Changes a variable. -/
def setName (name : String) (value : Value) : Running Unit := do
  if name = "NF" && ((← get).locals.lookup name).isNone then resize (← fieldNumber value)
  else setPlain name value

/-- The key of an element. -/
def keyOf (values : List Value) : Running Key := do
  match values with
  | [.number x] =>
    match wholePart? x with
    | some (n, true) => return .number n
    | _ => return .text (← textOf (.number x))
  | _ =>
    let texts ← values.mapM textOf
    return .text ((← globalText "SUBSEP").intercalate texts)

/-- The table of a variable. -/
def tableOf (name : String) : Running (Nat × Table) := do
  let cell ← cellOf name
  return (cell.table, (← get).tables.getD cell.table {})

/-- Puts a table in the place of another one. -/
def setTable (number : Nat) (table : Table) : Running Unit :=
  modify fun s => { s with tables := s.tables.insert number table }

/-! ### Output -/

/-- Writes what waits to be written. -/
def flushSink (sink : Sink) : Running Sink := do
  if sink.waiting.isEmpty then return sink
  discard (lift (write sink.descriptor (String.join sink.waiting.reverse)))
  return { sink with waiting := [], size := 0 }

/-- Writes all that waits to be written. -/
def flushAll : Running Unit := do
  lift flush
  let sinks ← (← get).sinks.mapM flushSink
  modify fun s => { s with sinks }

/-- The way to write somewhere, which is opened if need be. -/
def sinkFor (outlet : Outlet) (name : String) : Running Sink := do
  match (← get).sinks.find? fun sink => sink.name == name with
  | some sink => return sink
  | none =>
    let cannot (e : IoError) : Running Sink :=
      failWith ("cannot open \"" ++ name ++ "\" for output (" ++ e.reason ++ ")")
    let sink : Sink ← match outlet with
      | .command => do
        flushAll
        match ← lift (startWriting (shellWords name) (← get).environment) with
        | .ok (descriptor, pid) => pure { name, descriptor, pid := some pid }
        | .error e => cannot e
      | _ => do
        let mode : OpenMode := if outlet = .file then .writing else .appending
        match ← lift (ask (.openFile name mode)) with
        | .ok descriptor => pure { name, descriptor, pid := none }
        | .error e => cannot e
    modify fun s => { s with sinks := sink :: s.sinks }
    return sink

/-- Writes a text to a place. -/
def emitTo (outlet : Option (Outlet × String)) (text : String) : Running Unit := do
  match outlet with
  | none => lift (say text)
  | some (outlet, name) =>
    if outlet != .command && (name == "/dev/stdout" || name == "-") then lift (say text)
    else if outlet != .command && name == "/dev/stderr" then lift (discard (write 2 text))
    else
      let sink ← sinkFor outlet name
      let sink :=
        { sink with waiting := text :: sink.waiting, size := sink.size + text.length }
      let sink ← if partSize ≤ sink.size then flushSink sink else pure sink
      modify fun s => { s with sinks := s.sinks.map fun other =>
        if other.name == name then sink else other }

/-- How a command has ended, as a number. -/
def statusOf (ending : Ending) : Nat :=
  match ending with
  | .code n => n
  | .signal n => 256 + n

/-- Closes what is open under a name; nothing if there is no such thing. -/
def closeNamed (name : String) : Running (Option Nat) := do
  let s ← get
  let awaited (pid : Option Nat) : Running Nat := do
    match pid with
    | some pid => return statusOf (← lift (awaitChild pid partLimit))
    | none => return 0
  let written ← match s.sinks.find? fun sink => sink.name == name with
    | some sink =>
      let sink ← flushSink (((← get).sinks.find? fun sink => sink.name == name).getD sink)
      discard (lift (ask (.close sink.descriptor)))
      modify fun s => { s with sinks := s.sinks.filter fun sink => sink.name != name }
      pure (some (← awaited sink.pid))
    | none => pure none
  match s.sources.lookup name with
  | some source =>
    source.descriptor.forM fun descriptor => lift (close descriptor)
    modify fun s => { s with sources := s.sources.filter fun entry => entry.1 != name }
    return some (← awaited source.pid)
  | none => return written

/-! ### Input -/

/-- The number of bytes that are read at once. -/
def readSize : Nat := 4096

/-- Reads on until a test holds for the characters that have been read, or there are no more. -/
def readUntilHas (test : List Char → Bool) : Nat → Source → Tool (Except IoError Source)
  | 0, source => return .ok source
  | fuel + 1, source => do
    if test source.ahead then return .ok source
    match source.descriptor with
    | none => return .ok source
    | some descriptor =>
      match ← readSome descriptor readSize with
      | .ok [] =>
        close descriptor
        return .ok { source with descriptor := none }
      | .ok part => readUntilHas test fuel { source with ahead := source.ahead ++ part }
      | .error e => return .error e

/-- The first record of some characters, and what is behind it.  `p` finds what stands between
records. -/
def recordBy (p : Pattern) (text : List Char) : List Char × List Char :=
  let line : Pattern.Line := { chars := text.toArray }
  let parts := (List.range (text.length + 1)).findSome? fun n =>
    (p.findAt line n).bind fun (m, _) => if n < m then some (n, m) else none
  match parts with
  | some (n, m) => (text.take n, text.drop m)
  | none => (text, [])

/-- The first paragraph of some characters, and what is behind it. -/
def paragraph : List Char → List Char → List Char × List Char
  | [], found => (found.reverse, [])
  | ['\n'], found => (found.reverse, [])
  | '\n' :: '\n' :: rest, found => (found.reverse, rest.dropWhile (· = '\n'))
  | c :: rest, found => paragraph rest (c :: found)

/-- The next record, if there is one. -/
def readRecord (source : Source) : Running (Except IoError (Option String × Source)) := do
  let between ← globalText "RS"
  let all := readUntilHas (fun _ => false) partLimit
  match between.toList with
  | [c] =>
    match ← lift (readUntilHas (·.contains c) partLimit source) with
    | .error e => return .error e
    | .ok source =>
      if source.ahead.isEmpty then return .ok (none, source)
      let record := source.ahead.takeWhile (· != c)
      let ahead := source.ahead.drop (record.length + 1)
      return .ok (some (String.ofList record), { source with ahead })
  | [] =>
    match ← lift (all source) with
    | .error e => return .error e
    | .ok source =>
      let text := source.ahead.dropWhile (· = '\n')
      if text.isEmpty then return .ok (none, { source with ahead := [] })
      let (record, ahead) := paragraph text []
      return .ok (some (String.ofList record), { source with ahead })
  | _ =>
    let p ← compiled between
    match ← lift (all source) with
    | .error e => return .error e
    | .ok source =>
      if source.ahead.isEmpty then return .ok (none, source)
      let (record, ahead) := recordBy p source.ahead
      return .ok (some (String.ofList record), { source with ahead })

/-- Whether an operand sets a variable, with its parts. -/
def settingOf? (word : String) : Option (String × String) :=
  let name := word.toList.takeWhile Pattern.isWordChar
  match name, word.toList.drop name.length with
  | c :: _, '=' :: value =>
    if c.isDigit then none
    else some (String.ofList name, String.ofList (withEscapes (value.length + 1) value))
  | _, _ => none

/-- Opens the next file of the input; tells whether there is one. -/
def openInput : Nat → Running Bool
  | 0 => return false
  | fuel + 1 => do
    let s ← get
    if s.isOver then return false
    let count := wholeOf (← global "ARGC").toFloat
    let start (name : String) (descriptor : Nat) : Running Bool := do
      setPlain "FILENAME" (.likely name)
      setPlain "FNR" (.number 0)
      modify fun s => { s with input := some { descriptor := some descriptor }, hasInput := true }
      return true
    if count ≤ s.operand then
      modify fun s => { s with isOver := true }
      if s.hasInput then return false
      start "-" 0
    else
      modify fun s => { s with operand := s.operand + 1 }
      let (_, table) ← tableOf "ARGV"
      let word ← textOf (table.get (.number s.operand))
      if word.isEmpty then openInput fuel
      else
        match settingOf? word with
        | some (name, value) =>
          setName name (.likely value)
          openInput fuel
        | none =>
          match ← lift (open_ (if word = "/dev/stdin" then "-" else word)) with
          | .ok descriptor => start word descriptor
          | .error e => failWith ("cannot open \"" ++ word ++ "\" (" ++ e.reason ++ ")")

/-- The next record of the input, if there is one. -/
def nextInput : Nat → Running (Option String)
  | 0 => return none
  | fuel + 1 => do
    match (← get).input with
    | none => if ← openInput partLimit then nextInput fuel else return none
    | some source =>
      match ← readRecord source with
      | .error e => failWith ("read error (" ++ e.reason ++ ")")
      | .ok (some record, source) =>
        modify fun s => { s with input := some source }
        for name in ["NR", "FNR"] do
          setPlain name (.number ((← global name).toFloat + 1))
        return some record
      | .ok (none, _) =>
        modify fun s => { s with input := none }
        nextInput fuel

/-- The records under a name, which is opened if need be; nothing if that is impossible. -/
def sourceFor (origin : Origin) (name : String) : Running (Option Source) := do
  match (← get).sources.lookup name with
  | some source => return some source
  | none =>
    let source ← match origin with
      | .command => do
        flushAll
        match ← lift (startReading (shellWords name) (← get).environment) with
        | .ok (descriptor, pid) => pure (some { descriptor := some descriptor, pid := some pid })
        | .error _ => pure none
      | _ => do
        match ← lift (open_ (if name = "/dev/stdin" then "-" else name)) with
        | .ok descriptor => pure (some { descriptor := some descriptor })
        | .error _ => pure none
    source.forM fun source => modify fun s => { s with sources := (name, source) :: s.sources }
    return source

/-! ### Replacements -/

/-- What is put in the place of something found: an ampersand stands for it. -/
def replacementFor (found : List Char) : Nat → List Char → List Char
  | 0, _ => []
  | _ + 1, [] => []
  | fuel + 1, '\\' :: '&' :: rest => '&' :: replacementFor found fuel rest
  | fuel + 1, '\\' :: '\\' :: rest => '\\' :: replacementFor found fuel rest
  | fuel + 1, c :: rest => (if c = '&' then found else [c]) ++ replacementFor found fuel rest

/-- Puts something in the place of what a pattern finds, once or always; tells how often. -/
def substituted (p : Pattern) (line : Pattern.Line) (new : List Char) (all : Bool) :
    Nat → Nat → Option Nat → List Char × Nat
  | 0, _, _ => ([], 0)
  | fuel + 1, place, lastEnd =>
    let chars (start behind : Nat) : List Char := (line.chars.extract start behind).toList
    match p.findFrom line place with
    | none => (chars place line.chars.size, 0)
    | some (start, behind, _) =>
      if start = behind && lastEnd == some start then
        if line.chars.size ≤ start then ([], 0)
        else
          let (rest, n) := substituted p line new all fuel (start + 1) none
          (chars place (start + 1) ++ rest, n)
      else
        let text := replacementFor (chars start behind) (new.length + 1) new
        let front := chars place start ++ text
        if !all then (front ++ chars behind line.chars.size, 1)
        else if start = behind then
          if line.chars.size ≤ start then (front, 1)
          else
            let (rest, n) := substituted p line new all fuel (start + 1) none
            (front ++ chars start (start + 1) ++ rest, n + 1)
        else
          let (rest, n) := substituted p line new all fuel behind (some behind)
          (front ++ rest, n + 1)

/-- The whole part of a number; what is no number counts as none. -/
def truncated (x : Float) : Int :=
  match wholePart? x with
  | some (n, _) => n
  | none => if 0 < x then greatestSigned else -greatestSigned

/-- How many characters are in front of a part of a text, and how many are in it.  A part that starts
in front of the text is the longer by that. -/
def partOf (first : Float) (length : Option Float) : Nat × Nat :=
  let start := truncated first
  let size := (length.map truncated).getD greatestSigned
  ((start - 1).toNat, (if start < 0 then size - start else size).toNat)

/-! ### Expressions -/

/-- The time that a step of a loop takes. -/
def loopTime : Nat := 1000

/-- The result of an operation on two numbers. -/
def Arith.apply (op : Arith) (a b : Float) : Float :=
  match op with
  | .plus => a + b
  | .minus => a - b
  | .times => a * b
  | .over => a / b
  | .rest => remainder a b
  | .power => a ^ b

/-- Whether a comparison holds for two ordered things. -/
def Comparison.holds (how : Comparison) (less equal greater : Bool) : Bool :=
  match how with
  | .less => less
  | .atMost => less || equal
  | .equal => equal
  | .unequal => !equal
  | .atLeast => greater || equal
  | .greater => greater

/-- Compares two values. -/
def compared (how : Comparison) (a b : Value) : Running Bool := do
  match a.number?, b.number? with
  | some x, some y => return how.holds (x < y) (x == y) (y < x)
  | _, _ =>
    let a ← textOf a
    let b ← textOf b
    return how.holds (decide (a < b)) (a == b) (decide (b < a))

/-- A random number between zero and one. -/
def nextRandom : Running Float := modifyGet fun s =>
  let n := (s.random * 6364136223846793005 + 1442695040888963407) % Nat.pow 2 64
  (ofNat (n / Nat.pow 2 33) / ofNat (Nat.pow 2 31), { s with random := n })

/-- Numbers of numbers. -/
def realFunction? (name : String) : Option (Float → Float) :=
  match name with
  | "cos" => some Float.cos
  | "exp" => some Float.exp
  | "log" => some Float.log
  | "sin" => some Float.sin
  | "sqrt" => some Float.sqrt
  | _ => none

/-- What a function without effects makes of the values of its arguments. -/
def plainBuiltin (name : String) (values : List Value) : Running Value := do
  let first := values.headD .unset
  let second := (values.drop 1).headD .unset
  match realFunction? name with
  | some f =>
    let x := f first.toFloat
    return if x != x && name == "log" then .text "nan" else .number x
  | none =>
    match name with
    | "atan2" => return .number (Float.atan2 first.toFloat second.toFloat)
    | "int" =>
      match wholePart? first.toFloat with
      | some (n, _) => return .number (ofInt n)
      | none => return .number first.toFloat
    | "index" =>
      let text := (← textOf first).toList
      let wanted := (← textOf second).toList
      let place := (List.range (text.length + 1)).find? fun n => wanted.isPrefixOf (text.drop n)
      return .number (ofNat (if text.isEmpty then 0 else (place.map (· + 1)).getD 0))
    | "substr" =>
      let text := (← textOf first).toList
      let (start, length) := partOf second.toFloat ((values.drop 2).head?.map Value.toFloat)
      return .text (String.ofList ((text.drop start).take length))
    | "tolower" => return .text (String.ofList ((← textOf first).toList.map Char.toLower))
    | "toupper" => return .text (String.ofList ((← textOf first).toList.map Char.toUpper))
    | "rand" => return .number (← nextRandom)
    | "srand" =>
      let former := (← get).seed
      let seed ← match values with
        | [] => pure (ofNat ((← lift (ask .time)) / 1000000000))
        | v :: _ => pure v.toFloat
      modify fun s => { s with seed, random := (wholeOf seed).natAbs }
      return .number former
    | "systime" => return .number (ofNat ((← lift (ask .time)) / 1000000000))
    | "strftime" =>
      let format ← match values with
        | [] => pure "%c"
        | v :: _ => textOf v
      let seconds ← match values with
        | _ :: v :: _ => pure (wholeOf v.toFloat).toNat
        | _ => pure ((← lift (ask .time)) / 1000000000)
      return .text (dateText (seconds * 1000000000) format)
    | "sprintf" =>
      let format ← textOf first
      let (text, fault) := formatted (← globalText "CONVFMT") format (values.drop 1)
      match fault with
      | none => return .text text
      | some .tooFew =>
        failRun ("not enough arguments passed to sprintf(\"" ++ format ++ "\")")
      | some (.unknown n) =>
        failRun ("improper conversion(number " ++ toString n ++ ") in sprintf(\"" ++ format
          ++ "\")")
    | "close" =>
      match ← closeNamed (← textOf first) with
      | some status => return .number (ofNat status)
      | none => return .number (-1)
    | "fflush" =>
      match values with
      | [] =>
        flushAll
        return .number 0
      | v :: _ =>
        let name ← textOf v
        match (← get).sinks.find? fun sink => sink.name == name with
        | some sink =>
          let sink ← flushSink sink
          modify fun s => { s with sinks := s.sinks.map fun other =>
            if other.name == name then sink else other }
          return .number 0
        | none =>
          if name.isEmpty || name = "/dev/stdout" then
            flushAll
            return .number 0
          else return .number (-1)
    | "system" =>
      flushAll
      let pid ← lift (startChild (pure ()) (shellWords (← textOf first)) (← get).environment)
      return .number (ofNat (statusOf (← lift (awaitChild pid partLimit))))
    | _ => return .unset

mutual

/-- The value of an expression; `fuel` bounds the number of steps. -/
def eval : Nat → Expr → Running Value
  | 0, _ => failWith "out of steps"
  | fuel + 1, e => do
    match e with
    | .number x => return .number x
    | .text s => return .text s
    | .pattern source => return truth (← looksLike fuel (.likely (← recordText)) (.pattern source))
    | .name name =>
      if name = "NF" && ((← get).locals.lookup name).isNone then
        return .number (ofNat (← get).fields.size)
      return (← cellOf name).value
    | .item table index =>
      let key ← keyOf (← evalAll fuel index)
      let (number, contents) ← tableOf table
      let (contents, _) := contents.reach key true
      setTable number contents
      return contents.get key
    | .field number => fieldAt (← fieldNumber (← eval fuel number))
    | .group e => eval fuel e
    | .assign none target value =>
      let value ← eval fuel value
      store fuel target value
      return value
    | .assign (some op) target value =>
      let b ← eval fuel value
      let a ← eval fuel target
      let value := .number (op.apply a.toFloat b.toFloat)
      store fuel target value
      return value
    | .step isUp isBefore target =>
      let former := (← eval fuel target).toFloat
      let new := if isUp then former + 1 else former - 1
      store fuel target (.number new)
      return .number (if isBefore then new else former)
    | .negative e => return .number (-(← eval fuel e).toFloat)
    | .positive e => return .number (← eval fuel e).toFloat
    | .no e => return truth !(← eval fuel e).isTrue
    | .arith op a b =>
      let a ← eval fuel a
      let b ← eval fuel b
      return .number (op.apply a.toFloat b.toFloat)
    | .join a b =>
      let a ← textOf (← eval fuel a)
      let b ← textOf (← eval fuel b)
      return .text (a ++ b)
    | .compare how a b =>
      let a ← eval fuel a
      let b ← eval fuel b
      return truth (← compared how a b)
    | .likes inverts a b =>
      let a ← eval fuel a
      return truth ((← looksLike fuel a b) != inverts)
    | .both a b =>
      if (← eval fuel a).isTrue then return truth (← eval fuel b).isTrue else return truth false
    | .either a b =>
      if (← eval fuel a).isTrue then return truth true else return truth (← eval fuel b).isTrue
    | .choice test a b => if (← eval fuel test).isTrue then eval fuel a else eval fuel b
    | .within index table =>
      let key ← keyOf (← evalAll fuel index)
      let (number, contents) ← tableOf table
      let (contents, isThere) := contents.reach key false
      setTable number contents
      return truth isThere
    | .builtin name arguments => evalBuiltin fuel name arguments
    | .call name arguments => evalCall fuel name arguments
    | .take origin from_ target => evalTake fuel origin from_ target

/-- The values of expressions. -/
def evalAll : Nat → List Expr → Running (List Value)
  | 0, _ => return []
  | _ + 1, [] => return []
  | fuel + 1, e :: rest => do
    let value ← eval fuel e
    return value :: (← evalAll fuel rest)

/-- Assigns a value to a target. -/
def store : Nat → Expr → Value → Running Unit
  | 0, _, _ => return
  | fuel + 1, target, value => do
    match target with
    | .name name => setName name value
    | .item table index =>
      let key ← keyOf (← evalAll fuel index)
      let (number, contents) ← tableOf table
      setTable number (contents.put key value)
    | .field number =>
      let n ← fieldNumber (← eval fuel number)
      setField n value
    | .group target => store fuel target value
    | _ => return

/-- The pattern that an expression stands for. -/
def patternFor : Nat → Expr → Running Pattern
  | 0, _ => return .empty
  | fuel + 1, e => do
    match e with
    | .pattern source => compiled source
    | .group (.pattern source) => compiled source
    | e => compiled (← textOf (← eval fuel e))

/-- Whether a pattern finds something in a value. -/
def looksLike : Nat → Value → Expr → Running Bool
  | 0, _, _ => return false
  | fuel + 1, v, e => do
    let text ← textOf v
    let p ← patternFor fuel e
    return (p.findFrom { chars := text.toList.toArray } 0).isSome

/-- The value of a function that every script has. -/
def evalBuiltin : Nat → String → List Expr → Running Value
  | 0, _, _ => return .unset
  | fuel + 1, name, arguments => do
    match name, arguments with
    | "length", [] => return .number (ofNat (← recordText).length)
    | "length", e :: _ =>
      let tableSize ← match e with
        | .name name => do
          let cell ← cellOf name
          match cell.value with
          | .unset => pure ((← get).tables[cell.table]?.map fun t => t.values.size)
          | _ => pure none
        | _ => pure none
      match tableSize with
      | some n => return .number (ofNat n)
      | none => return .number (ofNat (← textOf (← eval fuel e)).length)
    | "split", text :: .name table :: rest =>
      let text ← textOf (← eval fuel text)
      let separator ← match rest with
        | [] => separatorOf (← globalText "FS")
        | .pattern source :: _ => pure (.pattern (← compiled source))
        | e :: _ => separatorOf (← textOf (← eval fuel e))
      let parts := separator.split text.toList
      let cell ← cellOf table
      setTable cell.table (.ofList (parts.map Value.likely))
      return .number (ofNat parts.length)
    | "match", text :: e :: _ =>
      let text ← textOf (← eval fuel text)
      let p ← patternFor fuel e
      let (start, length) : Float × Float :=
        match p.findFrom { chars := text.toList.toArray } 0 with
        | some (start, behind, _) => (ofNat (start + 1), ofNat (behind - start))
        | none => (0, -1)
      setPlain "RSTART" (.number start)
      setPlain "RLENGTH" (.number length)
      return .number start
    | "sub", e :: new :: rest | "gsub", e :: new :: rest =>
      let p ← patternFor fuel e
      let new ← textOf (← eval fuel new)
      let target := rest.headD (.field (.number 0))
      let text ← textOf (← eval fuel target)
      let line : Pattern.Line := { chars := text.toList.toArray }
      let (chars, n) := substituted p line new.toList (name = "gsub") (text.length + 2) 0 none
      if 0 < n then store fuel target (.text (String.ofList chars))
      return .number (ofNat n)
    | _, arguments => plainBuiltin name (← evalAll fuel arguments)

/-- The value of a function of the script. -/
def evalCall : Nat → String → List Expr → Running Value
  | 0, _, _ => return .unset
  | fuel + 1, name, arguments => do
    match (← get).script.functions.find? fun f => f.name == name with
    | none => failWith ("function " ++ name ++ " never defined")
    | some f =>
      lift (discard (ask (.pass loopTime)))
      let given ← evalArguments fuel arguments
      let missing ← (f.parameters.drop given.length).mapM fun _ => do
        let cell : Cell := { table := ← newTable }
        pure cell
      let former := (← get).locals
      modify fun s => { s with locals := f.parameters.zip (given ++ missing) }
      let flow ← exec fuel f.body
      modify fun s =>
        { s with
          locals := former
          tables := missing.foldl (fun tables cell => tables.erase cell.table) s.tables }
      match flow with
      | .give value => return value
      | _ => return .unset

/-- The variables that a function gets for its arguments; a table stays the same one. -/
def evalArguments : Nat → List Expr → Running (List Cell)
  | 0, _ => return []
  | _ + 1, [] => return []
  | fuel + 1, e :: rest => do
    let value ← eval fuel e
    let table ← match e with
      | .name name => do pure (← cellOf name).table
      | _ => newTable
    let cell : Cell := { value, table }
    return cell :: (← evalArguments fuel rest)

/-- Takes the next record; the value tells whether there was one. -/
def evalTake : Nat → Origin → Option Expr → Option Expr → Running Value
  | 0, _, _, _ => return .unset
  | fuel + 1, origin, from_, target => do
    let keep (record : String) : Running Value := do
      match target with
      | some target => store fuel target (.likely record)
      | none => setRecord record
      return .number 1
    match from_ with
    | none =>
      match ← nextInput partLimit with
      | some record => keep record
      | none => return .number 0
    | some e =>
      let name ← textOf (← eval fuel e)
      match ← sourceFor origin name with
      | none => return .number (-1)
      | some source =>
        match ← readRecord source with
        | .error _ => return .number (-1)
        | .ok (record, source) =>
          modify fun s => { s with sources := s.sources.map fun entry =>
            if entry.1 == name then (name, source) else entry }
          match record with
          | some record => keep record
          | none => return .number 0

/-- Carries out a statement. -/
def exec : Nat → Statement → Running Flow
  | 0, _ => failWith "out of steps"
  | fuel + 1, s => do
    match s with
    | .empty => return .on
    | .run e =>
      discard (eval fuel e)
      return .on
    | .print arguments outlet =>
      let text ←
        if arguments.isEmpty then recordText
        else
          let values ← evalAll fuel arguments
          let format ← globalText "OFMT"
          let between ← globalText "OFS"
          pure (between.intercalate (values.map (Value.shown format)))
      let place ← evalOutlet fuel outlet
      emitTo place (text ++ (← globalText "ORS"))
      return .on
    | .format arguments outlet =>
      let values ← evalAll fuel arguments
      let place ← evalOutlet fuel outlet
      let format ← textOf (values.headD .unset)
      let (text, fault) := formatted (← globalText "CONVFMT") format (values.drop 1)
      emitTo place text
      match fault with
      | none => return .on
      | some .tooFew =>
        failRun ("not enough arguments passed to printf(\"" ++ format ++ "\")")
      | some (.unknown n) =>
        failRun ("improper conversion(number " ++ toString n ++ ") in printf(\"" ++ format
          ++ "\")")
    | .block body => execAll fuel body
    | .choose test yes no =>
      if (← eval fuel test).isTrue then exec fuel yes
      else match no with
        | some no => exec fuel no
        | none => return .on
    | .loop test body => execLoop fuel (some test) none body
    | .again body test =>
      match ← exec fuel body with
      | .leave => return .on
      | .give value => return .give value
      | _ => execLoop fuel (some test) none body
    | .count first test next body =>
      if let some first := first then discard (eval fuel first)
      execLoop fuel test next body
    | .each name table body =>
      let (number, contents) ← tableOf table
      let (keys, contents) := contents.keys
      setTable number contents
      execEach fuel name keys body
    | .leave => return .leave
    | .proceed => return .proceed
    | .next => throw .next
    | .nextFile => throw .nextFile
    | .exit status =>
      if let some status := status then
        let n := wholeOf (← eval fuel status).toFloat
        lift (modify fun s => { s with status := (n % 256).toNat })
      throw .exit
    | .give none => return .give .unset
    | .give (some value) => return .give (← eval fuel value)
    | .delete table none =>
      let cell ← cellOf table
      setTable cell.table {}
      return .on
    | .delete table (some index) =>
      let key ← keyOf (← evalAll fuel index)
      let (number, contents) ← tableOf table
      setTable number (contents.erase key)
      return .on

/-- Where something is written. -/
def evalOutlet : Nat → Option (Outlet × Expr) → Running (Option (Outlet × String))
  | 0, _ => return none
  | _ + 1, none => return none
  | fuel + 1, some (outlet, e) => do return some (outlet, ← textOf (← eval fuel e))

/-- Carries out statements. -/
def execAll : Nat → List Statement → Running Flow
  | 0, _ => failWith "out of steps"
  | _ + 1, [] => return .on
  | fuel + 1, s :: rest => do
    match ← exec fuel s with
    | .on => execAll fuel rest
    | flow => return flow

/-- Carries out a body as long as a test holds. -/
def execLoop : Nat → Option Expr → Option Expr → Statement → Running Flow
  | 0, _, _, _ => failWith "out of steps"
  | fuel + 1, test, next, body => do
    lift (discard (ask (.pass loopTime)))
    let goesOn ← match test with
      | some test => do pure (← eval fuel test).isTrue
      | none => pure true
    if !goesOn then return .on
    match ← exec fuel body with
    | .leave => return .on
    | .give value => return .give value
    | _ =>
      if let some next := next then discard (eval fuel next)
      execLoop fuel test next body

/-- Carries out a body for each of some keys. -/
def execEach : Nat → String → List String → Statement → Running Flow
  | 0, _, _, _ => failWith "out of steps"
  | _ + 1, _, [], _ => return .on
  | fuel + 1, name, key :: keys, body => do
    setName name (.text key)
    match ← exec fuel body with
    | .leave => return .on
    | .give value => return .give value
    | _ => execEach fuel name keys body

end

/-! ### Rules -/

/-- The number of steps that a script may take. -/
def stepLimit : Nat := 1000000000000

/-- Whether a rule is for the record; `n` is its place. -/
def applies (n : Nat) (condition : When) : Running Bool := do
  match condition with
  | .first | .last => return false
  | .always => return true
  | .test e => return (← eval stepLimit e).isTrue
  | .range start stop =>
    let begins ←
      if (← get).ranges.contains n then pure true else do pure (← eval stepLimit start).isTrue
    if !begins then return false
    let ends := (← eval stepLimit stop).isTrue
    modify fun s =>
      let others := s.ranges.filter (· != n)
      { s with ranges := if ends then others else n :: others }
    return true

/-- Carries out what a rule says. -/
def perform (rule : Rule) : Running Unit := do
  let body := rule.body.getD (.print [] none)
  discard (exec stepLimit body)

/-- Carries out the rules for the start or the end. -/
def performEdges (isFirst : Bool) : Running Unit := do
  for rule in (← get).script.rules do
    match rule.condition, isFirst with
    | .first, true | .last, false => perform rule
    | _, _ => pure ()

/-- Lets the record go through the rules. -/
def performAll : Running Unit := do
  for (rule, n) in (← get).script.rules.zipIdx do
    if ← applies n rule.condition then perform rule

/-- Lets all records go through the rules; `fuel` bounds their number. -/
def performRecords : Nat → Running Unit
  | 0 => return
  | fuel + 1 => do
    match ← nextInput partLimit with
    | none => return
    | some record =>
      setRecord record
      let stop ← try
          performAll
          pure none
        catch stop => pure (some stop)
      match stop with
      | some .exit => throw .exit
      | some .nextFile => modify fun s => { s with input := none }
      | _ => pure ()
      performRecords fuel

/-- Whether a script reads the input. -/
def Script.reads (script : Script) : Bool :=
  script.rules.any fun rule => match rule.condition with
    | .first => false
    | _ => true

/-- Carries out a script. -/
def perform_ (settings : List (String × String)) (words : List String) : Running Unit := do
  for (name, value) in [("FS", " "), ("OFS", " "), ("RS", "\n"), ("ORS", "\n"),
      ("SUBSEP", "\x1c"), ("CONVFMT", "%.6g"), ("OFMT", "%.6g"), ("FILENAME", "")] do
    setPlain name (.text value)
  for (name, value) in [("NR", 0), ("FNR", 0), ("RSTART", 0), ("RLENGTH", -1)] do
    setPlain name (.number value)
  setPlain "ARGC" (.number (ofNat words.length))
  let arguments ← cellOf "ARGV"
  setTable arguments.table (words.zipIdx.foldl (fun t (word, n) =>
    t.put (.number n) (.likely word)) {})
  let environ ← cellOf "ENVIRON"
  setTable environ.table ((← get).environment.foldl (fun t (name, value) =>
    t.put (.text name) (.likely value)) {})
  for (name, value) in settings do
    setName name (.likely (String.ofList (withEscapes (value.length + 1) value.toList)))
  let guarded (x : Running Unit) : Running Bool := do
    try
      x
      return true
    catch
      | .exit => return false
      | _ => return true
  let goesOn ← guarded (performEdges true)
  if goesOn && (← get).script.reads then discard (guarded (performRecords stepLimit))
  discard (guarded (performEdges false))
  for sink in (← get).sinks do discard (closeNamed sink.name)

/-! ### Words -/

/-- What the words of the program ask for. -/
structure Demand where
  /-- Files that hold the script. -/
  files : List String := []
  settings : List (String × String) := []
  words : List String := []

/-- How the program is used. -/
def usage : String :=
  "Usage: mawk [Options] [Program] [file ...]\n\nProgram:\n" ++
  "    The -f option value is the name of a file containing program text.\n" ++
  "    If no -f option is given, a \"--\" ends option processing; the following\n" ++
  "    parameters are the program text.\n\nOptions:\n" ++
  "    -f program-file  Program  text is read from file instead of from the\n" ++
  "                     command-line.  Multiple -f options are accepted.\n" ++
  "    -F value         sets the field separator, FS, to value.\n" ++
  "    -v var=value     assigns value to program variable var.\n" ++
  "    --               unambiguous end of options.\n\n" ++
  "    Implementation-specific options are prefixed with \"-W\".  They can be\n" ++
  "    abbreviated:\n\n" ++
  "    -W version       show version information and exit.\n" ++
  "    -W compat        pre-POSIX 2001.\n" ++
  "    -W dump          show assembler-like listing of program and exit.\n" ++
  "    -W help          show this message and exit.\n" ++
  "    -W interactive   set unbuffered output, line-buffered input.\n" ++
  "    -W exec file     use file as program as well as last option.\n" ++
  "    -W posix         stricter POSIX checking.\n" ++
  "    -W random=number set initial random seed.\n" ++
  "    -W sprintf=number adjust size of sprintf buffer.\n" ++
  "    -W usage         show this message and exit.\n"

/-- Reads the words of the program. -/
def readWords : List String → Demand → Tool Demand
  | [], d => return d
  | [word], d => do
    match word.toList with
    | ['-', '-'] => return d
    | ['-', 'f'] | ['-', 'v'] | ['-', 'F'] | ['-', 'W'] =>
      fail ("option " ++ word ++ " lacks argument")
    | _ => readWord word d
  | word :: next :: rest, d => do
    match word.toList with
    | ['-', '-'] => return { d with words := next :: rest }
    | ['-', 'f'] => readWords rest { d with files := d.files ++ [next] }
    | ['-', 'F'] => readWords rest { d with settings := d.settings ++ [("FS", next)] }
    | ['-', 'v'] => do
      match settingOf? next with
      | some (name, _) =>
        let value := String.ofList (next.toList.drop (name.length + 1))
        readWords rest { d with settings := d.settings ++ [(name, value)] }
      | none => fail ("improper assignment: -v " ++ next)
    | ['-', 'W'] => readWords rest d
    | '-' :: _ :: _ => readWords (next :: rest) (← readWord word d)
    | _ => return { d with words := word :: next :: rest }
where
  /-- Reads a word that needs no other one. -/
  readWord (word : String) (d : Demand) : Tool Demand := do
    match word.toList with
    | '-' :: 'f' :: path => return { d with files := d.files ++ [String.ofList path] }
    | '-' :: 'F' :: value =>
      return { d with settings := d.settings ++ [("FS", String.ofList value)] }
    | '-' :: 'v' :: setting =>
      match settingOf? (String.ofList setting) with
      | some (name, _) =>
        let value := String.ofList (setting.drop (name.length + 1))
        return { d with settings := d.settings ++ [(name, value)] }
      | none => fail ("improper assignment: -v " ++ String.ofList setting)
    | '-' :: 'W' :: _ => return d
    | '-' :: _ :: _ => fail ("not an option: " ++ word)
    | _ => return { d with words := [word] }

/-- The functions that a script calls and does not have, as far as that can be seen. -/
def missingCall? (script : Script) (text : List Char) : Option String :=
  (tokens text).findSome? fun placed => match placed.token with
    | .call name => if script.functions.any fun f => f.name == name then none else some name
    | _ => none

/-- What is wrong with some patterns, with the line. -/
def faultyPattern? (patterns : List (Nat × String)) : Option (Nat × String) :=
  patterns.findSome? fun (line, source) => match patternOf source with
    | .ok _ => none
    | .error e => some (line, "regular expression compile failed (" ++ e ++ ")\n" ++ source)

/-- The script that the words of the program ask for, and the other words. -/
def scriptFor (d : Demand) : Tool (Script × List String) := do
  let (text, place, words) ← match d.files with
    | [] =>
      match d.words with
      | [] =>
        say usage
        throw 0
      | text :: words => pure (text.toList, "", words)
    | files => do
      let texts ← files.mapM fun path => do
        match ← open_ path with
        | .error e => fail ("cannot open \"" ++ path ++ "\" (" ++ e.reason ++ ")")
        | .ok descriptor =>
          let text ← readAll descriptor
          close descriptor
          pure (text.toOption.getD [])
      pure ((List.intersperse ['\n'] texts).flatten, files.headD "" ++ ": ", d.words)
  let failAt (complaints : List (Nat × String)) : Tool (Script × List String) := do
    for (line, complaint) in complaints do
      let word := if complaint.startsWith "unexpected character" then "" else "line "
      complain (place ++ word ++ toString line ++ ": " ++ complaint)
    throw failureStatus
  match readScript text with
  | .error complaints => failAt complaints
  | .ok (script, patterns) =>
    match faultyPattern? patterns with
    | some complaint => failAt [complaint]
    | none =>
      match missingCall? script text with
      | some name =>
        let lines := (text.filter (· = '\n')).length + 2
        failAt [(lines, "function " ++ name ++ " never defined")]
      | none => return (script, words)

/-- Lets records go through a script. -/
def run (words : List String) (environment : Environment) : Tool Unit := do
  modify fun s => { s with failStatus := failureStatus, name := (s.name.splitOn "/").getLastD s.name }
  if words.isEmpty then
    say usage
    throw 0
  let d ← readWords words {}
  let (script, operands) ← scriptFor d
  let state : State := { script, environment, seed := ofNat ((← ask .time) / 1000000000) }
  let name := (← get).name
  discard ((perform_ d.settings (name :: operands)).run.run state)

end DeviceLab.Tools.Records
