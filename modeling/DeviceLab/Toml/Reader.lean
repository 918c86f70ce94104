import DeviceLab.Decimal.Powers
import DeviceLab.Toml.Table
import DeviceLab.Json.Reader
import DeviceLab.Time.Timestamp

/-!
# Reading TOML

`Toml.document?` reads a text in the format TOML 1.0.  The result is a document without damage;
a point in time is a table whose only entry holds its text.

* Scalars: strings in four notations, truth values, whole numbers in four bases, numbers, and dates
  and times.
* Arrays over several lines, and tables in braces on one line.
* Sections, arrays of sections and dotted keys, whose rules are those of `Toml.Table`.
-/

namespace DeviceLab.Toml

open Decimal Json

abbrev Reader := StateT (List Char) Option

/-- Blanks inside a line. -/
def isWs (c : Char) : Bool := c == ' ' || c == '\t'

/-- Passes over blanks inside a line. -/
def skipWs : Reader Unit := modify (·.dropWhile isWs)

/-- A control character other than the tab, which no text or comment holds. -/
def isControl (c : Char) : Bool := (c.toNat < 0x20 && c != '\t') || c.toNat == 0x7f

/-- Takes a given character. -/
def mark (c : Char) : Reader Unit := fun cs =>
  match cs with
  | d :: rest => if c = d then some ((), rest) else none
  | [] => none

/-- The text behind a line end at its start. -/
def lineEnd? : List Char → Option (List Char)
  | '\n' :: rest => some rest
  | '\r' :: '\n' :: rest => some rest
  | _ => none

/-- Passes over a comment, up to the line end. -/
def skipComment : Reader Unit := fun cs =>
  match cs with
  | '#' :: rest => some ((), rest.dropWhile (!isControl ·))
  | _ => some ((), cs)

/-- Nothing but blanks and a comment up to the end of the line. -/
def finishLine : Reader Unit := do
  skipWs
  skipComment
  let cs ← get
  match lineEnd? cs with
  | some rest => set rest
  | none => guard cs.isEmpty

/-- Passes over blanks, comments and line ends; `fuel` bounds the number of lines. -/
def skipLines : Nat → Reader Unit
  | 0 => return
  | fuel + 1 => do
    skipWs
    skipComment
    match lineEnd? (← get) with
    | some rest =>
      set rest
      skipLines fuel
    | none => return

/-- Passes over blanks, comments and line ends. -/
def skipBlank : Reader Unit := do skipLines ((← get).length + 1)

/-- The character that `width` hexadecimal digits tell. -/
def hexCharacter (width : Nat) : Reader Char := fun cs => do
  let digits := cs.take width
  guard (digits.length = width)
  let n ← hexNumber? digits
  guard (n < 0xd800 ∨ (0xdfff < n ∧ n < 0x110000))
  return (Char.ofNat n, cs.drop width)

/-- An escape, from behind its backslash. -/
def escaped : Reader Char := do
  match ← get with
  | c :: rest =>
    set rest
    match c with
    | 'b' => return '\x08'
    | 't' => return '\t'
    | 'n' => return '\n'
    | 'f' => return '\x0c'
    | 'r' => return '\r'
    | '"' => return '"'
    | '\\' => return '\\'
    | 'u' => hexCharacter 4
    | 'U' => hexCharacter 8
    | _ => failure
  | [] => failure

/-- The characters of a string in quotes, from behind the first one. -/
def basicString : Nat → List Char → Reader String
  | 0, _ => failure
  | fuel + 1, seen => do
    match ← get with
    | [] => failure
    | '"' :: rest =>
      set rest
      return String.ofList seen.reverse
    | '\\' :: rest =>
      set rest
      let c ← escaped
      basicString fuel (c :: seen)
    | c :: rest =>
      guard !isControl c
      set rest
      basicString fuel (c :: seen)

/-- The characters of a string in apostrophes, which knows no escapes. -/
def literalString : Reader String := do
  let cs ← get
  let body := cs.takeWhile (· != '\'')
  guard (body.length < cs.length && body.all (!isControl ·))
  set (cs.drop (body.length + 1))
  return String.ofList body

/-- The number of quotes of a kind at the start, at most five. -/
def quoteRun (quote : Char) (cs : List Char) : Nat := ((cs.take 5).takeWhile (· == quote)).length

/-- The text without blanks and line ends at its start. -/
def skipEmptyLines : List Char → List Char
  | '\r' :: '\n' :: rest => skipEmptyLines rest
  | c :: rest => if isWs c || c == '\n' then skipEmptyLines rest else c :: rest
  | [] => []

/-- A backslash at the end of a line takes away all blanks up to the next visible character. -/
def lineContinuation? (cs : List Char) : Option (List Char) :=
  (lineEnd? (cs.dropWhile isWs)).map skipEmptyLines

/-- The characters of a string over several lines, from behind its three quotes.  Up to two quotes
in a row belong to it, also right before the three that end it. -/
def longString (quote : Char) (escapes : Bool) : Nat → List Char → Reader String
  | 0, _ => failure
  | fuel + 1, seen => do
    match ← get with
    | [] => failure
    | c :: rest =>
      if c = quote then
        let n := quoteRun quote (c :: rest)
        let all := c :: rest
        if 3 ≤ n then
          set (all.drop n)
          return String.ofList (List.replicate (n - 3) quote ++ seen).reverse
        else
          set (all.drop n)
          longString quote escapes fuel (List.replicate n quote ++ seen)
      else if escapes && c == '\\' then
        match lineContinuation? rest with
        | some after =>
          set after
          longString quote escapes fuel seen
        | none =>
          set rest
          let d ← escaped
          longString quote escapes fuel (d :: seen)
      else
        match lineEnd? (c :: rest) with
        | some after =>
          set after
          longString quote escapes fuel ('\n' :: seen)
        | none =>
          guard !isControl c
          set rest
          longString quote escapes fuel (c :: seen)

/-- A string in any notation, from its first quote on. -/
def stringValue : Reader String := do
  let cs ← get
  let body (rest : List Char) := (lineEnd? rest).getD rest
  match cs with
  | '"' :: '"' :: '"' :: rest =>
    set (body rest)
    longString '"' true (cs.length + 1) []
  | '\'' :: '\'' :: '\'' :: rest =>
    set (body rest)
    longString '\'' false (cs.length + 1) []
  | '"' :: rest =>
    set rest
    basicString (cs.length + 1) []
  | '\'' :: rest =>
    set rest
    literalString
  | _ => failure

/-- A character of a key without quotes. -/
def isBare (c : Char) : Bool := c.isAlphanum || c == '_' || c == '-'

/-- One part of a key. -/
def simpleKey : Reader String := do
  match ← get with
  | '"' :: rest =>
    set rest
    basicString (rest.length + 1) []
  | '\'' :: rest =>
    set rest
    literalString
  | cs =>
    let name := cs.takeWhile isBare
    guard !name.isEmpty
    set (cs.drop name.length)
    return String.ofList name

/-- The parts of a key, with points between them; `fuel` bounds their number. -/
def dottedKey : Nat → Reader (List String)
  | 0 => failure
  | fuel + 1 => do
    skipWs
    let name ← simpleKey
    skipWs
    match ← get with
    | '.' :: rest =>
      set rest
      return name :: (← dottedKey fuel)
    | _ => return [name]

/-- The greatest number of parts of a key, and of arrays and tables in braces around a value. -/
def nestingLimit : Nat := 79

def key : Reader (List String) := dottedKey nestingLimit

/-- Digits of a base with underscores between them, without the underscores. -/
def grouped? (isOne : Char → Bool) : List Char → Option (List Char)
  | [] => none
  | [c] => if isOne c then some [c] else none
  | c :: '_' :: rest => if isOne c then (grouped? isOne rest).map (c :: ·) else none
  | c :: rest => if isOne c then (grouped? isOne rest).map (c :: ·) else none

/-- Decimal digits of a whole part: no superfluous zero in front. -/
def wholeDigits? (cs : List Char) : Option (List Char) :=
  match cs with
  | ['0'] => some cs
  | '0' :: _ => none
  | _ => grouped? isDigit cs

/-- The value of a digit in a base up to sixteen. -/
def ofBase (base : Nat) (digits : List Char) : Nat :=
  digits.foldl (fun n c => n * base + (hexDigit? c).getD 0) 0

/-- A natural number after a mark for its base. -/
def based? : List Char → Option Nat
  | '0' :: 'x' :: rest => (grouped? (fun c => (hexDigit? c).isSome) rest).map (ofBase 16)
  | '0' :: 'o' :: rest => (grouped? (fun c => '0' ≤ c && c ≤ '7') rest).map (ofBase 8)
  | '0' :: 'b' :: rest => (grouped? (fun c => c == '0' || c == '1') rest).map (ofBase 2)
  | _ => none

/-- A sign and what follows it. -/
def signed : List Char → Bool × Bool × List Char
  | '-' :: rest => (true, true, rest)
  | '+' :: rest => (true, false, rest)
  | cs => (false, false, cs)

/-- A whole number of 64 bits. -/
def integerToken? (cs : List Char) : Option Int :=
  match based? cs with
  | some n => if n < twoTo 63 then some n else none
  | none => do
    let (_, negative, body) := signed cs
    let n := ofDigits (← wholeDigits? body)
    if negative then if n ≤ twoTo 63 then some (-(n : Int)) else none
    else if n < twoTo 63 then some n else none

/-- The exponent of a number. -/
def exponentToken? (cs : List Char) : Option Int := do
  let (_, negative, body) := signed cs
  let size : Int := ofDigits (← grouped? isDigit body)
  return if negative then -size else size

/-- A number with a fraction or an exponent, or a word for one. -/
def floatToken? (cs : List Char) : Option Binary64 := do
  let (_, negative, body) := signed cs
  if body = "inf".toList then return .infinity negative
  if body = "nan".toList then
    return if negative then .ofParts true Binary64.nan.bits.toNat else .nan
  let whole := body.takeWhile fun c => c != '.' && c != 'e' && c != 'E'
  let digits ← wholeDigits? whole
  let rest := body.drop whole.length
  let (fraction, rest) ← match rest with
    | '.' :: more =>
      let part := more.takeWhile fun c => c != 'e' && c != 'E'
      (grouped? isDigit part).map fun part' => (part', more.drop part.length)
    | _ => some ([], rest)
  let exponent ← match rest with
    | [] => if whole.length = body.length then none else some 0
    | _ :: more => exponentToken? more
  let x := (Numeral.ofParts negative digits fraction exponent).toBinary64
  if x = .infinity false then none else some x

/-- A number of exactly `width` digits. -/
def fixedDigits? (width : Nat) (cs : List Char) : Option Nat :=
  if cs.length = width && cs.all isDigit then some (ofDigits cs) else none

/-- The text of a day that exists, such as `1979-05-27`. -/
def dateText? (cs : List Char) : Option (List Char) :=
  match cs with
  | [a, b, c, d, '-', e, f, '-', g, h] => do
    let year ← fixedDigits? 4 [a, b, c, d]
    let month ← fixedDigits? 2 [e, f]
    let day ← fixedDigits? 2 [g, h]
    if (CalendarDay.mk year month day).isValid then some cs else none
  | _ => none

/-- Two digits of a number below a limit. -/
def isBelow (limit : Nat) (a b : Char) : Bool := (fixedDigits? 2 [a, b]).any (· < limit)

/-- The text of an offset from universal time, or of none.  An offset of nothing is positive. -/
def offsetText? (cs : List Char) : Option (List Char) :=
  match cs with
  | [] => some []
  | ['Z'] | ['z'] => some ['Z']
  | [s, a, b, ':', c, d] =>
    if (s == '+' || s == '-') && isBelow 24 a b && isBelow 60 c d then
      some ((if [a, b, c, d].all (· == '0') then '+' else s) :: [a, b, ':', c, d])
    else none
  | _ => none

/-- The text of a fraction of a second to its ninth digit, without zeros at its end. -/
def fractionText (digits : List Char) : List Char :=
  match ((digits.take 9).reverse.dropWhile (· == '0')).reverse with
  | [] => []
  | shown => '.' :: shown

/-- The text of a time of the day, followed by an offset if `zoned`. -/
def timeText? (zoned : Bool) (cs : List Char) : Option (List Char) :=
  match cs with
  | a :: b :: ':' :: c :: d :: ':' :: e :: f :: rest =>
    let (fraction, after) := match rest with
      | '.' :: more => (more.takeWhile isDigit, more.dropWhile isDigit)
      | _ => ([], rest)
    if (rest.head? == some '.' && fraction.isEmpty) || (!zoned && !after.isEmpty) then none
    else if isBelow 24 a b && isBelow 60 c d && isBelow 61 e f then
      (offsetText? after).map fun offset =>
        [a, b, ':', c, d, ':', e, f] ++ fractionText fraction ++ offset
    else none
  | _ => none

/-- The text of a date, a time, or both. -/
def momentText? (cs : List Char) : Option String := do
  let shown ← ((timeText? false cs).or (dateText? cs)).or (do
    let date ← dateText? (cs.take 10)
    match cs.drop 10 with
    | c :: rest =>
      if c = 'T' ∨ c = 't' ∨ c = ' ' then (timeText? true rest).map (date ++ 'T' :: ·) else none
    | [] => none)
  return String.ofList shown

/-- The characters of a number, a word or a point in time. -/
def isTokenChar (c : Char) : Bool :=
  c.isAlphanum || c == '_' || c == '+' || c == '-' || c == '.' || c == ':'

/-- The characters of a scalar without quotes.  A blank after a date belongs to it when a time
follows. -/
def token : Reader (List Char) := do
  let cs ← get
  let first := cs.takeWhile isTokenChar
  let rest := cs.drop first.length
  let both := match rest with
    | ' ' :: c :: more =>
      if (dateText? first).isSome && isDigit c then
        first ++ ' ' :: (c :: more).takeWhile isTokenChar
      else first
    | _ => first
  set (cs.drop both.length)
  return both

/-- The name of the entry that holds the text of a point in time. -/
def momentName : String := "$__toml_private_datetime"

/-- The value of a scalar without quotes. -/
def scalar (cs : List Char) : Option Document :=
  if cs = "true".toList then some (.bool true)
  else if cs = "false".toList then some (.bool false)
  else
    (((momentText? cs).map fun shown => .object [(some momentName, .string shown)] .whole).or
      ((floatToken? cs).map .real)).or ((integerToken? cs).map .int)

mutual

/-- A value; `fuel` bounds the steps and `depth` the nesting. -/
def value : Nat → Nat → Reader Document
  | 0, _ => failure
  | fuel + 1, depth => do
    match ← get with
    | '"' :: _ => return .string (← stringValue)
    | '\'' :: _ => return .string (← stringValue)
    | '[' :: rest =>
      guard (depth < nestingLimit)
      set rest
      return .array (← arrayItems fuel (depth + 1)) .whole
    | '\x7b' :: rest =>
      guard (depth < nestingLimit)
      set rest
      skipWs
      match ← get with
      | '\x7d' :: after =>
        set after
        return .object [] .whole
      | _ => return .object (entryDocuments (← inlineEntries fuel (depth + 1) [])) .whole
    | _ => scalar (← token)

/-- The items of an array up to its bracket; a comma may follow the last one. -/
def arrayItems : Nat → Nat → Reader (List Document)
  | 0, _ => failure
  | fuel + 1, depth => do
    skipBlank
    match ← get with
    | ']' :: rest =>
      set rest
      return []
    | _ =>
      let item ← value fuel depth
      skipBlank
      match ← get with
      | ',' :: rest =>
        set rest
        return item :: (← arrayItems fuel depth)
      | ']' :: rest =>
        set rest
        return [item]
      | _ => failure

/-- The entries of a table in braces, on one line and without a comma after the last one. -/
def inlineEntries : Nat → Nat → Entries → Reader Entries
  | 0, _, _ => failure
  | fuel + 1, depth, entries => do
    let name ← key
    mark '='
    skipWs
    let found ← value fuel depth
    let entries ← assign name found entries
    skipWs
    match ← get with
    | ',' :: rest =>
      set rest
      inlineEntries fuel depth entries
    | '\x7d' :: rest =>
      set rest
      return entries
    | _ => failure

end

/-- The lines of a text: comments, headers, and keys with their values in the section of the header
before them. -/
def readLines : Nat → List String → Entries → Reader Entries
  | 0, _, _ => failure
  | fuel + 1, header, root => do
    skipWs
    match ← get with
    | [] => return root
    | '[' :: '[' :: rest =>
      set rest
      let path ← key
      mark ']'
      mark ']'
      finishLine
      readLines fuel path (← append path root)
    | '[' :: rest =>
      set rest
      let path ← key
      mark ']'
      finishLine
      readLines fuel path (← define path root)
    | c :: rest =>
      if c = '#' ∨ (lineEnd? (c :: rest)).isSome then
        finishLine
        readLines fuel header root
      else
        let name ← key
        mark '='
        skipWs
        let found ← value (rest.length + 2) 0
        finishLine
        readLines fuel header (← assignIn header name found root)

/-- The document of a text in TOML; a byte order mark may stand in front. -/
def document? (text : String) : Option Document := do
  let cs := match text.toList with
    | '\uFEFF' :: rest => rest
    | cs => cs
  let (root, _) ← readLines (cs.length + 1) [] [] cs
  return .object (entryDocuments root) .whole

end DeviceLab.Toml
