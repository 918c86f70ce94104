import DeviceLab.Decimal.Formatted
import DeviceLab.Decimal.Numeral
import DeviceLab.Shell.Arithmetic

/-!
# Formatted output

What `echo` and `printf` make of their words.  A backslash stands for a character together with what
follows it; a percent sign in a format stands for the next word.

* `Format.unescaped`: a text with its escapes carried out.
* `Format.carryOut`: a format, over and over until all words have been used.
-/

namespace DeviceLab.Shell.Format

open Decimal

def isOctal (c : Char) : Bool := '0' ≤ c && c ≤ '7'

def ofOctal (digits : List Char) : Char :=
  Char.ofNat (digits.foldl (fun n c => n * 8 + (c.toNat - 48)) 0 % 256)

/-- The character that an escape stands for, from behind its backslash, and what is behind it. -/
def escape (text : List Char) : Char × List Char :=
  match text with
  | '\\' :: rest => ('\\', rest)
  | 'a' :: rest => ('\x07', rest)
  | 'b' :: rest => ('\x08', rest)
  | 'e' :: rest => ('\x1b', rest)
  | 'f' :: rest => ('\x0c', rest)
  | 'n' :: rest => ('\n', rest)
  | 'r' :: rest => ('\r', rest)
  | 't' :: rest => ('\t', rest)
  | 'v' :: rest => ('\x0b', rest)
  | c :: _ =>
    if isOctal c then
      let digits := (text.take 3).takeWhile isOctal
      (ofOctal digits, text.drop digits.length)
    else ('\\', text)
  | [] => ('\\', [])

/-- A text with its escapes carried out, in reverse, and whether it was read to its end; `fuel` bounds
its length. -/
def unescapedFrom : Nat → List Char → List Char → List Char × Bool
  | 0, _, done => (done, true)
  | _ + 1, [], done => (done, true)
  | fuel + 1, '\\' :: text, done =>
    match text with
    | 'c' :: _ => (done, false)
    | '0' :: d :: rest =>
      let (c, rest) := escape (if isOctal d then d :: rest else text)
      unescapedFrom fuel rest (c :: done)
    | _ =>
      let (c, rest) := escape text
      unescapedFrom fuel rest (c :: done)
  | fuel + 1, c :: text, done => unescapedFrom fuel text (c :: done)

/-- A text with its escapes carried out, and whether it was read to its end. -/
def unescaped (text : String) : String × Bool :=
  let (done, isWhole) := unescapedFrom (text.length + 1) text.toList []
  (String.ofList done.reverse, isWhole)

/-- What `echo` writes. -/
def echoed (words : List String) : String :=
  let (isOpen, words) := match words with
    | "-n" :: rest => (true, rest)
    | _ => (false, words)
  let rec go : List String → List String → String
    | [], done => String.join done.reverse ++ if isOpen then "" else "\n"
    | word :: rest, done =>
      let (text, isWhole) := unescaped word
      if !isWhole then String.join (text :: done).reverse
      else go rest (if rest.isEmpty then text :: done else " " :: text :: done)
  go words []

/-- What may be wrong with a word in the place of a number. -/
inductive WordProblem where
  | noNumber
  /-- Something is behind the number. -/
  | notWhole
  | tooLarge
  deriving DecidableEq, Repr

/-- What is wrong with a format. -/
inductive FormatProblem where
  /-- It ends inside of a conversion. -/
  | unfinished (conversion : String)
  | unknown (conversion : String)
  deriving DecidableEq, Repr

/-- What comes of a part of a format. -/
inductive Part where
  | text (shown : String)
  | problem (word : String) (problem : WordProblem)
  deriving DecidableEq, Repr

def Part.text? : Part → Option String
  | .text t => some t
  | .problem _ _ => none

/-- What has come of a format so far. -/
structure Progress where
  /-- What is written and what was wrong, the last part first. -/
  parts : List Part := []
  status : Nat := 0
  /-- The words that are left. -/
  words : List String := []
  /-- Whether nothing more is written. -/
  isOver : Bool := false
  /-- Why the rest could not be carried out. -/
  failure : Option FormatProblem := none
  deriving Inhabited

/-- The carrying out of a format. -/
abbrev Formatting := StateM Progress

def emit (text : String) : Formatting Unit := modify fun p => { p with parts := .text text :: p.parts }

/-- Complains about a word. -/
def warn (word : String) (problem : WordProblem) : Formatting Unit :=
  modify fun p => { p with parts := .problem word problem :: p.parts, status := 1 }

/-- Takes the next word. -/
def nextWord : Formatting (Option String) :=
  modifyGet fun p => match p.words with
    | word :: rest => (some word, { p with words := rest })
    | [] => (none, p)

/-- Complains about a word that is not a number as a whole. -/
def checkNumber (word : String) (rest : List Char) (isOut : Bool) : Formatting Unit := do
  if !rest.isEmpty then
    if rest.length = word.length then warn word .noNumber else warn word .notWhole
  else if isOut then warn word .tooLarge

/-- The character behind a quotation mark at the start of a word, as a number. -/
def quotedNumber? (word : String) : Option Nat :=
  match word.toList with
  | '"' :: rest | '\'' :: rest => some ((rest.head?.map Char.toNat).getD 0)
  | _ => none

/-- The next word as a whole number. -/
def nextInteger (isSigned : Bool) : Formatting Int := do
  match ← nextWord with
  | none => return 0
  | some word =>
    match quotedNumber? word with
    | some n => return n
    | none =>
      let low := if isSigned then -Arithmetic.limit else -(2 * Arithmetic.limit - 1)
      let high := if isSigned then Arithmetic.limit - 1 else 2 * Arithmetic.limit - 1
      match Arithmetic.numberOf? word.toList with
      | none =>
        checkNumber word word.toList false
        return 0
      | some (n, rest) =>
        checkNumber word rest (n < low || high < n)
        if !isSigned && n < low then return high
        return max low (min n high)

/-- A real number at the start of a text, and what is behind it. -/
def realOf? (text : List Char) : Option (Binary64 × List Char) :=
  let text := text.dropWhile Arithmetic.isSpace
  let (negative, body) := match text with
    | '-' :: rest => (true, rest)
    | '+' :: rest => (false, rest)
    | _ => (false, text)
  let startsWith (word : String) : Bool :=
    (body.take word.length).map Char.toLower == word.toList
  if startsWith "infinity" then some (.infinity negative, body.drop 8)
  else if startsWith "inf" then some (.infinity negative, body.drop 3)
  else if startsWith "nan" then some (if negative then Binary64.nan.negated else .nan, body.drop 3)
  else if startsWith "0x" && (body.drop 2).head?.any fun c => (Arithmetic.digit? 16 c).isSome then
    let whole := (body.drop 2).takeWhile fun c => (Arithmetic.digit? 16 c).isSome
    let rest := body.drop (2 + whole.length)
    let (fraction, rest) := match rest with
      | '.' :: more =>
        let fraction := more.takeWhile fun c => (Arithmetic.digit? 16 c).isSome
        (fraction, more.drop fraction.length)
      | _ => ([], rest)
    let (power, rest) := exponentOf "pP" rest
    let n := (Arithmetic.digits 16 0 (whole ++ fraction)).1
    let power := power - 4 * fraction.length
    some (.ofRatio negative (n * twoTo power.toNat) (twoTo (-power).toNat), rest)
  else
    let whole := body.takeWhile isDigit
    let rest := body.drop whole.length
    let (fraction, rest) := match rest with
      | '.' :: more =>
        let fraction := more.takeWhile isDigit
        if whole.isEmpty && fraction.isEmpty then ([], rest)
        else (fraction, more.drop fraction.length)
      | _ => ([], rest)
    if whole.isEmpty && fraction.isEmpty then none
    else
      let (power, rest) := exponentOf "eE" rest
      some ((Numeral.ofParts negative whole fraction power).toBinary64, rest)
where
  /-- The exponent behind one of some letters, and what is behind it. -/
  exponentOf (letters : String) (text : List Char) : Int × List Char :=
    match text with
    | c :: rest =>
      if letters.toList.contains c then
        let (negative, digits) := match rest with
          | '-' :: more => (true, more)
          | '+' :: more => (false, more)
          | _ => (false, rest)
        let run := digits.takeWhile isDigit
        if run.isEmpty then (0, text)
        else
          let n : Int := min (ofDigits run) 100000
          (if negative then -n else n, digits.drop run.length)
      else (0, text)
    | [] => (0, text)

/-- The next word as a real number. -/
def nextReal : Formatting Binary64 := do
  match ← nextWord with
  | none => return .zero false
  | some word =>
    match quotedNumber? word with
    | some n => return .ofNat n
    | none =>
      match realOf? word.toList with
      | none =>
        checkNumber word word.toList false
        return .zero false
      | some (x, rest) =>
        let isNamed := word.toList.any fun c => c == 'n' || c == 'N'
        let isZero := x.isZero && (word.toList.takeWhile fun c => c != 'e' && c != 'E').any
          fun c => '1' ≤ c && c ≤ '9'
        checkNumber word rest (!isNamed && !x.isFinite || isZero)
        return x

/-- Reads a width or a precision: digits, or a star for the next word. -/
def readCount (text : List Char) : Formatting (Int × List Char) := do
  match text with
  | '*' :: rest => return (← nextInteger true, rest)
  | _ =>
    let digits := text.takeWhile isDigit
    return (ofDigits digits, text.drop digits.length)

/-- Reads the flags, the width and the precision of a conversion. -/
def readLayout (text : List Char) : Formatting (Layout × List Char) := do
  let flags := text.takeWhile fun c => "#-+ 0".toList.contains c
  let (width, rest) ← readCount (text.drop flags.length)
  let (precision, rest) ← match rest with
    | '.' :: more => do
      let (n, rest) ← readCount more
      pure (if n < 0 then none else some n.toNat, rest)
    | _ => pure (none, rest)
  let atLeft := flags.contains '-' || width < 0
  return ({
    atLeft
    zeros := flags.contains '0' && !atLeft
    plus := flags.contains '+'
    blank := flags.contains ' '
    full := flags.contains '#'
    width := width.natAbs
    precision }, rest)

/-- Carries out a conversion by its letter. -/
def convert (layout : Layout) (letter : Char) : Formatting Bool := do
  let real (style : Layout.Style) : Formatting Bool := do
    emit (layout.real style letter.isUpper (← nextReal))
    return true
  let natural (base : Nat) : Formatting Bool := do
    let n ← nextInteger false
    emit (layout.natural base letter.isUpper (n % (2 * Arithmetic.limit)).toNat)
    return true
  match letter.toLower with
  | 'b' =>
    if letter != 'b' then return false
    let (text, isWhole) := unescaped ((← nextWord).getD "")
    emit (layout.text text)
    unless isWhole do modify fun p => { p with isOver := true }
    return true
  | 'c' =>
    if letter != 'c' then return false
    let c := (((← nextWord).getD "").toList.head?).getD '\x00'
    emit ({ layout with precision := none }.text c.toString)
    return true
  | 's' =>
    if letter != 's' then return false
    emit (layout.text ((← nextWord).getD ""))
    return true
  | 'd' | 'i' =>
    if letter.isUpper then return false
    emit (layout.whole (← nextInteger true))
    return true
  | 'o' => if letter.isUpper then return false else natural 8
  | 'u' => if letter.isUpper then return false else natural 10
  | 'x' => natural 16
  | 'a' => real .hexadecimal
  | 'e' => real .exponent
  | 'f' => real .fixed
  | 'g' => real .general
  | _ => return false

/-- Carries out a format once; `fuel` bounds its length. -/
def runOnce : Nat → List Char → Formatting Unit
  | 0, _ => return
  | _ + 1, [] => return
  | fuel + 1, '\\' :: text => do
    let (c, rest) := escape text
    emit c.toString
    runOnce fuel rest
  | fuel + 1, '%' :: '%' :: text => do
    emit "%"
    runOnce fuel text
  | fuel + 1, '%' :: text => do
    let (layout, rest) ← readLayout text
    match rest with
    | [] => modify fun p => { p with failure := some (.unfinished (String.ofList ('%' :: text))) }
    | letter :: rest =>
      if ← convert layout letter then
        unless (← get).isOver do runOnce fuel rest
      else
        let shown := text.take (text.length - rest.length)
        modify fun p => { p with failure := some (.unknown (String.ofList ('%' :: shown))) }
  | fuel + 1, c :: text => do
    emit c.toString
    runOnce fuel text

/-- Carries out a format until all words have been used; `fuel` bounds their number. -/
def runAll (format : List Char) : Nat → Formatting Unit
  | 0 => return
  | fuel + 1 => do
    let before := (← get).words.length
    runOnce (format.length + 1) format
    let p ← get
    unless p.isOver || p.failure.isSome || p.words.isEmpty || p.words.length = before do
      runAll format fuel

def Progress.output (p : Progress) : String := String.join (p.parts.reverse.filterMap Part.text?)

def carryOut (format : String) (words : List String) : Progress :=
  ((runAll format.toList (words.length + 1)).run { words }).2

end DeviceLab.Shell.Format
