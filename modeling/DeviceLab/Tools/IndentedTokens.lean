import DeviceLab.Shell.Format
import DeviceLab.Tools.Basic

/-!
# Words and signs of indented scripts

In an indented script a block is told by the blanks in front of its lines.  Lines go on inside of
brackets; a text may hold expressions between braces.

* `Indented.Span`: where something stands in a script.
* `Indented.Token`: words and signs.
* `Indented.tokens`: the words and signs of a script, or what is wrong with them.
-/

namespace DeviceLab.Tools.Indented

/-- Where something stands: lines are counted from one on, characters from zero on. -/
structure Span where
  line : Nat
  column : Nat
  lastLine : Nat
  /-- The place behind the last character. -/
  behind : Nat
  deriving Inhabited, Repr

/-- What is wrong with a script: the kind, what is said, and where. -/
structure Fault where
  kind : String := "SyntaxError"
  detail : String
  span : Span
  /-- Whether the place is not shown. -/
  isVague : Bool := false
  deriving Inhabited

/-- A part of a text with expressions in it. -/
inductive Piece where
  | text (s : String)
  /-- An expression with its place, perhaps shown itself, and how its value is shown. -/
  | field (source : List Char) (line column : Nat) (shown : Option String)
      (conversion : Option Char) (format : List Piece)
  deriving Inhabited

/-- A word or a sign. -/
inductive Token where
  | name (s : String)
  | keyword (s : String)
  | whole (n : Nat)
  | real (x : Float)
  | text (s : String)
  | bytes (s : String)
  | formatted (pieces : List Piece)
  | sign (s : String)
  | newline
  | indent
  | dedent
  | over
  deriving Inhabited

/-- A word or a sign with its place. -/
structure Placed where
  token : Token
  span : Span
  deriving Inhabited

/-- The words that cannot be names. -/
def keywords : List String :=
  ["False", "None", "True", "and", "as", "assert", "async", "await", "break", "class", "continue",
    "def", "del", "elif", "else", "except", "finally", "for", "from", "global", "if", "import",
    "in", "is", "lambda", "nonlocal", "not", "or", "pass", "raise", "return", "try", "while",
    "with", "yield"]

/-- The signs, longer ones first. -/
def signs : List String :=
  ["**=", "//=", ">>=", "<<=", "...", "**", "//", ">>", "<<", "<=", ">=", "==", "!=", "->", "+=",
    "-=", "*=", "/=", "%=", "&=", "|=", "^=", "@=", ":=", "+", "-", "*", "/", "%", "@", "&", "|",
    "^", "~", "<", ">", "(", ")", "[", "]", "\x7b", "\x7d", ",", ":", ".", ";", "="]

/-- A place in a script with what is behind it. -/
structure Cursor where
  rest : List Char
  line : Nat := 1
  column : Nat := 0

/-- The place behind some characters. -/
def Cursor.move : Nat → Cursor → Cursor
  | 0, c => c
  | n + 1, c =>
    match c.rest with
    | [] => c
    | '\n' :: rest => move n ⟨rest, c.line + 1, 0⟩
    | _ :: rest => move n ⟨rest, c.line, c.column + 1⟩

/-- What stands between two places of a script. -/
def Cursor.spanTo (c d : Cursor) : Span := ⟨c.line, c.column, d.line, d.column⟩

def startsName (c : Char) : Bool := c.isAlpha || c == '_' || 128 ≤ c.toNat

def isNameChar (c : Char) : Bool := startsName c || c.isDigit

/-- What is known while the words and signs are told apart. -/
structure Scan where
  /-- The brackets that are open, the last one first, with their places. -/
  open_ : List (Char × Span) := []
  /-- The widths of the blocks that are open, the last one first. -/
  widths : List Nat := [0]
  /-- The last token first. -/
  found : List Placed := []

def Scan.add (s : Scan) (token : Token) (span : Span) : Scan :=
  { s with found := { token, span } :: s.found }

/-! ### Texts -/

/-- What a backslash stands for together with what follows it, and what is behind that. -/
def textEscape (isBytes : Bool) (text : List Char) : List Char × List Char :=
  match text with
  | '\n' :: rest => ([], rest)
  | '\\' :: rest => (['\\'], rest)
  | '\'' :: rest => (['\''], rest)
  | '"' :: rest => (['"'], rest)
  | 'a' :: rest => (['\x07'], rest)
  | 'b' :: rest => (['\x08'], rest)
  | 'f' :: rest => (['\x0c'], rest)
  | 'n' :: rest => (['\n'], rest)
  | 'r' :: rest => (['\r'], rest)
  | 't' :: rest => (['\t'], rest)
  | 'v' :: rest => (['\x0b'], rest)
  | c :: rest =>
    let numbered (base count : Nat) (text : List Char) : List Char × List Char :=
      match digits? base count text with
      | some (n, rest) => ([Char.ofNat n], rest)
      | none => (['\\', c], rest)
    if c = 'x' then numbered 16 2 rest
    else if c = 'u' && !isBytes then numbered 16 4 rest
    else if c = 'U' && !isBytes then numbered 16 8 rest
    else if '0' ≤ c && c ≤ '7' then numbered 8 3 text
    else (['\\', c], rest)
  | [] => (['\\'], [])

/-- A text with its escapes carried out; `fuel` bounds its length. -/
def unescaped (isBytes : Bool) : Nat → List Char → List Char
  | 0, _ => []
  | _ + 1, [] => []
  | fuel + 1, '\\' :: rest =>
    let (chars, rest) := textEscape isBytes rest
    chars ++ unescaped isBytes fuel rest
  | fuel + 1, c :: rest => c :: unescaped isBytes fuel rest

/-- The number of characters of a text up to its closing quotation marks. -/
def lengthUpTo (marks : List Char) (acrossLines : Bool) : List Char → Nat → Option Nat
  | [], _ => none
  | '\\' :: c :: rest, n => if c = '\n' && !acrossLines then lengthUpTo marks acrossLines rest (n + 2)
      else lengthUpTo marks acrossLines rest (n + 2)
  | c :: rest, n =>
    if marks.isPrefixOf (c :: rest) then some n
    else if c = '\n' && !acrossLines then none
    else lengthUpTo marks acrossLines rest (n + 1)

/-- How far an expression between braces goes: up to a mark that is not inside of brackets or of a
text. -/
def fieldLength : Nat → List Char → List Char → Nat → Nat
  | 0, _, _, n => n
  | _ + 1, [], _, n => n
  | fuel + 1, c :: rest, nested, n =>
    match nested with
    | q :: outer =>
      if q = '\'' || q = '"' then
        fieldLength fuel rest (if c = q then outer else nested) (n + 1)
      else if c = '\'' || c = '"' || c = '(' || c = '[' || c = '\x7b' then
        fieldLength fuel rest (c :: nested) (n + 1)
      else if c = ')' || c = ']' || c = '\x7d' then fieldLength fuel rest outer (n + 1)
      else fieldLength fuel rest nested (n + 1)
    | [] =>
      if c = '\x7d' || c = ':' then n
      else if c = '!' && rest.head? != some '=' then n
      else if c = '!' || c = '=' && rest.head? == some '=' || c = '<' || c = '>' then
        fieldLength fuel (rest.drop 1) [] (n + 2)
      else if c = '\'' || c = '"' || c = '(' || c = '[' || c = '\x7b' then
        fieldLength fuel rest [c] (n + 1)
      else fieldLength fuel rest [] (n + 1)

/-- A text without the blanks at its end. -/
def trimEnd (text : List Char) : List Char := (text.reverse.dropWhile (· = ' ')).reverse

/-- The parts of a text with expressions in it, and what is behind the brace that closes it, if one
does; `fuel` bounds their number. -/
def pieces (isRaw inFormat : Bool) : Nat → Cursor → List Piece × Cursor
  | 0, c => ([], c)
  | fuel + 1, c =>
    match c.rest with
    | [] => ([], c)
    | '\x7b' :: '\x7b' :: _ =>
      if inFormat then ([], c)
      else
        let (more, behind) := pieces isRaw inFormat fuel (c.move 2)
        (.text "\x7b" :: more, behind)
    | '\x7d' :: '\x7d' :: _ =>
      if inFormat then ([], c)
      else
        let (more, behind) := pieces isRaw inFormat fuel (c.move 2)
        (.text "\x7d" :: more, behind)
    | '\x7d' :: _ =>
      if inFormat then ([], c)
      else
        let (more, behind) := pieces isRaw inFormat fuel (c.move 1)
        (.text "\x7d" :: more, behind)
    | '\x7b' :: _ =>
      let start := c.move 1
      let length := fieldLength (start.rest.length + 1) start.rest [] 0
      let source := start.rest.take length
      let trimmed := trimEnd source
      let isShown := trimmed.getLast? == some '=' && source.length != 0
      let inner := if isShown then trimmed.dropLast else source
      let c := start.move length
      let (conversion, c) := match c.rest with
        | '!' :: k :: _ => (some k, c.move 2)
        | _ => (none, c)
      let (format, c) := match c.rest with
        | ':' :: _ =>
          let (format, c) := pieces isRaw true fuel (c.move 1)
          (format, c)
        | _ => ([], c)
      let c := c.move 1
      let shown := if isShown then some (String.ofList source) else none
      let (more, behind) := pieces isRaw inFormat fuel c
      (.field inner start.line start.column shown conversion format :: more, behind)
    | _ =>
      let run := c.rest.takeWhile fun c => c != '\x7b' && c != '\x7d'
      let text := if isRaw then run else unescaped false (run.length + 1) run
      let (more, behind) := pieces isRaw inFormat fuel (c.move run.length)
      (.text (String.ofList text) :: more, behind)

/-- The letters in front of a text, if there is a text. -/
def textFront? (text : List Char) : Option (List Char) :=
  let letters := (text.take 2).takeWhile fun c => "rRbBuUfF".toList.contains c
  match text.drop letters.length with
  | '\'' :: _ | '"' :: _ => some letters
  | _ => none

/-! ### Tokens -/

def wholeOf (base : Nat) (digits : List Char) : Nat :=
  ((digits? base digits.length digits).map (·.1)).getD 0

/-- A number at the start of a text, with its length. -/
def numberAt (text : List Char) : Token × Nat :=
  let isDigitOf (base : Nat) (c : Char) : Bool := c = '_' || (digits? base 1 [c]).isSome
  let based (base : Nat) : Token × Nat :=
    let digits := (text.drop 2).takeWhile (isDigitOf base)
    (.whole (wholeOf base (digits.filter (· != '_'))), digits.length + 2)
  match text with
  | '0' :: 'x' :: _ | '0' :: 'X' :: _ => based 16
  | '0' :: 'o' :: _ | '0' :: 'O' :: _ => based 8
  | '0' :: 'b' :: _ | '0' :: 'B' :: _ => based 2
  | _ =>
    let whole := text.takeWhile (isDigitOf 10)
    let rest := text.drop whole.length
    let (fraction, rest) := match rest with
      | '.' :: more =>
        let digits := more.takeWhile (isDigitOf 10)
        ('.' :: digits, more.drop digits.length)
      | _ => ([], rest)
    let exponent := match rest with
      | e :: more =>
        if e = 'e' || e = 'E' then
          let sign := (more.take 1).takeWhile fun c => c = '-' || c = '+'
          let digits := (more.drop sign.length).takeWhile Char.isDigit
          if digits.isEmpty then [] else e :: (sign ++ digits)
        else []
      | [] => []
    if fraction.isEmpty && exponent.isEmpty then
      (.whole (wholeOf 10 (whole.filter (· != '_'))), whole.length)
    else
      let chars := whole ++ fraction ++ exponent
      let x := (Shell.Format.realOf? (chars.filter (· != '_'))).map fun (x, _) => Float.ofBits x.bits
      (.real (x.getD 0), chars.length)

/-- A fault between two places. -/
def faultAt (c d : Cursor) (detail : String) : Fault := { detail, span := c.spanTo d }

/-- The text at a place, with what is behind it. -/
def textAt (c : Cursor) (letters : List Char) : Except Fault (Token × Cursor) :=
  let start := c.move letters.length
  let mark := start.rest.headD '"'
  let isLong := start.rest.take 3 == [mark, mark, mark]
  let marks := if isLong then [mark, mark, mark] else [mark]
  let inner := start.move marks.length
  let has (c d : Char) : Bool := letters.contains c || letters.contains d
  match lengthUpTo marks isLong inner.rest 0 with
  | none =>
    let kind := if has 'f' 'F' then "f-string" else "string"
    let ends := (c.rest.filter (· = '\n')).length
    let whole := if c.rest.getLast? == some '\n' then ends - 1 else ends
    let last := if isLong then c.line + whole else c.line
    let long := if isLong then "triple-quoted " else ""
    let detail := "unterminated " ++ long ++ kind ++ " literal (detected at line "
      ++ toString last ++ ")"
    .error (faultAt c c detail)
  | some n =>
    let chars := inner.rest.take n
    let behind := inner.move (n + marks.length)
    if has 'f' 'F' then
      let (found, _) := pieces (has 'r' 'R') false (n * 2 + 2) { inner with rest := chars }
      .ok (.formatted found, behind)
    else
      let isBytes := has 'b' 'B'
      let text := if has 'r' 'R' then chars else unescaped isBytes (n + 1) chars
      .ok (if isBytes then .bytes (String.ofList text) else .text (String.ofList text), behind)

/-- The blanks at the start of a line: their width, and their number. -/
def blanksAt (text : List Char) : Nat × Nat :=
  let blanks := text.takeWhile fun c => c = ' ' || c = '\t' || c = '\x0c'
  (blanks.foldl (fun width c => if c = '\t' then (width / 8 + 1) * 8 else width + 1) 0,
    blanks.length)

/-- Closes blocks that are wider than a width. -/
def closeBlocks (width : Nat) (span : Span) : List Nat → Scan → Scan
  | [], s => s
  | last :: outer, s =>
    if width < last then closeBlocks width span outer { s.add .dedent span with widths := outer }
    else s

/-- The bracket that closes another one. -/
def closing (c : Char) : Char := if c = '(' then ')' else if c = '[' then ']' else '\x7d'

/-- Tells the words and signs of a text apart; `fuel` bounds its length, and `isStart` tells whether a
line starts. -/
def scan : Nat → Bool → Cursor → Scan → Except Fault Scan
  | 0, _, _, s => .ok s
  | fuel + 1, isStart, c, s =>
    match c.rest with
    | [] =>
      match s.open_ with
      | (bracket, span) :: _ =>
        .error { detail := "'" ++ bracket.toString ++ "' was never closed"
                 span := { span with behind := span.column + 1 } }
      | [] =>
        let span := c.spanTo c
        let s := if isStart then s else s.add .newline span
        .ok ((closeBlocks 0 span s.widths s).add .over span)
    | first :: _ =>
      if isStart && s.open_.isEmpty then
        let (width, count) := blanksAt c.rest
        let line := c.move count
        match line.rest with
        | [] => scan fuel true line s
        | '\n' :: _ => scan fuel true (line.move 1) s
        | '\r' :: '\n' :: _ => scan fuel true (line.move 2) s
        | '#' :: _ =>
          let comment := line.rest.takeWhile (· != '\n')
          scan fuel true (line.move comment.length) s
        | _ =>
          let last := s.widths.headD 0
          if last < width then
            scan fuel false line { s.add .indent (c.spanTo line) with widths := width :: s.widths }
          else
            let s := closeBlocks width (line.spanTo line) s.widths s
            if s.widths.headD 0 = width then scan fuel false line s
            else
              let text := line.rest.takeWhile (· != '\n')
              let behind := line.move text.length
              .error
                { kind := "IndentationError"
                  detail := "unindent does not match any outer indentation level"
                  span := behind.spanTo behind }
      else if first = ' ' || first = '\t' || first = '\r' || first = '\x0c' then
        scan fuel false (c.move 1) s
      else if first = '\n' then
        if s.open_.isEmpty then
          scan fuel true (c.move 1) (s.add .newline (c.spanTo { c with column := c.column + 1 }))
        else scan fuel false (c.move 1) s
      else if first = '#' then
        let comment := c.rest.takeWhile (· != '\n')
        scan fuel false (c.move comment.length) s
      else if first = '\\' && (c.rest.drop 1).head? == some '\n' then scan fuel false (c.move 2) s
      else
        match textFront? c.rest with
        | some letters =>
          match textAt c letters with
          | .error e => .error e
          | .ok (token, behind) => scan fuel false behind (s.add token (c.spanTo behind))
        | none =>
          let isNumber := first.isDigit ||
            first = '.' && (c.rest.drop 1).head?.any Char.isDigit
          if isNumber then
            let (token, length) := numberAt c.rest
            let behind := c.move length
            let digits := c.rest.take length
            let isOctal := token matches .whole _ && 1 < length && first = '0' &&
              digits.any (fun c => '1' ≤ c && c ≤ '9') && digits.all Char.isDigit
            if isOctal then
              .error (faultAt c (c.move 1) ("leading zeros in decimal integer literals are not "
                ++ "permitted; use an 0o prefix for octal integers"))
            else
            match behind.rest with
            | d :: _ =>
              if startsName d then
                .error (faultAt c { behind with column := behind.column - 1 } "invalid decimal literal")
              else scan fuel false behind (s.add token (c.spanTo behind))
            | [] => scan fuel false behind (s.add token (c.spanTo behind))
          else if startsName first then
            let word := String.ofList (c.rest.takeWhile isNameChar)
            let behind := c.move word.length
            let token : Token := if keywords.contains word then .keyword word else .name word
            scan fuel false behind (s.add token (c.spanTo behind))
          else
            match signs.find? fun sign => sign.toList.isPrefixOf c.rest with
            | none =>
              .error (faultAt c (c.move 1) (if first = '!' || first = '$' || first = '?' ||
                first = '\x60' then "invalid syntax" else "invalid character"))
            | some sign =>
              let behind := c.move sign.length
              let span := c.spanTo behind
              let s := s.add (.sign sign) span
              if sign = "(" || sign = "[" || sign = "\x7b" then
                scan fuel false behind { s with open_ := (first, span) :: s.open_ }
              else if sign = ")" || sign = "]" || sign = "\x7d" then
                match s.open_ with
                | [] => .error (faultAt c behind ("unmatched '" ++ sign ++ "'"))
                | (bracket, _) :: outer =>
                  if closing bracket = first then scan fuel false behind { s with open_ := outer }
                  else
                    .error (faultAt c behind ("closing parenthesis '" ++ sign
                      ++ "' does not match opening parenthesis '" ++ bracket.toString ++ "'"))
              else scan fuel false behind s

/-- The words and signs of a script, or what is wrong with them. -/
def tokens (text : List Char) : Except Fault (List Placed) :=
  (scan (text.length * 2 + 8) true { rest := text } {}).map (·.found.reverse)

/-- The words and signs of an expression at a place. -/
def innerTokens (text : List Char) (line column : Nat) : Except Fault (List Placed) :=
  (scan (text.length * 2 + 8) false { rest := text, line, column } {}).map (·.found.reverse)

end DeviceLab.Tools.Indented
