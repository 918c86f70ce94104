import DeviceLab.Shell.Format
import DeviceLab.Tools.Patterns

/-!
# Scripts for records

A script for records is a list of rules, each a test with what is done with every record that passes
it, and of functions.

* `Records.Expr`, `Records.Statement`, `Records.Rule`: what a script is made of.
* `Records.tokens`: the words and signs of a script.
* `Records.readScript`: a script as it is written.
-/

namespace DeviceLab.Tools.Records

/-! ### Scripts -/

/-- What makes one number of two. -/
inductive Arith where
  | plus
  | minus
  | times
  | over
  | rest
  | power
  deriving DecidableEq, Repr

/-- How two values are compared. -/
inductive Comparison where
  | less
  | atMost
  | equal
  | unequal
  | atLeast
  | greater
  deriving DecidableEq, Repr

/-- Where a record is read from. -/
inductive Origin where
  | input
  | file
  | command
  deriving DecidableEq, Repr

/-- An expression. -/
inductive Expr where
  | number (x : Float)
  | text (s : String)
  /-- A pattern by its source; by itself it is looked for in the record. -/
  | pattern (source : String)
  | name (name : String)
  | item (table : String) (index : List Expr)
  | field (number : Expr)
  /-- An assignment, perhaps of what an operation makes of the former value. -/
  | assign (op : Option Arith) (target value : Expr)
  /-- One more, or one less; the value is the one before or the one after. -/
  | step (isUp isBefore : Bool) (target : Expr)
  | negative (e : Expr)
  | positive (e : Expr)
  | no (e : Expr)
  | arith (op : Arith) (a b : Expr)
  | join (a b : Expr)
  | compare (how : Comparison) (a b : Expr)
  | likes (inverts : Bool) (a b : Expr)
  | both (a b : Expr)
  | either (a b : Expr)
  | choice (test a b : Expr)
  | within (index : List Expr) (table : String)
  | group (e : Expr)
  | builtin (name : String) (arguments : List Expr)
  | call (name : String) (arguments : List Expr)
  /-- The next record, into a target or into the record at hand. -/
  | take (origin : Origin) (from_ : Option Expr) (target : Option Expr)
  deriving Inhabited

/-- Where something is written. -/
inductive Outlet where
  | file
  | append
  | command
  deriving DecidableEq, Repr

/-- A statement. -/
inductive Statement where
  | empty
  | run (e : Expr)
  | print (arguments : List Expr) (outlet : Option (Outlet × Expr))
  | format (arguments : List Expr) (outlet : Option (Outlet × Expr))
  | block (body : List Statement)
  | choose (test : Expr) (yes : Statement) (no : Option Statement)
  | loop (test : Expr) (body : Statement)
  /-- The body comes first. -/
  | again (body : Statement) (test : Expr)
  | count (first : Option Expr) (test : Option Expr) (next : Option Expr) (body : Statement)
  | each (name table : String) (body : Statement)
  | leave
  | proceed
  | next
  | nextFile
  | exit (status : Option Expr)
  | give (value : Option Expr)
  | delete (table : String) (index : Option (List Expr))
  deriving Inhabited

/-- When a rule is for a record. -/
inductive When where
  | first
  | last
  | always
  | test (e : Expr)
  /-- From a record to another one. -/
  | range (start stop : Expr)

/-- What is done, and when; the default is to write the record. -/
structure Rule where
  condition : When
  body : Option Statement

/-- A function: its parameters and what it does. -/
structure Function where
  name : String
  parameters : List String
  body : Statement

structure Script where
  rules : List Rule := []
  functions : List Function := []

/-! ### Words and signs -/

/-- A word or a sign. -/
inductive Token where
  | number (x : Float) (shown : String)
  | text (s : String) (shown : String)
  | pattern (source : String)
  | name (name : String)
  /-- A name with an opening parenthesis right behind it. -/
  | call (name : String)
  | builtin (name : String)
  | keyword (word : String)
  | sign (s : String)
  | newline
  | over
  /-- What is no word and no sign, with what is said about it. -/
  | bad (complaint : String)
  /-- A closing brace too many, and whether its line ends behind it. -/
  | stray (endsLine : Bool)
  deriving Inhabited

/-- A word or a sign with its line, and the numbers of open parentheses and braces. -/
structure Placed where
  token : Token
  line : Nat
  parens : Int
  braces : Int
  deriving Inhabited

/-- The words that cannot be names. -/
def keywords : List String :=
  ["BEGIN", "END", "break", "continue", "delete", "do", "else", "exit", "for", "function", "getline",
    "if", "in", "next", "nextfile", "print", "printf", "return", "while"]

/-- The functions that every script has. -/
def builtins : List String :=
  ["atan2", "close", "cos", "exp", "fflush", "gsub", "index", "int", "length", "log", "match",
    "rand", "sin", "split", "sprintf", "sqrt", "srand", "strftime", "systime", "sub", "substr",
    "system", "tolower", "toupper"]

/-- The text of a token in complaints. -/
def Token.shown : Token → Option String
  | .number _ shown | .text _ shown => some shown
  | .name word | .call word | .builtin word | .keyword word => some word
  | .sign s => some (if s = "out>" then ">" else if s = "out>>" then ">>"
      else if s = "out|" then "|" else s)
  | .pattern source => some s!"/{source}/"
  | .newline => some "end of line"
  | .over => some "end of file"
  | .bad _ | .stray _ => none

/-- Whether a slash behind a token divides. -/
def Token.endsOperand : Token → Bool
  | .number _ _ | .text _ _ | .name _ | .pattern _ => true
  | .builtin word => word == "length"
  | .keyword word => word == "getline"
  | .sign s => [")", "]", "++", "--"].contains s
  | _ => false

/-- What the characters behind a backslash in a text stand for, and what is behind them. -/
def textEscape (text : List Char) : List Char × List Char :=
  match text with
  | '"' :: rest => (['"'], rest)
  | '\\' :: rest => (['\\'], rest)
  | 'a' :: rest => (['\x07'], rest)
  | 'b' :: rest => (['\x08'], rest)
  | 'f' :: rest => (['\x0c'], rest)
  | 'n' :: rest => (['\n'], rest)
  | 'r' :: rest => (['\r'], rest)
  | 't' :: rest => (['\t'], rest)
  | 'v' :: rest => (['\x0b'], rest)
  | '\n' :: rest => ([], rest)
  | 'x' :: rest =>
    match digits? 16 2 rest with
    | some (n, rest) => ([Char.ofNat n], rest)
    | none => (['\\', 'x'], rest)
  | c :: rest =>
    match digits? 8 3 text with
    | some (n, rest) => ([Char.ofNat (n % 256)], rest)
    | none => (['\\', c], rest)
  | [] => (['\\'], [])

/-- A text with its escapes carried out; `fuel` bounds its length. -/
def withEscapes : Nat → List Char → List Char
  | 0, _ => []
  | _ + 1, [] => []
  | fuel + 1, '\\' :: rest =>
    let (chars, rest) := textEscape rest
    chars ++ withEscapes fuel rest
  | fuel + 1, c :: rest => c :: withEscapes fuel rest

/-- The characters up to a mark that has no backslash in front of it, and what is behind the mark. -/
def upTo (mark : Char) : List Char → List Char → Option (List Char × List Char)
  | [], _ => none
  | '\\' :: c :: rest, found => upTo mark rest (c :: '\\' :: found)
  | c :: rest, found =>
    if c = mark then some (found.reverse, rest)
    else if c = '\n' then none
    else upTo mark rest (c :: found)

/-- The source of a pattern up to its slash; between brackets a slash stands for itself. -/
def patternUpTo : Nat → Bool → List Char → List Char → Option (List Char × List Char)
  | 0, _, _, _ => none
  | _ + 1, _, [], _ => none
  | fuel + 1, inSet, '\\' :: '/' :: rest, found => patternUpTo fuel inSet rest ('/' :: found)
  | fuel + 1, inSet, '\\' :: c :: rest, found => patternUpTo fuel inSet rest (c :: '\\' :: found)
  | fuel + 1, false, '[' :: rest, found =>
    let (front, rest) := match rest with
      | '^' :: ']' :: rest => ([']', '^', '['], rest)
      | '^' :: rest => (['^', '['], rest)
      | ']' :: rest => ([']', '['], rest)
      | _ => (['['], rest)
    patternUpTo fuel true rest (front ++ found)
  | fuel + 1, true, '[' :: ':' :: rest, found =>
    let name := rest.takeWhile Char.isAlpha
    match rest.drop name.length with
    | ':' :: ']' :: rest =>
      patternUpTo fuel true rest (']' :: ':' :: (name.reverse ++ ':' :: '[' :: found))
    | _ => patternUpTo fuel true (':' :: rest) ('[' :: found)
  | fuel + 1, inSet, c :: rest, found =>
    if c = '\n' then none
    else if c = '/' && !inSet then some (found.reverse, rest)
    else patternUpTo fuel (inSet && c != ']') rest (c :: found)

/-- The signs, longer ones first. -/
def signs : List String :=
  ["&&", "||", "==", "!=", "<=", ">=", "!~", "++", "--", "+=", "-=", "*=", "/=", "%=", "^=", ">>",
    "\x7b", "\x7d", "(", ")", "[", "]", ";", ",", "+", "-", "*", "/", "%", "^", "!", ">", "<", "|",
    "?", ":", "~", "$", "="]

/-- What is known while the words and signs are told apart. -/
structure Scan where
  line : Nat := 1
  parens : Int := 0
  braces : Int := 0
  /-- Whether a sign for an outlet may follow. -/
  prints : Bool := false
  previous : Token := .newline
  /-- The last token first. -/
  found : List Placed := []

def Scan.add (s : Scan) (token : Token) : Scan :=
  { s with
    previous := token
    found := { token, line := s.line, parens := s.parens, braces := s.braces } :: s.found }

/-- Adds a sign. -/
def Scan.addSign (s : Scan) (sign : String) (rest : List Char) : Scan :=
  let parens := s.parens + if sign = "(" then 1 else if sign = ")" then -1 else 0
  let braces := s.braces + if sign = "\x7b" then 1 else if sign = "\x7d" then -1 else 0
  let s := { s with parens, braces }
  if parens < 0 then s.add (.bad "extra ')'")
  else if braces < 0 then
    s.add (.stray ((rest.dropWhile (· = ' ')).head?.all (· = '\n')))
  else if s.prints && parens = 0 && [">", ">>", "|"].contains sign then
    { s.add (.sign ("out" ++ sign)) with prints := false }
  else if sign = ";" || sign = "\x7d" then { s.add (.sign sign) with prints := false }
  else s.add (.sign sign)

/-- The token of a word. -/
def wordToken (word : String) (isCall : Bool) : Token :=
  if keywords.contains word then .keyword word
  else if builtins.contains word then .builtin word
  else if isCall then .call word
  else .name word

/-- The text behind a complaint about something that is not closed. -/
def runaway (kind : String) (mark : Char) (text : List Char) : String :=
  let shown := (text.takeWhile (· != '\n')).take 10
  kind ++ " " ++ String.ofList (mark :: shown) ++ " ..."

/-- Tells the words and signs of a text apart; `fuel` bounds its length. -/
def scan : Nat → List Char → Scan → Scan
  | 0, _, s => s
  | _ + 1, [], s => { s with line := s.line + 1 }.add .over
  | fuel + 1, '\\' :: '\n' :: rest, s => scan fuel rest { s with line := s.line + 1 }
  | fuel + 1, '\n' :: rest, s =>
    scan fuel rest { s.add .newline with line := s.line + 1, prints := false }
  | fuel + 1, c :: rest, s =>
    if c = '#' then scan fuel (rest.dropWhile (· != '\n')) s
    else if c = ' ' || c = '\t' || c = '\r' || c = '\x0c' || c = '\x0b' then scan fuel rest s
    else if c = '"' then
      match upTo '"' rest [] with
      | some (inner, rest) =>
        let text := String.ofList (withEscapes (inner.length + 1) inner)
        scan fuel rest (s.add (.text text ("\"" ++ String.ofList inner ++ "\"")))
      | none => s.add (.bad (runaway "runaway string constant" '"' rest))
    else if c.isDigit || c = '.' && rest.head?.any Char.isDigit then
      match Shell.Format.realOf? (c :: rest) with
      | some (x, behind) =>
        let shown := String.ofList ((c :: rest).take (rest.length + 1 - behind.length))
        if x.isFinite then scan fuel behind (s.add (.number (Float.ofBits x.bits) shown))
        else s.add (.bad (shown ++ " : decimal overflow"))
      | none => s.add (.bad "syntax error")
    else if c.isAlpha || c = '_' then
      let word := (c :: rest).takeWhile Pattern.isWordChar
      let behind := (c :: rest).drop word.length
      let token := wordToken (String.ofList word) (behind.head? == some '(')
      let prints := match token with
        | .keyword "print" | .keyword "printf" => true
        | _ => s.prints
      scan fuel behind { s.add token with prints }
    else if c = '/' && !s.previous.endsOperand then
      match patternUpTo (rest.length + 1) false rest [] with
      | some (source, rest) => scan fuel rest (s.add (.pattern (String.ofList source)))
      | none => s.add (.bad (runaway "runaway regular expression" '/' rest))
    else
      match signs.find? fun sign => sign.toList.isPrefixOf (c :: rest) with
      | some sign =>
        let rest := (c :: rest).drop sign.length
        scan fuel rest (s.addSign sign rest)
      | none => s.add (.bad s!"unexpected character {Quote.always c.toString}")

/-- The words and signs of a text. -/
def tokens (text : List Char) : List Placed :=
  (scan (text.length + 2) text {}).found.reverse

/-! ### Reading -/

/-- What is left of a script. -/
structure Reader where
  rest : List Placed
  /-- Whether a function is being read, and a rule. -/
  inFunction : Bool := false
  inLoop : Nat := 0
  inEdge : Bool := false
  /-- Patterns by their sources, with their lines. -/
  patterns : List (Nat × String) := []

/-- The reading of a part of a script, or what is wrong with some lines. -/
abbrev Reading := EStateM (List (Nat × String)) Reader

/-- The token at hand. -/
def peek : Reading Token := do
  return match (← get).rest with
    | placed :: _ => placed.token
    | [] => .over

/-- Goes on behind the token at hand. -/
def skip : Reading Unit := modify fun s => { s with rest := s.rest.drop 1 }

/-- Complains about the token at hand. -/
def failHere : Reading α := do
  match (← get).rest with
  | [] => throw [(1, "syntax error")]
  | placed :: _ =>
    let shown := placed.token.shown.getD ""
    let isOver := match placed.token with
      | .over => true
      | _ => false
    let closes := match placed.token with
      | .over | .newline | .sign ";" | .sign "\x7d" => true
      | _ => false
    let starts := match placed.token with
      | .over | .keyword "BEGIN" | .keyword "END" => true
      | _ => false
    match placed.token with
    | .bad complaint => throw [(placed.line, complaint)]
    | .stray again =>
      let more := if again then [(placed.line, "syntax error at or near end of line")] else []
      throw ((placed.line, "extra '\x7d'") :: more)
    | _ =>
      if 0 < placed.parens && closes then throw [(placed.line, "missing ) near " ++ shown)]
      else if 0 < placed.braces && (starts || isOver) then
        throw [(placed.line, "missing \x7d near " ++ shown)]
      else throw [(placed.line, "syntax error at or near " ++ shown)]

/-- Complains about the line at hand. -/
def failLine (complaint : String) : Reading α := do
  throw [(((← get).rest.head?.map (·.line)).getD 1, complaint)]

/-- Notes a pattern. -/
def notePattern (source : String) : Reading Unit :=
  modify fun s =>
    let line := match s.rest with
      | { token := .over, line, .. } :: _ => line - 1
      | placed :: _ => placed.line
      | [] => 1
    { s with patterns := (line, source) :: s.patterns }

/-- A text in the place of a pattern stands for one. -/
def asPattern (e : Expr) : Reading Expr := do
  match e with
  | .text source =>
    notePattern source
    return .pattern source
  | e => return e

/-- Whether the token at hand is a sign. -/
def isSign (sign : String) : Reading Bool := do
  return match ← peek with
    | .sign s => s == sign
    | _ => false

/-- Takes a sign if it is the token at hand. -/
def takeSign (sign : String) : Reading Bool := do
  if ← isSign sign then
    skip
    return true
  return false

def needSign (sign : String) : Reading Unit := do
  unless ← takeSign sign do failHere

/-- Takes a keyword if it is the token at hand. -/
def takeKeyword (word : String) : Reading Bool := do
  match ← peek with
  | .keyword w =>
    if w = word then
      skip
      return true
    return false
  | _ => return false

/-- The tokens without the ends of lines at their start. -/
def withoutNewlines : List Placed → List Placed
  | placed :: rest =>
    match placed.token with
    | .newline => withoutNewlines rest
    | _ => placed :: rest
  | [] => []

/-- Passes over ends of lines. -/
def skipNewlines : Reading Unit := modify fun s => { s with rest := withoutNewlines s.rest }

/-- Takes a name. -/
def needName : Reading String := do
  match ← peek with
  | .name name =>
    skip
    return name
  | _ => failHere

/-- The operation of an assignment. -/
def assignment? : Token → Option (Option Arith)
  | .sign "=" => some none
  | .sign "+=" => some (some .plus)
  | .sign "-=" => some (some .minus)
  | .sign "*=" => some (some .times)
  | .sign "/=" => some (some .over)
  | .sign "%=" => some (some .rest)
  | .sign "^=" => some (some .power)
  | _ => none

/-- The comparison of a sign. -/
def comparison? : Token → Option Comparison
  | .sign "<" => some .less
  | .sign "<=" => some .atMost
  | .sign "==" => some .equal
  | .sign "!=" => some .unequal
  | .sign ">=" => some .atLeast
  | .sign ">" => some .greater
  | _ => none

/-- Whether a value can be assigned to an expression. -/
def Expr.isTarget : Expr → Bool
  | .name _ | .item _ _ | .field _ => true
  | .group (.field _) => true
  | _ => false

/-- Whether an operand can start with a token. -/
def Token.startsOperand : Token → Bool
  | .number _ _ | .text _ _ | .pattern _ | .name _ | .call _ | .builtin _ => true
  | .keyword word => word == "getline"
  | .sign s => ["(", "$", "!", "-", "+", "++", "--"].contains s
  | _ => false

mutual

/-- Reads an expression. -/
def readExpr : Nat → Reading Expr
  | 0 => failHere
  | fuel + 1 => do
    let test ← readEither fuel
    if ← takeSign "?" then
      skipNewlines
      let a ← readExpr fuel
      skipNewlines
      needSign ":"
      skipNewlines
      return .choice test a (← readExpr fuel)
    return test

/-- Reads alternatives. -/
def readEither : Nat → Reading Expr
  | 0 => failHere
  | fuel + 1 => do moreEither fuel (← readBoth fuel)

/-- Goes on with alternatives. -/
def moreEither : Nat → Expr → Reading Expr
  | 0, _ => failHere
  | fuel + 1, a => do
    if ← takeSign "||" then
      skipNewlines
      moreEither fuel (.either a (← readBoth fuel))
    else return a

/-- Reads conditions that hold together. -/
def readBoth : Nat → Reading Expr
  | 0 => failHere
  | fuel + 1 => do moreBoth fuel (← readWithin fuel)

/-- Goes on with conditions that hold together. -/
def moreBoth : Nat → Expr → Reading Expr
  | 0, _ => failHere
  | fuel + 1, a => do
    if ← takeSign "&&" then
      skipNewlines
      moreBoth fuel (.both a (← readWithin fuel))
    else return a

/-- Reads a question for an element of a table. -/
def readWithin : Nat → Reading Expr
  | 0 => failHere
  | fuel + 1 => do moreWithin fuel (← readLikes fuel)

/-- Goes on with a question for an element. -/
def moreWithin : Nat → Expr → Reading Expr
  | 0, _ => failHere
  | fuel + 1, a => do
    if ← takeKeyword "in" then moreWithin fuel (.within [a] (← needName)) else return a

/-- Reads a question for a pattern. -/
def readLikes : Nat → Reading Expr
  | 0 => failHere
  | fuel + 1 => do moreLikes fuel (← readComparison fuel)

/-- Goes on with a question for a pattern. -/
def moreLikes : Nat → Expr → Reading Expr
  | 0, _ => failHere
  | fuel + 1, a => do
    if ← takeSign "~" then
      moreLikes fuel (.likes false a (← asPattern (← readComparison fuel)))
    else if ← takeSign "!~" then
      moreLikes fuel (.likes true a (← asPattern (← readComparison fuel)))
    else return a

def readComparison : Nat → Reading Expr
  | 0 => failHere
  | fuel + 1 => do moreComparison fuel (← readJoined fuel)

/-- Goes on with a comparison. -/
def moreComparison : Nat → Expr → Reading Expr
  | 0, _ => failHere
  | fuel + 1, a => do
    match comparison? (← peek) with
    | some how =>
      skip
      moreComparison fuel (.compare how a (← readJoined fuel))
    | none => return a

/-- Reads values that are joined, or an assignment. -/
def readJoined : Nat → Reading Expr
  | 0 => failHere
  | fuel + 1 => do
    let a ← readSum fuel
    match assignment? (← peek) with
    | some op =>
      if !a.isTarget then failHere
      skip
      skipNewlines
      return .assign op a (← readExpr fuel)
    | none => moreJoined fuel a

/-- Goes on with values that are joined. -/
def moreJoined : Nat → Expr → Reading Expr
  | 0, _ => failHere
  | fuel + 1, a => do
    if (← peek).startsOperand then moreJoined fuel (.join a (← readSum fuel)) else return a

def readSum : Nat → Reading Expr
  | 0 => failHere
  | fuel + 1 => do moreSum fuel (← readProduct fuel)

/-- Goes on with a sum. -/
def moreSum : Nat → Expr → Reading Expr
  | 0, _ => failHere
  | fuel + 1, a => do
    if ← takeSign "+" then moreSum fuel (.arith .plus a (← readProduct fuel))
    else if ← takeSign "-" then moreSum fuel (.arith .minus a (← readProduct fuel))
    else return a

def readProduct : Nat → Reading Expr
  | 0 => failHere
  | fuel + 1 => do moreProduct fuel (← readSigned fuel)

/-- Goes on with a product. -/
def moreProduct : Nat → Expr → Reading Expr
  | 0, _ => failHere
  | fuel + 1, a => do
    if ← takeSign "*" then moreProduct fuel (.arith .times a (← readSigned fuel))
    else if ← takeSign "/" then moreProduct fuel (.arith .over a (← readSigned fuel))
    else if ← takeSign "%" then moreProduct fuel (.arith .rest a (← readSigned fuel))
    else return a

/-- Reads a value with signs in front of it. -/
def readSigned : Nat → Reading Expr
  | 0 => failHere
  | fuel + 1 => do
    if ← takeSign "!" then return .no (← readSigned fuel)
    else if ← takeSign "-" then return .negative (← readSigned fuel)
    else if ← takeSign "+" then return .positive (← readSigned fuel)
    else morePiped fuel (← readPower fuel)

/-- Goes on with records from a command. -/
def morePiped : Nat → Expr → Reading Expr
  | 0, _ => failHere
  | fuel + 1, a => do
    if ← isSign "|" then
      skip
      unless ← takeKeyword "getline" do failHere
      morePiped fuel (.take .command (some a) (← readTarget fuel))
    else return a

/-- Reads the target of a record, if there is one. -/
def readTarget : Nat → Reading (Option Expr)
  | 0 => failHere
  | fuel + 1 => do
    match ← peek with
    | .name _ | .sign "$" => return some (← readOperand fuel)
    | _ => return none

/-- Reads a power. -/
def readPower : Nat → Reading Expr
  | 0 => failHere
  | fuel + 1 => do
    let a ← readStepped fuel
    if ← takeSign "^" then
      match ← peek with
      | .sign "-" | .sign "+" | .sign "!" => return .arith .power a (← readSigned fuel)
      | _ => return .arith .power a (← readPower fuel)
    else return a

/-- Reads a value that may be counted up or down. -/
def readStepped : Nat → Reading Expr
  | 0 => failHere
  | fuel + 1 => do
    if ← takeSign "++" then
      let e ← readOperand fuel
      if e.isTarget then return .step true true e else failHere
    else if ← takeSign "--" then
      let e ← readOperand fuel
      if e.isTarget then return .step false true e else failHere
    else
      let e ← readOperand fuel
      if !e.isTarget then return e
      else if ← takeSign "++" then return .step true false e
      else if ← takeSign "--" then return .step false false e
      else return e

/-- Reads a value that stands by itself. -/
def readOperand : Nat → Reading Expr
  | 0 => failHere
  | fuel + 1 => do
    match ← peek with
    | .number x _ =>
      skip
      return .number x
    | .text s _ =>
      skip
      return .text s
    | .pattern source =>
      notePattern source
      skip
      return .pattern source
    | .sign "$" =>
      skip
      match ← peek with
      | .sign "-" | .sign "+" | .sign "!" => return .field (← readSigned fuel)
      | .sign "++" | .sign "--" => return .field (← readStepped fuel)
      | _ => return .field (← readOperand fuel)
    | .sign "(" =>
      skip
      let inner ← readList fuel
      needSign ")"
      match inner with
      | [e] => return .group e
      | _ =>
        unless ← takeKeyword "in" do failHere
        return .within inner (← needName)
    | .name name =>
      skip
      if ← takeSign "[" then
        let index ← readList fuel
        needSign "]"
        return .item name index
      return .name name
    | .call name =>
      skip
      return .call name (← readArguments fuel)
    | .builtin name =>
      skip
      if name = "length" then
        if ← isSign "(" then return .builtin name (← readArguments fuel)
        return .builtin name []
      if !(← isSign "(") then failHere
      let arguments ← readArguments fuel
      match name, arguments with
      | "sub", e :: rest | "gsub", e :: rest => return .builtin name ((← asPattern e) :: rest)
      | "match", [text, e] => return .builtin name [text, ← asPattern e]
      | _, _ => return .builtin name arguments
    | .keyword "getline" =>
      skip
      let target ← readTarget fuel
      if ← takeSign "<" then return .take .file (some (← readPower fuel)) target
      return .take .input none target
    | _ => failHere

/-- Reads expressions with commas between them. -/
def readList : Nat → Reading (List Expr)
  | 0 => failHere
  | fuel + 1 => do
    let e ← readExpr fuel
    if ← takeSign "," then
      skipNewlines
      return e :: (← readList fuel)
    return [e]

/-- Reads the arguments of a function. -/
def readArguments : Nat → Reading (List Expr)
  | 0 => failHere
  | fuel + 1 => do
    needSign "("
    if ← takeSign ")" then return []
    let arguments ← readList fuel
    needSign ")"
    return arguments

end

/-- Whether a statement can end with a token. -/
def Token.endsStatement : Token → Bool
  | .newline | .over => true
  | .sign s => [";", "\x7d"].contains s
  | _ => false

/-- Whether a token comes behind all that is to be written. -/
def Token.endsPrint : Token → Bool
  | .sign s => ["out>", "out>>", "out|"].contains s || Token.endsStatement (.sign s)
  | t => t.endsStatement

/-- Takes the end of a statement; a brace that closes a block ends one, too, but stays. -/
def takeEnd : Reading Unit := do
  match ← peek with
  | .newline | .sign ";" =>
    skip
    skipNewlines
  | .sign "\x7d" => return
  | _ => failHere

/-- Reads what is to be written. -/
def readPrinted (fuel : Nat) : Reading (List Expr) := do
  if (← peek).endsPrint then return []
  let s ← get
  if ← takeSign "(" then
    if ← takeSign ")" then
      if (← peek).endsPrint then return []
      failHere
    let attempt := (do
      let inner ← readList fuel
      needSign ")"
      return inner : Reading (List Expr)).run (← get)
    match attempt with
    | .ok inner t =>
      let isWhole := match t.rest with
        | placed :: _ => placed.token.endsPrint
        | [] => true
      if isWhole && 1 < inner.length then
        set t
        return inner
    | .error e _ => throw e
  set s
  readList fuel

/-- Reads where something is written. -/
def readOutlet (fuel : Nat) : Reading (Option (Outlet × Expr)) := do
  match ← peek with
  | .sign "out>" =>
    skip
    return some (.file, ← readExpr fuel)
  | .sign "out>>" =>
    skip
    return some (.append, ← readExpr fuel)
  | .sign "out|" =>
    skip
    return some (.command, ← readExpr fuel)
  | _ => return none

/-- Reads the front of a loop over a table, if there is one. -/
def readEach : Reading (Option (String × String)) := do
  let ahead : List Token := ((← get).rest.take 4).map (·.token)
  match ahead with
  | [.name name, .keyword "in", .name table, .sign ")"] =>
    modify fun s => { s with rest := s.rest.drop 4 }
    return some (name, table)
  | _ => return none

/-- Complains unless a loop is being read. -/
def needLoop (word : String) : Reading Unit := do
  if (← get).inLoop = 0 then failLine (word ++ " statement outside of loop")

mutual

/-- Reads the body of a loop. -/
def readBody : Nat → Reading Statement
  | 0 => failHere
  | fuel + 1 => do
    modify fun s => { s with inLoop := s.inLoop + 1 }
    skipNewlines
    let body ← readStatement fuel
    modify fun s => { s with inLoop := s.inLoop - 1 }
    return body

/-- Reads a statement with its end. -/
def readStatement : Nat → Reading Statement
  | 0 => failHere
  | fuel + 1 => do
    let simple (s : Statement) : Reading Statement := do
      takeEnd
      return s
    match ← peek with
    | .sign "\x7b" => readBlock fuel
    | .sign ";" | .newline =>
      skip
      skipNewlines
      return .empty
    | .keyword "if" =>
      skip
      needSign "("
      let test ← readExpr fuel
      needSign ")"
      skipNewlines
      let yes ← readStatement fuel
      if ← takeKeyword "else" then
        skipNewlines
        return .choose test yes (some (← readStatement fuel))
      return .choose test yes none
    | .keyword "while" =>
      skip
      needSign "("
      let test ← readExpr fuel
      needSign ")"
      return .loop test (← readBody fuel)
    | .keyword "do" =>
      skip
      let body ← readBody fuel
      unless ← takeKeyword "while" do failHere
      needSign "("
      let test ← readExpr fuel
      needSign ")"
      simple (.again body test)
    | .keyword "for" =>
      skip
      needSign "("
      match ← readEach with
      | some (name, table) => return .each name table (← readBody fuel)
      | none =>
        let first ← readUntil fuel ";"
        skipNewlines
        let test ← readUntil fuel ";"
        skipNewlines
        let next ← readUntil fuel ")"
        return .count first test next (← readBody fuel)
    | .keyword "print" =>
      skip
      let arguments ← readPrinted fuel
      simple (.print arguments (← readOutlet fuel))
    | .keyword "printf" =>
      skip
      let arguments ← readPrinted fuel
      if arguments.isEmpty then failLine "no arguments in call to printf"
      simple (.format arguments (← readOutlet fuel))
    | .keyword "break" =>
      skip
      needLoop "break"
      simple .leave
    | .keyword "continue" =>
      skip
      needLoop "continue"
      simple .proceed
    | .keyword "next" =>
      skip
      if (← get).inEdge then failLine "improper use of next"
      simple .next
    | .keyword "nextfile" =>
      skip
      if (← get).inEdge then failLine "improper use of nextfile"
      simple .nextFile
    | .keyword "exit" =>
      skip
      if (← peek).endsStatement then simple (.exit none)
      else
        let status ← readExpr fuel
        simple (.exit (some status))
    | .keyword "return" =>
      skip
      unless (← get).inFunction do failLine "return outside function body"
      if (← peek).endsStatement then simple (.give none)
      else
        let value ← readExpr fuel
        simple (.give (some value))
    | .keyword "delete" =>
      skip
      let table ← needName
      if ← takeSign "[" then
        let index ← readList fuel
        needSign "]"
        simple (.delete table (some index))
      else simple (.delete table none)
    | _ =>
      let e ← readExpr fuel
      simple (.run e)

/-- Reads an expression, if there is one, up to a sign. -/
def readUntil : Nat → String → Reading (Option Expr)
  | 0, _ => failHere
  | fuel + 1, sign => do
    if ← takeSign sign then return none
    let e ← readExpr fuel
    needSign sign
    return some e

/-- Reads a block, with the ends of lines behind it. -/
def readBlock : Nat → Reading Statement
  | 0 => failHere
  | fuel + 1 => do
    needSign "\x7b"
    skipNewlines
    let body ← readStatements fuel
    needSign "\x7d"
    skipNewlines
    return .block body

/-- Reads statements up to the end of a block. -/
def readStatements : Nat → Reading (List Statement)
  | 0 => failHere
  | fuel + 1 => do
    if ← isSign "\x7d" then return []
    let s ← readStatement fuel
    return s :: (← readStatements fuel)

end

/-- Reads the names of parameters. -/
def readParameters : Nat → Reading (List String)
  | 0 => failHere
  | fuel + 1 => do
    let name ← needName
    if ← takeSign "," then
      skipNewlines
      return name :: (← readParameters fuel)
    return [name]

/-- Reads a block at the outermost level; a semicolon behind it is passed over. -/
def readAction (fuel : Nat) : Reading Statement := do
  let body ← readBlock fuel
  if ← takeSign ";" then skipNewlines
  return body

/-- Reads the rules and functions of a script. -/
def readItems : Nat → Script → Reading Script
  | 0, _ => failHere
  | fuel + 1, script => do
    let rule (condition : When) (body : Option Statement) : Reading Script :=
      readItems fuel { script with rules := { condition, body } :: script.rules }
    let edge (condition : When) : Reading Script := do
      skip
      modify fun s => { s with inEdge := true }
      let body ← readAction fuel
      modify fun s => { s with inEdge := false }
      rule condition (some body)
    let actionOrEnd : Reading (Option Statement) := do
      if ← isSign "\x7b" then return some (← readAction fuel)
      match ← peek with
      | .newline | .sign ";" =>
        skip
        skipNewlines
        return none
      | .over => return none
      | _ => failHere
    match ← peek with
    | .over => return script
    | .keyword "BEGIN" => edge .first
    | .keyword "END" => edge .last
    | .keyword "function" =>
      skip
      let name ← match ← peek with
        | .call name | .name name => pure name
        | _ => failHere
      skip
      needSign "("
      let parameters ← if ← isSign ")" then pure [] else readParameters fuel
      needSign ")"
      skipNewlines
      if script.functions.any fun f => f.name == name then failLine ("redefinition of " ++ name)
      modify fun s => { s with inFunction := true }
      let body ← readAction fuel
      modify fun s => { s with inFunction := false }
      readItems fuel
        { script with functions := { name, parameters, body } :: script.functions }
    | .sign "\x7b" =>
      let body ← readAction fuel
      rule .always (some body)
    | _ =>
      let test ← readExpr fuel
      if ← takeSign "," then
        skipNewlines
        let stop ← readExpr fuel
        rule (.range test stop) (← actionOrEnd)
      else rule (.test test) (← actionOrEnd)

/-- A script as it is written and its patterns with their lines, or what is wrong with some lines. -/
def readScript (text : List Char) : Except (List (Nat × String)) (Script × List (Nat × String)) :=
  let found := withoutNewlines (tokens text)
  match (readItems (found.length * 24 + 64) {}).run { rest := found } with
  | .ok script s =>
    .ok ({ rules := script.rules.reverse, functions := script.functions.reverse },
      s.patterns.reverse)
  | .error e _ => .error e

end DeviceLab.Tools.Records
