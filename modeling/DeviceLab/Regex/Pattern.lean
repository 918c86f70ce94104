import DeviceLab.Decimal.Powers
import DeviceLab.Regex.Syntax
import DeviceLab.Text.Classes
import DeviceLab.Text.Blank
import DeviceLab.Decimal.Numeral
import DeviceLab.Json.Reader

/-!
# Reading patterns

`Regex.ofPattern?` reads the text of a pattern: groups with and without names, flags, classes,
escapes, and counted and uncounted rounds.  Look-around, references back to a group, Unicode
classes, nested classes and set operations on classes are not part of the language, and neither are
escapes of letters without a meaning or braces that count nothing.
-/

namespace DeviceLab.Regex

open Text

/-- The flags in force at a place of a pattern. -/
structure Flags where
  foldCase : Bool := false
  multiLine : Bool := false
  dotMatchesNewline : Bool := false
  swapGreed : Bool := false
  crlf : Bool := false
  /-- Blanks and comments are no part of the expression. -/
  verbose : Bool := false

/-- A place in a pattern. -/
structure PatternPlace where
  rest : List Char
  flags : Flags
  /-- The number of groups opened so far. -/
  groups : Nat
  names : List String
  /-- The length of the whole pattern, which no loop over the rest exceeds. -/
  length : Nat

abbrev PatternReader := StateT PatternPlace Option

/-- The text without blanks and comments at its start. -/
def skipVerbose : List Char → Bool → List Char
  | [], _ => []
  | c :: rest, true => skipVerbose rest (c != '\n')
  | c :: rest, false =>
    if isBlank c then skipVerbose rest false
    else if c = '#' then skipVerbose rest true
    else c :: rest

/-- The next character is the first of what remains. -/
def peekAll : PatternReader (List Char) := return (← get).rest

/-- Goes on at a given text. -/
def goTo (rest : List Char) : PatternReader Unit := modify fun p => { p with rest }

/-- Passes over blanks and comments where these are no part of the expression. -/
def skipComments : PatternReader Unit :=
  modify fun p => if p.flags.verbose then { p with rest := skipVerbose p.rest false } else p

def takeChar : PatternReader Char := do
  match ← peekAll with
  | c :: rest => goTo rest; return c
  | [] => failure

/-- Goes behind the next character and the blanks after it. -/
def step : PatternReader Unit := do
  discard takeChar
  skipComments

/-- Goes behind the next character and the blanks after it; something must follow. -/
def advance : PatternReader Unit := do
  step
  guard !(← peekAll).isEmpty

/-- Takes the given character. -/
def expect (c : Char) : PatternReader Unit := do guard ((← takeChar) == c)

/-- At most the given number of characters of a class, with the blanks after each put aside. -/
def takeSpaced (belongs : Char → Bool) : Nat → PatternReader (List Char)
  | 0 => return []
  | n + 1 => do
    match ← peekAll with
    | c :: _ =>
      if belongs c then
        step
        return c :: (← takeSpaced belongs n)
      else return []
    | [] => return []

/-- A character that stands for itself, or for both of its cases where case does not matter. -/
def literal (flags : Flags) (c : Char) : Regex :=
  if flags.foldCase && c.isAlpha then .set (CharSet.single c).foldCase else .char c

/-- The characters with a meaning of their own, which an escape takes away. -/
def isMeta (c : Char) : Bool := "\\.+*?()|[]\x7b\x7d^$#&-~".toList.contains c

/-- The characters that may be escaped: all of ASCII but letters, digits and angle brackets. -/
def isEscapable (c : Char) : Bool :=
  isMeta c || (c.toNat < 0x80 && !c.isAlphanum && c != '<' && c != '>')

def isHexDigit (c : Char) : Bool := (Json.hexDigit? c).isSome

/-- The character whose code point the hexadecimal digits write. -/
def codePoint? (digits : List Char) : Option Char := do
  guard !digits.isEmpty
  let n ← Json.hexNumber? digits
  if n < 0xd800 ∨ (0xdfff < n ∧ n < 0x110000) then some (Char.ofNat n) else none

/-- A character told by its number, from behind the letter of the escape: as many digits as the
letter asks for, or any number of them in braces. -/
def hexChar (width : Nat) : PatternReader Char := do
  skipComments
  match ← peekAll with
  | '\x7b' :: _ =>
    step
    let digits ← takeSpaced isHexDigit (← get).length
    guard ((← peekAll).head? = some '\x7d')
    step
    codePoint? digits
  | _ =>
    let digits ← takeSpaced isHexDigit width
    guard (digits.length = width)
    codePoint? digits

/-- What an escape stands for: characters or a condition. -/
inductive Escaped where
  | char (c : Char)
  | set (s : CharSet)
  | look (l : Look)

/-- The kinds of word boundary with a name in braces. -/
def boundary? (name : String) : Option Look :=
  match name with
  | "start" => some .wordStart
  | "end" => some .wordEnd
  | "start-half" => some .wordStartHalf
  | "end-half" => some .wordEndHalf
  | _ => none

def isBoundaryLetter (c : Char) : Bool := c == '-' || c.isAlpha

/-- A word boundary, from behind its letter.  A brace after it names a kind of boundary, unless
something else than a letter or dash follows: then it counts rounds. -/
def wordBoundary : PatternReader Look := do
  let start ← peekAll
  if start.head? = some '\x7b' then
    advance
    if (← peekAll).head?.any isBoundaryLetter then
      let name ← takeSpaced isBoundaryLetter (← get).length
      expect '\x7d'
      boundary? (String.ofList name)
    else
      goTo start
      return .wordBoundary
  else return .wordBoundary

/-- An escape, from behind its backslash. -/
def escape : PatternReader Escaped := do
  let c ← takeChar
  match c with
  | 'x' => return .char (← hexChar 2)
  | 'u' => return .char (← hexChar 4)
  | 'U' => return .char (← hexChar 8)
  | 'd' => return .set .digit
  | 's' => return .set .space
  | 'w' => return .set .word
  | 'D' => return .set CharSet.digit.complement
  | 'S' => return .set CharSet.space.complement
  | 'W' => return .set CharSet.word.complement
  | 'a' => return .char '\x07'
  | 'f' => return .char '\x0c'
  | 't' => return .char '\t'
  | 'n' => return .char '\n'
  | 'r' => return .char '\r'
  | 'v' => return .char '\x0b'
  | 'A' => return .look .textStart
  | 'z' => return .look .textEnd
  | 'b' => return .look (← wordBoundary)
  | 'B' => return .look .notWordBoundary
  | '<' => return .look .wordStart
  | '>' => return .look .wordEnd
  | _ => if isEscapable c then return .char c else failure

/-- A named class inside brackets, such as `[:digit:]`, from its bracket on. -/
def namedClass? (cs : List Char) : Option (CharSet × List Char) :=
  match cs with
  | '[' :: ':' :: body =>
    let (negated, body) := match body with
      | '^' :: more => (true, more)
      | _ => (false, body)
    let name := body.takeWhile (· != ':')
    match body.drop name.length with
    | ':' :: ']' :: rest =>
      (CharSet.named? (String.ofList name)).map fun s => (if negated then s.complement else s, rest)
    | _ => none
  | _ => none

/-- One item of a class.  An escaped letter stands for both of its cases where case does not
matter; a plain one is folded with the class. -/
def classItem : PatternReader Escaped := do
  match ← takeChar with
  | '\\' =>
    match ← escape with
    | .look _ => failure
    | .set s => return .set s
    | .char c =>
      match literal (← get).flags c with
      | .set s => return .set s
      | _ => return .char c
  | c => return .char c

/-- The first character that is no blank, behind at most one number sign. -/
def peekBehindBlanks : List Char → Bool → Option Char
  | [], _ => none
  | c :: rest, signSeen =>
    if isBlank c then peekBehindBlanks rest signSeen
    else if c = '#' ∧ !signSeen then peekBehindBlanks rest true
    else some c

/-- An item of a class or a range between two characters.  Before a closing bracket or another
dash, a dash does not make a range; where blanks are no part of the expression, the character after
the dash is looked for behind them and behind the sign that opens a comment. -/
def classRange : PatternReader (List (Nat × Nat)) := do
  let first ← classItem
  skipComments
  let alone := match first with
    | .char c => [(c.toNat, c.toNat)]
    | .set s => s.ranges
    | .look _ => []
  match ← peekAll with
  | '-' :: rest =>
    let next := if (← get).flags.verbose then peekBehindBlanks rest false else rest.head?
    if next = some ']' ∨ next = some '-' then return alone
    advance
    match first, ← classItem with
    | .char c, .char d =>
      guard (c ≤ d)
      return [(c.toNat, d.toNat)]
    | _, _ => failure
  | [] => failure
  | _ => return alone

/-- The items of a class up to its bracket, as ranges in any order. -/
def classItems : Nat → List (Nat × Nat) → PatternReader (List (Nat × Nat))
  | 0, _ => failure
  | fuel + 1, found => do
    skipComments
    match ← peekAll with
    | [] => failure
    | ']' :: rest => goTo rest; return found
    | '&' :: '&' :: _ => failure
    | '-' :: '-' :: _ => failure
    | '~' :: '~' :: _ => failure
    | '[' :: rest =>
      match namedClass? ('[' :: rest) with
      | some (s, rest) => goTo rest; classItems fuel (s.ranges ++ found)
      | none => failure
    | _ => classItems fuel ((← classRange) ++ found)

/-- The dashes at the start of a class, which stand for themselves: whether there are any. -/
def leadingDashes : Nat → Bool → PatternReader Bool
  | 0, found => return found
  | fuel + 1, found => do
    match ← peekAll with
    | '-' :: _ =>
      advance
      leadingDashes fuel true
    | _ => return found

/-- A class, from its bracket on.  A bracket that closes stands for itself at the start. -/
def bracketed : PatternReader Regex := do
  advance
  let negated := (← peekAll).head? = some '^'
  if negated then advance
  let dashes ← leadingDashes (← get).length false
  let start ← (do
    if dashes then return (CharSet.single '-').ranges
    else if (← peekAll).head? = some ']' then
      advance
      return (CharSet.single ']').ranges
    else return [])
  let found := CharSet.ofRanges (← classItems ((← get).length + 1) start)
  let folded := if (← get).flags.foldCase then found.foldCase else found
  return .set (if negated then folded.complement else folded)

/-- A decimal number below `2^32`, with blanks around it. -/
def decimal : PatternReader Nat := do
  goTo (trimStart (← peekAll))
  let digits ← takeSpaced Decimal.isDigit (← get).length
  goTo (trimStart (← peekAll))
  guard (!digits.isEmpty && Decimal.ofDigits digits < Decimal.twoTo 32)
  return Decimal.ofDigits digits

/-- Whether the rounds just read are greedy: a question mark turns it round, and so does a flag. -/
def greed : PatternReader Bool := do
  let swapped := (← get).flags.swapGreed
  match ← peekAll with
  | '?' :: rest => goTo rest; return swapped
  | _ => return !swapped

/-- The bounds of counted rounds, from the brace on. -/
def counted : PatternReader (Nat × Option Nat × Bool) := do
  advance
  let low ← decimal
  let high ← (do
    match ← peekAll with
    | ',' :: _ =>
      advance
      if (← peekAll).head? = some '\x7d' then return none else return some (← decimal)
    | _ => return some low)
  expect '\x7d'
  skipComments
  let greedy ← greed
  guard (high.all (low ≤ ·))
  return (low, high, greedy)

/-- The characters of a group's name. -/
def isNameChar (first : Bool) (c : Char) : Bool :=
  c == '_' || isAlphabetic c ||
    (!first && (c == '.' || c == '[' || c == ']' || isNumeric c))

/-- A group's name up to its angle bracket; no two groups share one. -/
def groupName : PatternReader String := do
  let cs ← peekAll
  let name := cs.takeWhile (· != '>')
  match name with
  | [] => failure
  | c :: more =>
    guard (isNameChar true c && more.all (isNameChar false) && name.length < cs.length)
    goTo (cs.drop (name.length + 1))
    let text := String.ofList name
    guard !(← get).names.contains text
    modify fun p => { p with names := text :: p.names }
    return text

/-- The flags with one of them set or cleared. -/
def setFlag (flags : Flags) (on : Bool) (c : Char) : Option Flags :=
  match c with
  | 'i' => some { flags with foldCase := on }
  | 'm' => some { flags with multiLine := on }
  | 's' => some { flags with dotMatchesNewline := on }
  | 'U' => some { flags with swapGreed := on }
  | 'R' => some { flags with crlf := on }
  | 'x' => some { flags with verbose := on }
  | 'u' => some flags
  | _ => none

/-- Flags up to a colon or a parenthesis: no letter twice, at most one dash, and letters after
it. -/
def readFlags : Flags → Bool → List Char → List Char → Option (Flags × List Char)
  | _, _, _, [] => none
  | flags, negated, seen, c :: rest =>
    if c = ':' ∨ c = ')' then
      if seen.head? = some '-' then none else some (flags, c :: rest)
    else if c = '-' then
      if negated then none else readFlags flags true (c :: seen) rest
    else
      match setFlag flags (!negated) c with
      | none => none
      | some changed => if seen.contains c then none else readFlags changed negated (c :: seen) rest

/-- How a group begins. -/
inductive Opening where
  | numbered (index : Nat) (name : Option String)
  | plain
  /-- Flags for the rest of the group around it. -/
  | directive

/-- The number of a group that is opened here. -/
def nextGroup : PatternReader Nat := do
  let index := (← get).groups + 1
  modify fun p => { p with groups := index }
  return index

/-- The beginning of a group, from behind its parenthesis. -/
def opening : PatternReader Opening := do
  skipComments
  let named (rest : List Char) : PatternReader Opening := do
    goTo rest
    return .numbered (← nextGroup) (← groupName)
  match ← peekAll with
  | '?' :: '=' :: _ => failure
  | '?' :: '!' :: _ => failure
  | '?' :: '<' :: '=' :: _ => failure
  | '?' :: '<' :: '!' :: _ => failure
  | '?' :: 'P' :: '<' :: rest => named rest
  | '?' :: '<' :: rest => named rest
  | '?' :: ')' :: _ => failure
  | '?' :: rest =>
    let (flags, after) ← readFlags (← get).flags false [] rest
    modify fun p => { p with flags }
    match after with
    | ')' :: _ => goTo after; return .directive
    | _ :: more => goTo more; return .plain
    | [] => failure
  | _ => return .numbered (← nextGroup) none

/-- The greatest nesting of groups, and of expressions. -/
def nestingLimit : Nat := 50

/-- Wraps the last part in rounds. -/
def wrapLast (wrap : Regex → Regex) : List Regex → Option (List Regex)
  | [] => none
  | last :: parts => some (wrap last :: parts)

/-- A character, a condition or an escape. -/
def primitive : PatternReader Regex := do
  let flags := (← get).flags
  match ← takeChar with
  | '\\' =>
    match ← escape with
    | .char c => return literal flags c
    | .set s => return .set s
    | .look l => return .look l
  | '.' =>
    if flags.dotMatchesNewline then return .set .all
    else if flags.crlf then return .set (CharSet.complement ⟨[(0x0a, 0x0a), (0x0d, 0x0d)]⟩)
    else return .set (CharSet.single '\n').complement
  | '^' =>
    return .look (if !flags.multiLine then .textStart
      else if flags.crlf then .lineStartCrlf else .lineStart)
  | '$' =>
    return .look (if !flags.multiLine then .textEnd
      else if flags.crlf then .lineEndCrlf else .lineEnd)
  | c => return literal flags c

/-- The expression of branches whose last one ends; the branches before it and its parts are in
reverse. -/
def closed (earlier parts : List Regex) : Regex :=
  inBranches (inSequence parts.reverse :: earlier).reverse

/-- The branches of a pattern or group, up to the parenthesis that closes it.  `level` counts the
groups around it, and both lists are in reverse. -/
def readBranches : Nat → Nat → List Regex → List Regex → PatternReader Regex
  | 0, _, _, _ => failure
  | fuel + 1, level, earlier, parts => do
    skipComments
    match ← peekAll with
    | [] => return closed earlier parts
    | '(' :: rest =>
      goTo rest
      let flags := (← get).flags
      let opened ← opening
      let added ← (do
        match opened with
        | .directive => return parts
        | .plain | .numbered .. =>
          guard (level < nestingLimit)
          let body ← readBranches fuel (level + 1) [] []
          modify fun p => { p with flags }
          match opened with
          | .numbered index name => return .group index name body :: parts
          | _ => return body :: parts)
      guard ((← peekAll).head? = some ')')
      discard takeChar
      readBranches fuel level earlier added
    | ')' :: _ =>
      guard (0 < level)
      return closed earlier parts
    | '|' :: rest =>
      goTo rest
      readBranches fuel level (inSequence parts.reverse :: earlier) []
    | '[' :: _ => readBranches fuel level earlier ((← bracketed) :: parts)
    | '?' :: rest =>
      goTo rest
      let greedy ← greed
      readBranches fuel level earlier (← wrapLast (inRounds 0 (some 1) greedy) parts)
    | '*' :: rest =>
      goTo rest
      let greedy ← greed
      readBranches fuel level earlier (← wrapLast (inRounds 0 none greedy) parts)
    | '+' :: rest =>
      goTo rest
      let greedy ← greed
      readBranches fuel level earlier (← wrapLast (inRounds 1 none greedy) parts)
    | '\x7b' :: _ =>
      guard !parts.isEmpty
      let (low, high, greedy) ← counted
      readBranches fuel level earlier (← wrapLast (inRounds low high greedy) parts)
    | _ => readBranches fuel level earlier ((← primitive) :: parts)

/-- The expression of a pattern. -/
def ofPattern? (pattern : String) : Option Regex := do
  let cs := pattern.toList
  let (r, _) ← readBranches (cs.length + 1) 0 [] [] ⟨cs, {}, 0, [], cs.length⟩
  if r.depth ≤ nestingLimit then some r else none

end DeviceLab.Regex
