import DeviceLab.Tools.Lines

/-!
# Patterns for lines

The patterns by which programs look for parts of lines.  There are two ways to write them: the basic
one, in which most signs stand for themselves unless a backslash is in front of them, and the extended
one.

* `Pattern`: a pattern.
* `Pattern.read`: a pattern as it is written.
* `Pattern.findFrom`: the first part of a line that a pattern accepts, with the parts that its groups
  accept.
-/

namespace DeviceLab.Tools

/-- A pattern. -/
inductive Pattern where
  | empty
  | char (c : Char)
  | any
  /-- The characters of a set, or all others. -/
  | oneOf (inverts : Bool) (chars : Array Bool)
  | lineStart
  | lineEnd
  /-- The start and the end of the whole text. -/
  | textStart
  | textEnd
  /-- A place between a character of a word and another one: its start, its end, or both. -/
  | wordStart
  | wordEnd
  | wordEdge (inverts : Bool)
  | group (number : Nat) (body : Pattern)
  /-- The same text as a group has accepted. -/
  | again (number : Nat)
  | both (first second : Pattern)
  | either (first second : Pattern)
  | repeated (body : Pattern) (least : Nat) (most : Option Nat)
  deriving Inhabited

namespace Pattern

/-! ### Reading patterns -/

def isWordChar (c : Char) : Bool := c.isAlphanum || c == '_'

/-- A set of characters by a test. -/
def setOf (inverts : Bool) (test : Char → Bool) : Pattern :=
  .oneOf inverts ((List.range 256).map fun n => test (Char.ofNat n)).toArray

/-- What is left of a pattern, with the number of groups so far. -/
structure Reader where
  rest : List Char
  groups : Nat := 0
  /-- The groups that are open. -/
  depth : Nat := 0
  isExtended : Bool := false
  /-- Whether signs of repetition may stand only where there is something to repeat. -/
  isStrict : Bool := false
  /-- Whether a backslash in a set stands for the character behind it. -/
  hasEscapes : Bool := false
  /-- What was odd and has been passed over, the last thing first. -/
  oddities : List String := []

/-- The reading of a part of a pattern, or why it is none. -/
abbrev Reading := EStateM String Reader

/-- Reads the set between brackets, the first of which has been taken. -/
def readSet : Nat → Bool → List Char → Reading (List Char)
  | 0, _, _ => throw "Unmatched [, [^, [:, [., or [="
  | fuel + 1, isFirst, found => do
    let s ← get
    let unmatched {α : Type} : Reading α := throw "Unmatched [, [^, [:, [., or [="
    match s.rest with
    | [] => unmatched
    | ']' :: rest =>
      if isFirst then readFrom fuel ']' rest found
      else
        set { s with rest }
        return found
    | '[' :: ':' :: rest =>
      let name := rest.takeWhile (· != ':')
      match rest.drop name.length with
      | ':' :: ']' :: rest =>
        match Tr.classOf? (String.ofList name) with
        | some chars =>
          set { s with rest }
          readSet fuel false (chars ++ found)
        | none => throw "Invalid character class name"
      | _ => unmatched
    | '\\' :: c :: rest =>
      if s.hasEscapes then readFrom fuel c rest found else readFrom fuel '\\' (c :: rest) found
    | '[' :: '=' :: c :: '=' :: ']' :: rest | '[' :: '.' :: c :: '.' :: ']' :: rest =>
      readFrom fuel c rest found
    | c :: rest => readFrom fuel c rest found
where
  /-- Goes on behind a character, which may be the first one of a range. -/
  readFrom (fuel : Nat) (c : Char) (rest : List Char) (found : List Char) : Reading (List Char) := do
    match rest with
    | '-' :: d :: rest =>
      if d = ']' then
        modify fun s => { s with rest := '-' :: ']' :: rest }
        readSet fuel false (c :: found)
      else if d.toNat < c.toNat then throw "Invalid range end"
      else
        modify fun s => { s with rest }
        let range := (List.range (d.toNat - c.toNat + 1)).map fun k => Char.ofNat (c.toNat + k)
        readSet fuel false (range ++ found)
    | _ =>
      modify fun s => { s with rest }
      readSet fuel false (c :: found)

/-- What is said of the name of a class that is not between two pairs of brackets. -/
def misplacedClass : String := "character class syntax is [[:space:]], not [:space:]"

/-- Reads a bracketed set. -/
def readBrackets : Reading Pattern := do
  let s ← get
  if s.rest.isEmpty || s.rest == ['^'] then throw "Invalid regular expression"
  if s.rest.head? == some ':' then
    let inside := (s.rest.drop 1).takeWhile (· != ']')
    if inside.getLast? == some ':' && (s.rest.drop 1).contains ']' then throw misplacedClass
  let inverts := s.rest.head? == some '^'
  let rest := if inverts then s.rest.drop 1 else s.rest
  set { s with rest }
  let chars ← readSet (rest.length + 1) true []
  return .oneOf inverts (Tr.tableOf chars)

/-- The greatest number of repetitions. -/
def repetitionLimit : Nat := 32767

/-- What an interval says: how often, and what is behind it. -/
abbrev Interval := Nat × Option Nat × List Char

/-- The number at the start of an interval, if there is one and nothing else, and what is behind. -/
def intervalNumber (text : List Char) : Option (Option Nat) × List Char :=
  let digits := text.takeWhile fun c => c != ',' && c != '\\' && c != '\x7d'
  let number := if digits.isEmpty then some none
    else if digits.all Char.isDigit then some (String.ofList digits).toNat? else none
  (number, text.drop digits.length)

/-- The interval at the start of some characters.  One that is none is a fault, or nothing at all if
`mayBePlain`. -/
def interval (isExtended mayBePlain : Bool) (text : List Char) : Except String (Option Interval) :=
  let closed (text : List Char) : Option (List Char) :=
    match isExtended, text with
    | true, '\x7d' :: rest => some rest
    | false, '\\' :: '\x7d' :: rest => some rest
    | _, _ => none
  let unclosed : Except String (Option Interval) :=
    if mayBePlain then .ok none else .error "Unmatched \\\x7b"
  let bad : Except String (Option Interval) := .error "Invalid content of \\\x7b\\\x7d"
  let hasEnd := (List.range (text.length + 1)).any fun n => (closed (text.drop n)).isSome
  if !hasEnd then unclosed
  else
    let (first, rest) := intervalNumber text
    let (last, rest, isOpen) := match rest with
      | ',' :: rest =>
        let (last, rest) := intervalNumber rest
        (last, rest, true)
      | _ => (first, rest, false)
    match first, last with
    | some first, some last =>
      match closed rest with
      | none => bad
      | some rest =>
        let least := first.getD 0
        if first.isNone && !isOpen || last.any (· < least) then bad
        else if repetitionLimit < last.getD least then .error "Regular expression too big"
        else .ok (some (least, last, rest))
    | _, _ => if mayBePlain then .ok none else bad

/-- The sign of a repetition at the start of some characters: how often, and what is behind it. -/
def repetition? (isExtended isStrict : Bool) (text : List Char) :
    Except String (Option Interval) :=
  match isExtended, text with
  | _, '*' :: rest => .ok (some (0, none, rest))
  | true, '+' :: rest | false, '\\' :: '+' :: rest => .ok (some (1, none, rest))
  | true, '?' :: rest | false, '\\' :: '?' :: rest => .ok (some (0, some 1, rest))
  | true, '\x7b' :: rest => interval true (!isStrict) rest
  | false, '\\' :: '\x7b' :: rest => interval false false rest
  | _, _ => .ok none

/-- What is said of something that there is nothing in front of to repeat. -/
def nothingToRepeat : String := "Invalid preceding regular expression"

/-- Whether a pattern in one way of writing ends here, or a part of it. -/
def endsPart (isExtended isStrict : Bool) (depth : Nat) (text : List Char) : Bool :=
  match isExtended, text with
  | _, [] => true
  | true, '|' :: _ => true
  | true, ')' :: _ => isStrict || 0 < depth
  | false, '\\' :: '|' :: _ | false, '\\' :: ')' :: _ => true
  | _, _ => false

/-- What a letter behind a backslash stands for. -/
def escaped (c : Char) : Pattern :=
  match c with
  | 'w' => setOf false isWordChar
  | 'W' => setOf true isWordChar
  | 's' => setOf false Wc.isSpace
  | 'S' => setOf true Wc.isSpace
  | '<' => .wordStart
  | '>' => .wordEnd
  | 'b' => .wordEdge false
  | 'B' => .wordEdge true
  | 'n' => .char '\n'
  | 't' => .char '\t'
  | '\x60' => .textStart
  | '\'' => .textEnd
  | c => .char c

/-- Puts a part behind others. -/
def append (first second : Pattern) : Pattern :=
  match first with
  | .empty => second
  | _ => .both first second

/-- What is behind a sign of repetition that has nothing in front of it. -/
def strayRepetition : Reading (Option (List Char)) := do
  let s ← get
  match repetition? s.isExtended s.isStrict s.rest with
  | .error e => throw e
  | .ok none => return none
  | .ok (some (_, _, rest)) => if s.isStrict then throw nothingToRepeat else return some rest

/-- What is said of a sign of repetition that has nothing in front of it. -/
def oddityOf (text : List Char) : String :=
  let shown := match text with
    | '\x7b' :: _ => "\x7b...\x7d"
    | c :: _ => c.toString
    | [] => ""
  shown ++ " at start of expression"

/-- Whether a part says only where it may be found. -/
def isAnchor : Pattern → Bool
  | .lineStart | .lineEnd | .textStart | .textEnd | .wordStart | .wordEnd | .wordEdge _ => true
  | _ => false

mutual

/-- Reads alternatives. -/
def readChoice : Nat → Reading Pattern
  | 0 => throw "Regular expression too big"
  | fuel + 1 => do
    let first ← readSequence fuel .empty true
    let s ← get
    match s.isExtended, s.rest with
    | true, '|' :: rest | false, '\\' :: '|' :: rest =>
      set { s with rest }
      return .either first (← readChoice fuel)
    | _, _ => return first

/-- Reads parts one behind the other; `isStart` tells that nothing has been read. -/
def readSequence : Nat → Pattern → Bool → Reading Pattern
  | 0, _, _ => throw "Regular expression too big"
  | fuel + 1, before, isStart => do
    let s ← get
    if endsPart s.isExtended s.isStrict s.depth s.rest then return before
    match ← (if isStart && s.isExtended then strayRepetition else pure none) with
    | some rest =>
      set { s with rest, oddities := oddityOf s.rest :: s.oddities }
      readSequence fuel before true
    | none =>
      let (part, isAnchor) ← readPart fuel isStart
      let part ← if isAnchor then pure part else readRepetitions fuel part
      readSequence fuel (append before part) isAnchor

/-- Reads the signs of repetition behind a part. -/
def readRepetitions : Nat → Pattern → Reading Pattern
  | 0, part => return part
  | fuel + 1, part => do
    let s ← get
    match repetition? s.isExtended s.isStrict s.rest with
    | .error e => throw e
    | .ok none => return part
    | .ok (some (least, most, rest)) =>
      set { s with rest }
      if s.isStrict && !s.isExtended then
        match rest with
        | '*' :: _ | '\\' :: '\x7b' :: _ => throw nothingToRepeat
        | _ => pure ()
      readRepetitions fuel (.repeated part least most)

/-- Reads a group, which has been opened. -/
def readGroup : Nat → Reading Pattern
  | 0 => throw "Regular expression too big"
  | fuel + 1 => do
    let s ← get
    set { s with groups := s.groups + 1, depth := s.depth + 1 }
    let body ← readChoice fuel
    let t ← get
    let rest ← match t.isExtended, t.rest with
      | true, ')' :: rest | false, '\\' :: ')' :: rest => pure rest
      | _, _ => throw "Unmatched ( or \\("
    set { t with rest, depth := s.depth }
    return .group (s.groups + 1) body

/-- Reads one part; tells whether it is a mark for the start of a line. -/
def readPart : Nat → Bool → Reading (Pattern × Bool)
  | 0, _ => throw "Regular expression too big"
  | fuel + 1, isStart => do
    let s ← get
    let plain (p : Pattern) (rest : List Char) : Reading (Pattern × Bool) := do
      set { s with rest }
      return (p, p.isAnchor)
    match s.rest with
    | [] => return (.empty, false)
    | '.' :: rest => plain .any rest
    | '[' :: rest =>
      set { s with rest }
      return (← readBrackets, false)
    | '^' :: rest =>
      if s.isExtended || isStart then plain .lineStart rest else plain (.char '^') rest
    | '$' :: rest =>
      if s.isExtended || endsPart false false s.depth rest then plain .lineEnd rest
      else plain (.char '$') rest
    | '(' :: rest =>
      if s.isExtended then
        set { s with rest }
        return (← readGroup fuel, false)
      else plain (.char '(') rest
    | '\\' :: [] => throw "Trailing backslash"
    | '\\' :: c :: rest =>
      if c = '(' && !s.isExtended then
        set { s with rest }
        return (← readGroup fuel, false)
      else if c.isDigit && c != '0' then
        let n := c.toNat - 48
        if s.groups < n then throw "Invalid back reference"
        plain (.again n) rest
      else plain (escaped c) rest
    | c :: rest => plain (.char c) rest

end

/-- A pattern that has been read: the number of its groups, and what was odd. -/
structure Found where
  pattern : Pattern
  groups : Nat
  oddities : List String

/-- Reads a whole pattern. -/
def readWhole (s : Reader) : Except String Found :=
  match (readChoice (s.rest.length * 4 + 8)).run s with
  | .ok pattern s =>
    if s.rest.isEmpty then .ok { pattern, groups := s.groups, oddities := s.oddities.reverse }
    else .error "Unmatched ) or \\)"
  | .error e _ => .error e

/-- A pattern as it is written, or what is wrong. -/
def read (isExtended isStrict : Bool) (text : List Char) : Except String Found :=
  readWhole { rest := text, isExtended, isStrict }

/-- A pattern in the extended way, in whose sets backslashes may stand. -/
def readEscaped (text : List Char) : Except String Found :=
  readWhole { rest := text, isExtended := true, hasEscapes := true }

def ofText (text : List Char) : Pattern := text.foldl (fun p c => append p (.char c)) .empty

/-! ### Looking for parts of lines -/

/-- The parts of a line that groups have accepted: where each starts and what is behind it. -/
abbrev Groups := List (Nat × Nat × Nat)

/-- A line that is looked through. -/
structure Line where
  chars : Array Char
  ignoresCase : Bool := false
  /-- Whether the end of a line inside of the text is one, too. -/
  hasLines : Bool := false

def Line.at? (line : Line) (n : Nat) : Option Char := line.chars[n]?

/-- Whether two characters count as the same. -/
def Line.same (line : Line) (c d : Char) : Bool :=
  c == d || line.ignoresCase && c.toLower == d.toLower

/-- Whether a character of a word stands at a place. -/
def Line.isWordAt (line : Line) (n : Nat) : Bool := (line.at? n).any isWordChar

/-- Whether a character of a word stands in front of a place. -/
def Line.isWordBefore (line : Line) (n : Nat) : Bool := 0 < n && line.isWordAt (n - 1)

/-- Whether the same text stands at two places. -/
def Line.repeats (line : Line) (first second : Nat) : Nat → Bool
  | 0 => true
  | n + 1 =>
    match line.at? first, line.at? second with
    | some c, some d => line.same c d && line.repeats (first + 1) (second + 1) n
    | _, _ => false

/-- What is behind an accepted part, with the groups. -/
abbrev Match := Option (Nat × Groups)

/-- The longer one of two accepted parts. -/
def longer (a b : Match) : Match :=
  match a, b with
  | some (n, _), some (m, _) => if n < m then b else a
  | some _, none => a
  | none, _ => b

/-- Goes on with a pattern from a place; `next` is what comes behind it. -/
def accept (line : Line) : Nat → Pattern → Nat → Groups → (Nat → Groups → Match) → Match
  | 0, _, _, _, _ => none
  | fuel + 1, p, n, groups, next =>
    match p with
    | .empty => next n groups
    | .char c => if (line.at? n).any (line.same c) then next (n + 1) groups else none
    | .any => if (line.at? n).isSome then next (n + 1) groups else none
    | .oneOf inverts chars =>
      let has (c : Char) : Bool := chars.getD c.toNat false
      let fits (c : Char) : Bool :=
        (has c || line.ignoresCase && (has c.toLower || has c.toUpper)) != inverts
      if (line.at? n).any fits then next (n + 1) groups else none
    | .lineStart =>
      if n = 0 || line.hasLines && line.at? (n - 1) == some '\n' then next n groups else none
    | .lineEnd =>
      if n = line.chars.size || line.hasLines && line.at? n == some '\n' then next n groups else none
    | .textStart => if n = 0 then next n groups else none
    | .textEnd => if n = line.chars.size then next n groups else none
    | .wordStart => if line.isWordAt n && !line.isWordBefore n then next n groups else none
    | .wordEnd => if !line.isWordAt n && line.isWordBefore n then next n groups else none
    | .wordEdge inverts =>
      if (line.isWordAt n != line.isWordBefore n) != inverts then next n groups else none
    | .group number body =>
      accept line fuel body n groups fun m groups =>
        next m ((number, n, m) :: groups.filter fun group => group.1 != number)
    | .again number =>
      match groups.lookup number with
      | some (first, behind) =>
        let length := behind - first
        if line.repeats first n length then next (n + length) groups else none
      | none => none
    | .both first second =>
      accept line fuel first n groups fun m groups => accept line fuel second m groups next
    | .either first second =>
      longer (accept line fuel first n groups next) (accept line fuel second n groups next)
    | .repeated body least most =>
      let stop : Match := if least = 0 then next n groups else none
      if most = some 0 then stop
      else
        let again := accept line fuel body n groups fun m groups =>
          if m = n && least = 0 then none
          else accept line fuel (.repeated body (least - 1) (most.map (· - 1))) m groups next
        again.or stop

/-- How far a pattern is followed along a line. -/
def stepsFor (line : Line) : Nat := line.chars.size * 4 + 1000

/-- The part of a line that a pattern accepts at a place. -/
def findAt (p : Pattern) (line : Line) (n : Nat) : Match :=
  accept line (stepsFor line) p n [] fun m groups => some (m, groups)

/-- The first part of a line from a place on that a pattern accepts: where it starts, what is behind it,
and the groups. -/
def findFrom (p : Pattern) (line : Line) (n : Nat) : Option (Nat × Nat × Groups) :=
  (List.range' n (line.chars.size + 1 - n)).findSome? fun n =>
    (p.findAt line n).map fun (m, groups) => (n, m, groups)

end Pattern

end DeviceLab.Tools
