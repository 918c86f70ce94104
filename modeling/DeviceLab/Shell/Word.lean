import DeviceLab.Shell.Source

/-!
# Reading words

A word reaches up to the next blank or operator that stands in the open: outside of quotes, of braces
around a parameter, and of expressions.  The reader keeps a level for whatever has been opened in
another one.  A text that follows behind the line of a command is read in the same way, up to the line
that marks its end.

* `readWord`: a word, with whether a part of it is quoted, or a redirection.
* `readTexts`: the texts that follow behind a line.
-/

namespace DeviceLab.Shell

open Source

/-- How characters are taken. -/
inductive Quoting where
  | open_
  | double
  | single
  /-- In an expression. -/
  | sum
  deriving DecidableEq, Repr, Inhabited

/-- What has been opened, and how characters are taken inside of it. -/
structure Level where
  quoting : Quoting := .open_
  /-- The number of parameters whose braces are open. -/
  braces : Nat := 0
  /-- Whether the level ends with the last of these braces. -/
  endsWithBrace : Bool := false
  /-- The number of parentheses that are open in an expression. -/
  parentheses : Nat := 0
  /-- The number of braces that were opened between quotation marks. -/
  quotedBraces : Nat := 0
  /-- Whether quotation marks are open inside of braces. -/
  isInner : Bool := false
  /-- Whether a backslash stands for itself in front of most characters. -/
  isDouble : Bool := false
  deriving Inhabited

/-- What has been read of a word. -/
structure Draft where
  level : Level := {}
  /-- The levels around. -/
  outer : List Level := []
  /-- The elements, the last one first. -/
  elements : List Element := []
  isQuoted : Bool := false
  deriving Inhabited

namespace Draft

def add (d : Draft) (elements : List Element) : Draft :=
  { d with elements := elements.reverse ++ d.elements }

def openLevel (d : Draft) (level : Level) : Draft :=
  { d with level, outer := d.level :: d.outer }

def closeLevel (d : Draft) : Draft :=
  match d.outer with
  | level :: outer => { d with level, outer }
  | [] => d

end Draft

/-- Whether a character can be the name of a parameter by itself. -/
def isSpecial (c : Char) : Bool := "!#$*-?@".toList.contains c || c.isDigit

/-- Whether a character in double quotes is kept from standing for a pattern or a home. -/
def isGuarded (c : Char) : Bool := "!*?[=~:/-]".toList.contains c

/-- The longest part of a script that is read in one go. -/
def readingLimit : Nat := 1000000000

/-- Takes the characters of a name, the first of which has been taken; gives them in reverse with the
character behind them. -/
def takeName (test : Char → Bool) : Nat → Char → List Char → Reading (List Char × Option Char)
  | 0, c, name => return (c :: name, none)
  | fuel + 1, c, name => do
    match ← takeJoined with
    | some next =>
      if test next then takeName test fuel next (c :: name) else return (c :: name, some next)
    | none => return (c :: name, none)

/-- The use of a parameter that a character behind its name tells. -/
def useOf (c : Option Char) : Option ParameterUse :=
  match c with
  | some '}' => some .value
  | some '-' => some .fallback
  | some '+' => some .alternative
  | some '?' => some .required
  | some '=' => some .assigned
  | _ => none

/-- How a parameter is used: the name, the use, and whether an empty value counts as none.  What does
not fit is no use, and is found out when the word is. -/
structure Parameter where
  name : String
  use : ParameterUse
  nonempty : Bool := false

/-- Reads how a parameter in braces is used, from the character behind its name on. -/
def readUse (name : String) (c : Option Char) : Reading Parameter := do
  match c with
  | some ':' =>
    match useOf (← takeJoined) with
    | some use => return { name, use, nonempty := true }
    | none => return { name, use := .unknown, nonempty := true }
  | some '%' | some '#' =>
    let next ← takeJoined
    if next = c then return { name, use := .cut (c == some '#') true }
    putBack next
    return { name, use := .cut (c == some '#') false }
  | _ => return { name, use := (useOf c).getD .unknown }

/-- Reads the name of a parameter in braces, and how it is used. -/
def readBraced : Reading Parameter := do
  let c ← takeJoined
  match c with
  | none => return { name := "", use := .unknown }
  | some c =>
    if isNameStart c then
      let (name, next) ← takeName isNameChar readingLimit c []
      readUse (String.ofList name.reverse) next
    else if c.isDigit then
      let (name, next) ← takeName Char.isDigit readingLimit c []
      readUse (String.ofList name.reverse) next
    else if c = '}' then
      putBack c
      return { name := "", use := .unknown }
    else
      let next ← takeJoined
      match c, next with
      | '#', some d =>
        if isNameChar d then
          let test := if d.isDigit then Char.isDigit else isNameChar
          let (name, behind) ← takeName test readingLimit d []
          unlessClosed (String.ofList name.reverse) behind
        else
          let behind ← takeJoined
          if d = '}' || behind != some '}' then
            putBack behind
            readUse "#" next
          else
            putBack behind
            return if isSpecial d then { name := d.toString, use := .length }
              else { name := "", use := .unknown }
      | _, _ =>
        if isSpecial c then readUse c.toString next
        else
          putBack next
          return { name := "", use := .unknown }
where
  /-- The length of a parameter, if its name is followed by a brace. -/
  unlessClosed (name : String) (behind : Option Char) : Reading Parameter := do
    putBack behind
    return { name, use := if behind = some '}' then .length else .unknown }

/-- The text between backquotes; a backslash stands for itself unless something special follows. -/
def readBackquoted (isDouble : Bool) : Nat → List Char → Reading (List Char)
  | 0, text => return text.reverse
  | fuel + 1, text => do
    match ← takeJoined with
    | none => reject "EOF in backquote substitution"
    | some '`' => return text.reverse
    | some '\\' =>
      match ← take with
      | none => reject "EOF in backquote substitution"
      | some c =>
        let isRemoved := c == '\\' || c == '`' || c == '$' || isDouble && c == '"'
        readBackquoted isDouble fuel (if isRemoved then c :: text else c :: '\\' :: text)
    | some c =>
      if c = '\n' then countLine
      readBackquoted isDouble fuel (c :: text)

/-- The reader of the commands that stand in a word. -/
abbrev Nested := Reading (Option Command)

/-- Reads the rest of a command in parentheses.  Texts that its last line waits for are empty. -/
def readCommand (nested : Nested) : Reading (Option Command) := do
  let waiting := (← get).waiting
  modify fun s => { s with waiting := [] }
  let body ← nested
  modify fun s => { s with isHeld := false }
  if (← get).last != .sign ")" then unexpected (some (.sign ")"))
  modify fun s => { s with
    waiting
    texts := s.waiting.map (fun mark => (mark.number, [])) ++ s.texts }
  return body

/-- Reads a command between backquotes. -/
def readOldCommand (nested : Nested) (isDouble : Bool) : Reading (Option Command) := do
  let text ← readBackquoted isDouble readingLimit []
  readAgain text nested

/-- Reads what a dollar sign is followed by. -/
def readDollar (nested : Nested) (isMarker : Bool) (d : Draft) : Reading Draft := do
  let c ← takeJoined
  let isUse := c.any fun c => c == '(' || c == '{' || isNameStart c || isSpecial c
  if isMarker || !isUse then
    putBack c
    return d.add [.char '$']
  match c with
  | some '(' =>
    let next ← takeJoined
    if next = some '(' then
      return (d.add [.expression]).openLevel { quoting := .sum, isDouble := true }
    putBack next
    return d.add [.command (← readCommand nested)]
  | some '{' =>
    let p ← readBraced
    let quoting := match p.use with
      | .cut _ _ => Quoting.open_
      | _ => if d.level.quoting = .sum then .double else d.level.quoting
    let d := d.add [.parameter p.name p.use p.nonempty]
    if p.use = .value && !p.nonempty then return d
    let d := if quoting != d.level.quoting || d.level.isInner then
        d.openLevel { quoting, endsWithBrace := true, isDouble := quoting != .open_ }
      else d
    let level := d.level
    return { d with level := { level with
      braces := level.braces + 1
      quotedBraces := level.quotedBraces + if level.isDouble then 1 else 0 } }
  | some c =>
    if isNameStart c then
      let (name, next) ← takeName isNameChar readingLimit c []
      putBack next
      return d.add [.parameter (String.ofList name.reverse) .value false]
    return d.add [.parameter c.toString .value false]
  | none => return d

/-- Reads what a backslash is followed by. -/
def readBackslash (isText : Bool) (d : Draft) : Reading Draft := do
  match ← take with
  | none => return d.add [.quoted '\\']
  | some c =>
    let l := d.level
    let isKept := l.isDouble && c != '\\' && c != '`' && c != '$'
      && (c != '"' || isText && l.braces = 0) && (c != '}' || l.braces = 0)
    if c = '\n' then countLine
    let d := { d with isQuoted := true }
    return d.add (if isKept then [.quoted '\\', .quoted c] else [.quoted c])

/-- Closes a brace. -/
def closeBrace (d : Draft) : Draft :=
  let l := d.level
  if l.isInner || l.braces = 0 then d.add [.char '}']
  else
    let d := { d with level := { l with braces := l.braces - 1 } }
    let d := if l.braces = 1 && l.endsWithBrace then d.closeLevel
      else { d with level := { d.level with quotedBraces := l.quotedBraces - 1 } }
    d.add [.close]

/-- Goes on at a quotation mark that opens or closes. -/
def toggleQuotes (isText : Bool) (quoting : Quoting) (isDouble : Bool) (d : Draft) : Draft :=
  let l := d.level
  let d := { d with level := { l with
    quoting
    isDouble
    isInner := if l.braces = 0 then l.isInner else !l.isInner } }
  if isText then d else d.add [.mark]

/-- What comes of one character of a word. -/
inductive Step where
  | on (draft : Draft)
  /-- The character ends the word. -/
  | over

/-- Goes on with a character in an expression. -/
def readSum (c : Char) (d : Draft) : Reading Draft := do
  let l := d.level
  match c with
  | '(' => return { d with level := { l with parentheses := l.parentheses + 1 } }.add [.char c]
  | ')' =>
    if 0 < l.parentheses then
      return { d with level := { l with parentheses := l.parentheses - 1 } }.add [.char c]
    let next ← takeJoined
    if next = some ')' then return (d.add [.closeExpression]).closeLevel
    putBack next
    return d.add [.char c]
  | _ => return d.add [.char c]

/-- Goes on with a character. -/
def step (nested : Nested) (isText isMarker : Bool) (c : Char) (d : Draft) : Reading Step := do
  let l := d.level
  if l.quoting = .single then
    if c = '\'' && !(isText && l.braces = 0) then
      let d := { d with isQuoted := true }
      if l.quotedBraces = 0 then
        return .on (mark { d with level := { l with quoting := .open_, isDouble := false } })
      return .on (mark d)
    if c = '\n' then countLine
    return .on (d.add [if isText then .char c else .quoted c])
  match c with
  | '\n' =>
    if l.quoting = .open_ && l.braces = 0 then return .over
    countLine
    return .on (d.add [.char c])
  | '\\' => return .on (← readBackslash isText d)
  | '$' => return .on (← readDollar nested isMarker d)
  | '`' =>
    if isMarker then return .on ({ d with isQuoted := true }.add [.char c])
    return .on (d.add [.command (← readOldCommand nested l.isDouble)])
  | '}' => return .on (closeBrace d)
  | _ =>
    match l.quoting with
    | .open_ =>
      if c = '\'' then return .on (mark { d with level := { l with quoting := .single } })
      if c = '"' then return .on (toggleQuotes isText .double true d)
      if "<>();&| \t".toList.contains c && l.braces = 0 then return .over
      return .on (d.add [.char c])
    | .double =>
      if c = '"' then
        if isText && l.braces = 0 then return .on (d.add [.char c])
        let d := { d with isQuoted := true }
        if l.quotedBraces = 0 then return .on (toggleQuotes isText .open_ false d)
        return .on (toggleQuotes isText .double l.isDouble d)
      return .on (d.add [if isGuarded c then .quoted c else .char c])
    | _ => return .on (← readSum c d)
where
  /-- Adds a quotation mark, unless marks stand for themselves. -/
  mark (d : Draft) : Draft := if isText then d else d.add [.mark]

def takeNext (d : Draft) : Reading (Option Char) :=
  if d.level.quoting = .single then take else takeJoined

/-- What is left behind the mark that ends a text, if the mark comes next; `c` has been taken. -/
def behindMark? (mark : TextMark) (c : Option Char) (text : List Char) : Option (List Char) :=
  let text := c.toList ++ text
  let text := if mark.skipsTabs then text.dropWhile (· == '\t') else text
  if mark.mark.isPrefixOf text then
    match text.drop mark.mark.length with
    | [] => some []
    | '\n' :: rest => some rest
    | _ => none
  else none

/-- Passes over the tabs at the start of a line; `c` has been taken. -/
def skipTabs : Nat → Option Char → Reading (Option Char)
  | fuel + 1, some '\t' => do skipTabs fuel (← take)
  | _, c => return c

/-- Looks whether the text ends at the start of a line; gives the character to go on with. -/
def atLineStart (mark : Option TextMark) (c : Option Char) : Reading (Option Char) := do
  match mark with
  | none => return c
  | some mark =>
    match behindMark? mark c (← get).text with
    | some rest =>
      modify fun s => { s with
        text := rest, size := rest.length, line := s.line + 1
        isExhausted := s.isExhausted || rest.isEmpty }
      return none
    | none => if mark.skipsTabs then skipTabs readingLimit c else return c

/-- Reads the elements of a word or of a text; gives the character that ends it. -/
def readElements (nested : Nested) (mark : Option TextMark) (isMarker : Bool) :
    Nat → Option Char → Draft → Reading (Draft × Option Char)
  | 0, c, d => return (d, c)
  | _ + 1, none, d => return (d, none)
  | fuel + 1, some c, d => do
    match ← step nested mark.isSome isMarker c d with
    | .over => return (d, some c)
    | .on d =>
      let next ← takeNext d
      let next ← if c = '\n' then atLineStart mark next else pure next
      readElements nested mark isMarker fuel next d

/-- Complains about what is still open at the end of a word. -/
def requireClosed (mark : Option TextMark) (d : Draft) : Reading Unit := do
  if d.level.quoting = .sum then reject "Missing '))'"
  if d.level.quoting != .open_ && mark.isNone then reject "Unterminated quoted string"
  if d.level.braces != 0 then reject "Missing '\x7d'"

/-- The descriptor that a word in front of a redirection tells. -/
def descriptorOf? (d : Draft) : Option (Option Nat) :=
  if d.isQuoted then none
  else match d.elements with
    | [] => some none
    | [.char c] => if c.isDigit then some (some (c.toNat - '0'.toNat)) else none
    | _ => none

/-- Reads the operator of a redirection, whose first character has been taken. -/
def readRedirection (c : Char) (descriptor : Option Nat) : Reading Unit := do
  let set (redirection : Redirection) : Reading Unit := modify fun s => { s with redirection }
  let next ← takeJoined
  if c = '>' then
    let n := descriptor.getD 1
    match next with
    | some '>' => set (.to n (.file .appending) [])
    | some '|' => set (.to n .overwrite [])
    | some '&' => set (.to n .same [])
    | _ =>
      putBack next
      set (.to n (.file .writing) [])
  else
    let n := descriptor.getD 0
    match next with
    | some '<' =>
      let next ← takeJoined
      let skipsTabs := next == some '-'
      unless skipsTabs do putBack next
      modify fun s => { s with
        redirection := .toText n s.textCount
        pendingMark := some { number := s.textCount, mark := [], isPlain := false, skipsTabs }
        textCount := s.textCount + 1 }
    | some '&' => set (.to n .same [])
    | some '>' => set (.to n (.file .both) [])
    | _ =>
      putBack next
      set (.to n (.file .reading) [])

/-- Reads a word, the first character of which has been taken, or a redirection. -/
def readWord (nested : Nested) (isMarker : Bool) (c : Char) : Reading Token := do
  let (d, last) ← readElements nested none isMarker readingLimit (some c) {}
  requireClosed none d
  match last, descriptorOf? d with
  | some '>', some descriptor =>
    readRedirection '>' descriptor
    found .redirection
  | some '<', some descriptor =>
    readRedirection '<' descriptor
    found .redirection
  | _, _ =>
    putBack last
    modify fun s => { s with word := d.elements.reverse, isQuoted := d.isQuoted }
    found .word

/-- Reads one text. -/
def readText (nested : Nested) (mark : TextMark) : Reading Unit := do
  let quoting := if mark.isPlain then Quoting.single else .double
  let d : Draft := { level := { quoting, isDouble := !mark.isPlain } }
  let first ← atLineStart (some mark) (← takeNext d)
  let (d, _) ← readElements nested (some mark) false readingLimit first d
  requireClosed (some mark) d
  modify fun s => { s with texts := (mark.number, d.elements.reverse) :: s.texts }

/-- Reads the texts that are waited for. -/
def readTexts (nested : Nested) : Reading Unit := do
  let waiting := (← get).waiting
  modify fun s => { s with waiting := [] }
  waiting.forM (readText nested)

end DeviceLab.Shell
