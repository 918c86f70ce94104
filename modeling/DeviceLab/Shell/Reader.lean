import DeviceLab.Shell.Word

/-!
# Reading commands

The reader follows the grammar of the language from the top: lists of pipelines of commands.  Lists
stand inside of commands, and commands inside of words, so that each part of the reader is given the
reader of what may stand inside of it.

* `readToken`: the next token; words of the language and aliases are found only where they may stand.
* `Source.readLine`: the commands up to the end of a line.
-/

namespace DeviceLab.Shell

open Source Unix

/-- The words of the language. -/
def keywords : List String :=
  ["!", "case", "do", "done", "elif", "else", "esac", "fi", "for", "if", "in", "then", "until",
    "while", "\x7b", "\x7d"]

/-- The tokens in front of which a list of commands ends. -/
def endsList : Token → Bool
  | .ended => true
  | .sign text =>
    [")", ";;", "do", "done", "elif", "else", "esac", "fi", "then", "\x7d"].contains text
  | _ => false

/-- The commands that keep their names from being used for functions. -/
def specialCommands : List String :=
  [".", ":", "break", "continue", "eval", "exec", "exit", "export", "local", "readonly", "return",
    "set", "shift", "times", "trap", "unset"]

/-- What a reader may come upon inside of something else. -/
inductive Goal where
  /-- Commands up to the end of a line. -/
  | line
  /-- One command at least, up to a token that ends a list. -/
  | body
  /-- Commands, if there are any, up to a token that ends a list. -/
  | list
  /-- One command. -/
  | command
  deriving DecidableEq, Repr

/-- The reader of what is inside. -/
abbrev Inner := Goal → Reading (Option Command)

section

variable (inner : Inner)

/-! ### Tokens -/

/-- Reads an operator whose first character has been taken; a second one may follow. -/
def readOperator (first : Char) : Reading Token := do
  let next ← takeJoined
  if next = some first then found (.sign (String.ofList [first, first]))
  else
    putBack next
    found (.sign first.toString)

/-- Reads the next token, whatever is looked out for. -/
def readRaw : Reading Token := do
  let s ← get
  if s.isHeld then
    set { s with isHeld := false }
    return s.last
  skipBlanks
  match ← takeJoined with
  | none => found .ended
  | some '\n' =>
    countLine
    found .newline
  | some '(' => found (.sign "(")
  | some ')' => found (.sign ")")
  | some c =>
    if c = '&' || c = '|' || c = ';' then readOperator c
    else readWord (inner .list) s.attention.marker c

/-- Passes over the ends of lines. -/
def skipLines : Nat → Token → Reading Token
  | fuel + 1, .newline => do
    readTexts (inner .list)
    skipLines fuel (← readRaw inner)
  | _, token => return token

/-- Reads the next token.  The text of an alias is read in its place. -/
def readTokenFor (attention : Attention) : Nat → Reading Token
  | 0 => return .ended
  | fuel + 1 => do
    let first ← readRaw inner
    let token ← if attention.newlines then skipLines inner readingLimit first else pure first
    let continues ← leaveAliases
    let s ← get
    let added := s.attention
    set { s with attention := {} }
    if token != .word || s.isQuoted then return token
    match Word.plain? s.word with
    | none => return token
    | some chars =>
      let text := String.ofList chars
      if (attention.keywords || added.keywords) && keywords.contains text then
        return ← found (.sign text)
      if attention.aliases || added.aliases || continues then
        match s.aliasText? text with
        | some replacement =>
          unless replacement.isEmpty do pushAlias text replacement
          readTokenFor attention fuel
        | none => return token
      else return token

def readToken : Reading Token := do readTokenFor inner (← get).attention readingLimit

/-- Reads a token that has to come next. -/
def require (token : Token) : Reading Unit := do
  if (← readToken inner) != token then unexpected (some token)

/-- Looks out for whatever may stand at the start of a command. -/
def atCommand : Attention := { newlines := true, keywords := true, aliases := true }

/-! ### Commands -/

/-- Notes the mark of a text that the last redirection waits for. -/
def setMark (pending : TextMark) : Reading Unit :=
  modify fun s =>
    let mark := s.word.filterMap fun
      | .char c | .quoted c => some c
      | _ => none
    { s with
      pendingMark := none
      waiting := s.waiting ++ [{ pending with mark, isPlain := s.isQuoted }] }

/-- A redirection with its target.  The same as a descriptor of one digit, or as none, is known at
once. -/
def aimed (redirection : Redirection) (target : Word) : Redirection :=
  match redirection with
  | .to n .same _ =>
    match Word.plain? target with
    | some ['-'] => .toDescriptor n none
    | some [c] =>
      if c.isDigit then .toDescriptor n (some (c.toNat - '0'.toNat)) else .to n .same target
    | _ => .to n .same target
  | .to n kind _ => .to n kind target
  | other => other

/-- Reads the target of the last redirection. -/
def readTarget : Reading Redirection := do
  let s ← get
  attend { marker := s.pendingMark.isSome }
  if (← readToken inner) != .word then unexpected none
  match s.pendingMark with
  | some pending =>
    setMark pending
    return s.redirection
  | none => return aimed s.redirection (← get).word

/-- A simple command that is being read; everything is in reverse. -/
structure SimpleDraft where
  assignments : List (String × Word) := []
  words : List Word := []
  redirections : List Redirection := []

/-- The name of the function that is being defined, if one may have this name. -/
def functionName (word : Word) : Reading String := do
  let refuse : Reading String := reject "Bad function name"
  match Word.plain? word with
  | none => refuse
  | some chars =>
    let name := String.ofList chars
    if isName name && !specialCommands.contains name then return name else refuse

/-- Reads the body of a function. -/
def readFunction (word : Word) : Reading Command := do
  require inner (.sign ")")
  let name ← functionName word
  attend atCommand
  let line := (← get).line
  return .define name line ((← inner .command).getD default)

/-- Reads a command of words, assignments and redirections. -/
def readSimple (line : Nat) : Nat → SimpleDraft → Reading Command
  | 0, _ => return default
  | fuel + 1, d => do
    attend { aliases := d.words.isEmpty }
    match ← readToken inner with
    | .word =>
      let word := (← get).word
      match if d.words.isEmpty then word.assignment? else none with
      | some assignment =>
        readSimple line fuel { d with assignments := assignment :: d.assignments }
      | none => readSimple line fuel { d with words := word :: d.words }
    | .redirection =>
      let redirection ← readTarget inner
      readSimple line fuel { d with redirections := redirection :: d.redirections }
    | token =>
      match token, d with
      | .sign "(", { assignments := [], words := [word], redirections := [] } =>
        readFunction inner word
      | _, _ =>
        hold
        return .simple line d.assignments.reverse d.words.reverse d.redirections.reverse

/-- Reads the redirections behind a command. -/
def readRedirections : Nat → List Redirection → Reading (List Redirection)
  | 0, found => return found.reverse
  | fuel + 1, found => do
    if (← readToken inner) = .redirection then
      readRedirections fuel ((← readTarget inner) :: found)
    else
      hold
      return found.reverse

/-- Reads a body, and a token behind it. -/
def readBody (last : Token) : Reading Command := do
  let body ← inner .body
  require inner last
  return body.getD default

/-- Reads what follows the first branch of a command with branches: more of them, each with its
condition, and what is done else. -/
def readBranches : Nat → Reading (Option Command)
  | 0 => return none
  | fuel + 1 => do
    match ← readToken inner with
    | .sign "elif" =>
      let condition ← readBody inner (.sign "then")
      let yes := (← inner .body).getD default
      return some (.branch condition yes (← readBranches fuel))
    | .sign "else" => inner .body
    | _ =>
      hold
      return none

/-- Reads words up to another token. -/
def readWords : Nat → List Word → Reading (List Word)
  | 0, words => return words.reverse
  | fuel + 1, words => do
    if (← readToken inner) = .word then readWords fuel ((← get).word :: words)
    else return words.reverse

def everyParameter : Word := [.mark, .parameter "@" .value false, .mark]

/-- Reads a command that is repeated for words. -/
def readEach (line : Nat) : Reading Command := do
  let refuse : Reading String := reject "Bad for loop variable"
  let token ← readToken inner
  let s ← get
  let name ← match Word.plain? s.word with
    | some chars =>
      if token != .word || s.isQuoted || !isName (String.ofList chars) then refuse
      else pure (String.ofList chars)
    | none => refuse
  attend atCommand
  let words ← if (← readToken inner) = .sign "in" then
      let words ← readWords inner readingLimit []
      let last := (← get).last
      if last != .newline && last != .sign ";" then unexpected none
      pure words
    else
      if (← get).last != .sign ";" then hold
      pure [everyParameter]
  attend atCommand
  require inner (.sign "do")
  return .each line name words (← readBody inner (.sign "done"))

/-- Reads the patterns of an arm. -/
def readPatterns : Nat → List Word → Reading (List Word)
  | 0, patterns => return patterns.reverse
  | fuel + 1, patterns => do
    let patterns := (← get).word :: patterns
    if (← readToken inner) = .sign "|" then
      discard (readToken inner)
      readPatterns fuel patterns
    else return patterns.reverse

/-- Reads the arms of a choice. -/
def readArms : Nat → List (List Word × Option Command) →
    Reading (List (List Word × Option Command))
  | 0, arms => return arms.reverse
  | fuel + 1, arms => do
    attend { newlines := true, keywords := true }
    match ← readToken inner with
    | .sign "esac" => return arms.reverse
    | first =>
      if first = .sign "(" then discard (readToken inner)
      let patterns ← readPatterns inner readingLimit []
      if (← get).last != .sign ")" then unexpected (some (.sign ")"))
      let body ← inner .list
      let arms := (patterns, body) :: arms
      attend { newlines := true, keywords := true }
      match ← readToken inner with
      | .sign "esac" => return arms.reverse
      | .sign ";;" => readArms fuel arms
      | _ => unexpected (some (.sign ";;"))

/-- Reads a choice between patterns. -/
def readChoice (line : Nat) : Reading Command := do
  require inner .word
  let subject := (← get).word
  attend atCommand
  require inner (.sign "in")
  return .choose line subject (← readArms inner readingLimit [])

/-- A command with redirections, which take the place of those that a command in a child has. -/
def redirected (line : Nat) (body : Command) (redirections : List Redirection) : Command :=
  match body, redirections with
  | _, [] => body
  | .subshell n body _, _ => .subshell n body redirections
  | _, _ => .redirected line body redirections

/-- Reads one command. -/
def readCompound : Reading Command := do
  let line := (← get).line
  let body : Command ← match ← readToken inner with
    | .sign "if" =>
      let condition ← readBody inner (.sign "then")
      let yes := (← inner .body).getD default
      let no ← readBranches inner readingLimit
      require inner (.sign "fi")
      pure (.branch condition yes no)
    | .sign "while" =>
      let condition ← readBody inner (.sign "do")
      pure (.loop false condition (← readBody inner (.sign "done")))
    | .sign "until" =>
      let condition ← readBody inner (.sign "do")
      pure (.loop true condition (← readBody inner (.sign "done")))
    | .sign "for" => readEach inner line
    | .sign "case" => readChoice inner line
    | .sign "(" => pure (.subshell line (← readBody inner (.sign ")")) [])
    | .sign "\x7b" => readBody inner (.sign "\x7d")
    | .word | .redirection =>
      hold
      return ← readSimple inner (← get).line readingLimit {}
    | _ => unexpected none
  attend { keywords := true, aliases := true }
  return redirected line body (← readRedirections inner readingLimit [])

/-! ### Lists -/

/-- Reads the commands behind a pipe. -/
def readPiped : Nat → List Command → Reading (List Command)
  | 0, commands => return commands.reverse
  | fuel + 1, commands => do
    if (← readToken inner) = .sign "|" then
      attend atCommand
      readPiped fuel ((← readCompound inner) :: commands)
    else
      hold
      return commands.reverse

/-- Reads a pipeline. -/
def readPipeline : Reading Command := do
  let isInverted := (← readToken inner) == .sign "!"
  if isInverted then attend { keywords := true, aliases := true } else hold
  let command ← match ← readPiped inner readingLimit [← readCompound inner] with
    | [command] => pure command
    | commands => pure (.pipeline commands false)
  return if isInverted then .invert command else command

/-- Reads what follows a pipeline that another one may depend on. -/
def readDependent : Nat → Command → Reading Command
  | 0, first => return first
  | fuel + 1, first => do
    match ← readToken inner with
    | .sign "&&" =>
      attend atCommand
      readDependent fuel (.both first (← readPipeline inner))
    | .sign "||" =>
      attend atCommand
      readDependent fuel (.either first (← readPipeline inner))
    | _ =>
      hold
      return first

/-- A command that is not waited for. -/
def aside (line : Nat) : Command → Command
  | .pipeline commands _ => .pipeline commands true
  | .redirected line body redirections => .background line body redirections
  | body => .background line body []

/-- Adds a command to those before it. -/
def sequel (before : Option Command) (command : Command) : Option Command :=
  match before with
  | none => some command
  | some first => some (.sequel first command)

/-- Reads a list of commands; `started` tells whether one of them has been read. -/
def readListFrom (goal : Goal) : Nat → Bool → Option Command → Reading (Option Command)
  | 0, _, commands => return commands
  | fuel + 1, started, commands => do
    attend { newlines := goal != .line, keywords := true, aliases := true }
    let token ← readToken inner
    if token = .newline then
      readTexts (inner .list)
      return commands
    if token = .ended then
      readTexts (inner .list)
      discard (found .ended)
      hold
      return commands
    hold
    if goal != .line && (goal = .list || started) && endsList token then return commands
    let line := (← get).line
    let command ← readDependent inner readingLimit (← readPipeline inner)
    let token ← readToken inner
    let command := if token = .sign "&" then aside line command else command
    let commands := sequel commands command
    match token with
    | .ended =>
      readTexts (inner .list)
      discard (found .ended)
      hold
      return commands
    | .newline =>
      hold
      readListFrom goal fuel true commands
    | .sign ";" | .sign "&" => readListFrom goal fuel true commands
    | _ =>
      if goal = .line then unexpected none
      hold
      return commands

end

/-- The reader of what is inside of something else; `fuel` bounds how deep that is. -/
def readGoal : Nat → Goal → Reading (Option Command)
  | 0, _ => reject "nesting"
  | fuel + 1, .command => some <$> readCompound (readGoal fuel)
  | fuel + 1, goal => readListFrom (readGoal fuel) goal readingLimit false none

/-- What a line of a script holds. -/
inductive Line where
  /-- Nothing is left of the script. -/
  | ended
  /-- The commands, if there are any. -/
  | commands (body : Option Command)
  deriving Inhabited

/-- Reads the commands up to the end of a line. -/
def Source.readLine (s : Source) : Except Misread (Line × Source) :=
  let s := { s with attention := {}, isHeld := false, waiting := [] }
  match (readGoal readingLimit .line).run s with
  | .ok body s =>
    let isEnd := s.isHeld && s.last == .ended
    .ok (if isEnd && body.isNone then .ended else .commands body, s)
  | .error e _ => .error e

end DeviceLab.Shell
