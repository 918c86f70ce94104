import DeviceLab.Shell.Syntax
import DeviceLab.Text.Utf8

/-!
# The source of a script

A script is read character by character, and its lines are counted.  A backslash in front of a line's
end joins the line with the next one.  Where the name of an alias stands, its text is put in front of
what is left; while that text is being read the alias counts as used and is not replaced again.

* `Source`: what is left of a script, and what its reader has to keep in mind.
* `Source.take`, `Source.takeJoined`, `Source.putBack`: characters.
* `Source.skipBlanks`: what stands between two tokens.
* `Source.pushAlias`, `Source.leaveAliases`: aliases.
* `Source.readAgain`: a text in the place of the script.
-/

namespace DeviceLab.Shell

/-- Why a script cannot be read, with the line on which that was noticed. -/
structure Misread where
  line : Nat
  detail : String
  deriving Repr, Inhabited

/-- The smallest part of a script that has a meaning. -/
inductive Token where
  /-- Nothing is left. -/
  | ended
  | newline
  | redirection
  | word
  /-- An operator or a word of the language. -/
  | sign (text : String)
  deriving DecidableEq, Repr, Inhabited

/-- A token as it is shown in a complaint. -/
def Token.shown : Token → String
  | .ended => "end of file"
  | .newline => "newline"
  | .redirection => "redirection"
  | .word => "word"
  | .sign text => "\"" ++ text ++ "\""

/-- What the reader of a token looks out for. -/
structure Attention where
  /-- The ends of lines are passed over. -/
  newlines : Bool := false
  keywords : Bool := false
  aliases : Bool := false
  /-- The word marks the end of a text, in which nothing is replaced. -/
  marker : Bool := false
  deriving Repr, Inhabited

/-- A text that follows behind the line of a command. -/
structure TextMark where
  number : Nat
  /-- The line that ends it. -/
  mark : List Char
  /-- Whether nothing is replaced in it. -/
  isPlain : Bool
  /-- Whether tabs at the start of a line are left out. -/
  skipsTabs : Bool

/-- An alias whose text is being read. -/
structure AliasUse where
  name : String
  /-- The number of characters that are left behind its text. -/
  behind : Nat
  /-- Whether the word behind it may be an alias, too. -/
  continues : Bool

/-- What is left of a script, and what its reader has to keep in mind. -/
structure Source where
  text : List Char := []
  /-- The number of characters that are left. -/
  size : Nat := 0
  line : Nat := 1
  aliases : List (String × String) := []
  inUse : List AliasUse := []
  attention : Attention := {}
  last : Token := .ended
  /-- Whether the last token is to be read once more. -/
  isHeld : Bool := false
  /-- The last word, and whether a part of it was quoted. -/
  word : Word := []
  isQuoted : Bool := false
  /-- The last redirection, still without its target. -/
  redirection : Redirection := .toDescriptor 0 none
  /-- The mark that is to come with the last redirection. -/
  pendingMark : Option TextMark := none
  /-- The texts that follow behind the line. -/
  waiting : List TextMark := []
  /-- The texts that have been read, by their numbers. -/
  texts : List (Nat × Word) := []
  textCount : Nat := 0
  /-- Whether the end of what is left has been seen. -/
  isExhausted : Bool := false
  deriving Inhabited

/-- The reading of a part of a script. -/
abbrev Reading := EStateM Misread Source

namespace Source

/-- A script from its start. -/
def ofText (text : List Char) : Source := { text, size := text.length }

/-- Gives up, for a reason that is told as a mistake in the script. -/
def reject (detail : String) : Reading α := do
  throw { line := (← get).line, detail := "Syntax error: " ++ detail }

/-- Gives up on the last token; another one may have been expected. -/
def unexpected (expected : Option Token) : Reading α := do
  let found := (← get).last.shown ++ " unexpected"
  match expected with
  | some token => reject (found ++ " (expecting " ++ token.shown ++ ")")
  | none => reject found

/-- Takes the next character. -/
def take : Reading (Option Char) :=
  modifyGet fun s => match s.text with
    | [] => (none, { s with isExhausted := true })
    | c :: rest => (some c, { s with text := rest, size := s.size - 1 })

/-- Puts a character in front of what is left. -/
def putBack (c : Option Char) : Reading Unit :=
  match c with
  | none => return
  | some c => modify fun s => { s with text := c :: s.text, size := s.size + 1 }

/-- A text without the joints of lines at its start, and their number. -/
def withoutJoints : List Char → Nat → List Char × Nat
  | '\\' :: '\n' :: rest, n => withoutJoints rest (n + 1)
  | text, n => (text, n)

/-- Takes the next character behind joints of lines. -/
def takeJoined : Reading (Option Char) :=
  modifyGet fun s =>
    let (text, n) := withoutJoints s.text 0
    let s := if n = 0 then s else { s with size := s.size - 2 * n, line := s.line + n }
    match text with
    | [] => (none, { s with text := [], isExhausted := true })
    | c :: rest =>
      let isExhausted := s.isExhausted || c == '\\' && rest.isEmpty
      (some c, { s with text := rest, size := s.size - 1, isExhausted })

/-- Notes that the end of a line has been passed. -/
def countLine : Reading Unit := modify fun s => { s with line := s.line + 1 }

/-- What is left behind blanks, joints of lines and a comment, with the numbers of characters and of
lines that have been passed. -/
def withoutBlanks : Bool → List Char → Nat → Nat → List Char × Nat × Nat
  | true, '\n' :: rest, passed, lines => ('\n' :: rest, passed, lines)
  | true, _ :: rest, passed, lines => withoutBlanks true rest (passed + 1) lines
  | false, '\\' :: '\n' :: rest, passed, lines => withoutBlanks false rest (passed + 2) (lines + 1)
  | false, ' ' :: rest, passed, lines => withoutBlanks false rest (passed + 1) lines
  | false, '\t' :: rest, passed, lines => withoutBlanks false rest (passed + 1) lines
  | false, '#' :: rest, passed, lines => withoutBlanks true rest (passed + 1) lines
  | _, text, passed, lines => (text, passed, lines)

/-- Passes over what stands between two tokens. -/
def skipBlanks : Reading Unit :=
  modify fun s =>
    let (text, passed, lines) := withoutBlanks false s.text 0 0
    { s with text, size := s.size - passed, line := s.line + lines }

/-- The text of an alias, unless it is being read. -/
def aliasText? (s : Source) (name : String) : Option String :=
  if s.inUse.any fun use => use.name == name then none else s.aliases.lookup name

def isBlank (c : Char) : Bool := c == ' ' || c == '\t'

/-- Puts the text of an alias in front of what is left. -/
def pushAlias (name text : String) : Reading Unit :=
  modify fun s =>
    let chars := text.toList
    let use : AliasUse :=
      { name, behind := s.size, continues := (chars.getLast?.map isBlank).getD false }
    { s with text := chars ++ s.text, size := s.size + chars.length, inUse := use :: s.inUse }

/-- Drops the aliases whose texts have been read; tells whether the word behind them may be an alias,
too. -/
def leaveAliases : Reading Bool :=
  modifyGet fun s =>
    if s.inUse.isEmpty then (false, s)
    else
      let (left, kept) := s.inUse.partition fun use => s.size < use.behind
      (left.any (·.continues), { s with inUse := kept })

/-- Lets the last token be read once more. -/
def hold : Reading Unit := modify fun s => { s with isHeld := true }

/-- Sets what the reader of the next token looks out for. -/
def attend (attention : Attention) : Reading Unit := modify fun s => { s with attention }

/-- Notes the last token. -/
def found (token : Token) : Reading Token :=
  modifyGet fun s => (token, { s with last := token })

/-- Reads something from a text in the place of the script, and goes back to the script. -/
def readAgain (text : List Char) (reading : Reading α) : Reading α := do
  let s ← get
  set { s with text, size := text.length, line := 1, inUse := [], waiting := [], isHeld := false }
  let a ← reading
  modify fun t =>
    { t with
      text := s.text
      size := s.size
      line := s.line
      inUse := s.inUse
      waiting := s.waiting
      isHeld := false
      isExhausted := s.isExhausted }
  return a

end Source

/-! ### Names -/

def isNameStart (c : Char) : Bool := c.isAlpha || c == '_'

/-- Whether a character may stand in a name. -/
def isNameChar (c : Char) : Bool := c.isAlphanum || c == '_'

/-- Whether a text can be the name of a variable. -/
def isName (text : String) : Bool :=
  match text.toList with
  | [] => false
  | c :: rest => isNameStart c && rest.all isNameChar

/-- The text of a word in which nothing is quoted or replaced. -/
def Word.plain? : Word → Option (List Char)
  | [] => some []
  | .char c :: rest => (c :: ·) <$> Word.plain? rest
  | _ => none

/-- The name and the value of a word that is an assignment. -/
def Word.assignment? (word : Word) : Option (String × Word) :=
  let isIn (test : Char → Bool) : Element → Bool
    | .char c => test c
    | _ => false
  let name := word.takeWhile (isIn isNameChar)
  match name, word.drop name.length with
  | first :: _, .char '=' :: value =>
    if isIn isNameStart first then
      some (String.ofList ((Word.plain? name).getD []), value)
    else none
  | _, _ => none

end DeviceLab.Shell
