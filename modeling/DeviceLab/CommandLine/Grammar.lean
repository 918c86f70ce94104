/-!
# Reading a command line

A command line names a command; options come before or after its name, operands after it.  An option
has its value in the same argument (`--name=value`, `-nvalue`, `-n=value`) or in the next one, which
then must not look like an option itself.  After `--` every argument is an operand.

* `OptionRule`, `CommandRule`, `Grammar`: what may be said.
* `Misuse`, `Stop`: why a command line is not carried out.
* `Level.read`: the arguments up to the name of a command, or to the end.
* `Grammar.parse`: a whole command line.
* `Grammar.helpText`, `Grammar.misuseText`: what is said about it.
-/

namespace DeviceLab.CommandLine

/-- What the value of an option has to be. -/
inductive ValueForm where
  | text
  /-- Any text but the empty one. -/
  | path
  /-- A whole number within bounds. -/
  | whole (least greatest : Int)
  deriving DecidableEq, Repr

/-- An option with a value, or an operand. -/
structure OptionRule where
  name : String
  short : Option Char := none
  /-- What stands for the value where the option is described. -/
  placeholder : String
  about : String := ""
  form : ValueForm := .text
  /-- The value when the option is not given. -/
  usual : Option String := none
  isRequired : Bool := false
  /-- Whether it may be given more than once. -/
  repeats : Bool := false
  deriving DecidableEq, Repr

/-- A command with its own options and its operands. -/
structure CommandRule where
  name : String
  about : String
  options : List OptionRule := []
  operands : List OptionRule := []
  deriving DecidableEq, Repr

/-- The command line of a program. -/
structure Grammar where
  program : String
  version : String
  about : String
  /-- The options that every command has. -/
  shared : List OptionRule
  commands : List CommandRule
  deriving Repr

/-- What is wrong with a command line. -/
inductive Misuse where
  | unexpected (arg : String)
  | unknownCommand (name : String)
  | noCommand
  | noValue (option : OptionRule)
  | invalidValue (option : OptionRule) (value reason : String)
  | repeated (option : OptionRule)
  | missing (options : List OptionRule)
  deriving DecidableEq, Repr

/-- Why a command line is not carried out; the command is the one that it names, if it does. -/
inductive Stop where
  | help (command : Option String)
  | version
  | misuse (command : Option String) (cause : Misuse)
  deriving DecidableEq, Repr

/-! ### Values -/

/-- The number that decimal digits tell. -/
def digitsValue? (digits : List Char) : Option Nat :=
  if digits.isEmpty then none
  else digits.foldl (fun n c => n.bind fun n =>
    if c.isDigit then some (n * 10 + (c.toNat - 48)) else none) (some 0)

/-- A whole number, with a sign or without one. -/
def wholeValue? (text : String) : Option Int :=
  match text.toList with
  | '+' :: digits => (digitsValue? digits).map Int.ofNat
  | '-' :: digits => (digitsValue? digits).map fun n => -Int.ofNat n
  | digits => (digitsValue? digits).map Int.ofNat

/-- What is wrong with a value of a form. -/
def ValueForm.fault? (form : ValueForm) (value : String) : Option String :=
  match form with
  | .text => none
  | .path => if value.isEmpty then some "a value is required" else none
  | .whole least greatest =>
    match wholeValue? value with
    | none => some "invalid digit found in string"
    | some n =>
      if least ≤ n ∧ n ≤ greatest then none else some s!"{n} is not in {least}..={greatest}"

/-! ### Arguments -/

/-- What an argument looks like. -/
inductive Token where
  /-- The end of the options. -/
  | escape
  | long (name : String) (value : Option String)
  | short (letters : List Char)
  | plain
  deriving DecidableEq, Repr

/-- What stands before the first equals sign, and what stands after it, if there is one. -/
def splitAtEquals : List Char → List Char × Option (List Char)
  | [] => ([], none)
  | '=' :: rest => ([], some rest)
  | c :: rest =>
    let (before, after) := splitAtEquals rest
    (c :: before, after)

/-- What an argument looks like; a lone hyphen is an ordinary one. -/
def Token.ofArg (arg : String) : Token :=
  match arg.toList with
  | ['-', '-'] => .escape
  | '-' :: '-' :: rest =>
    let (name, value) := splitAtEquals rest
    .long (String.ofList name) (value.map String.ofList)
  | '-' :: c :: rest => .short (c :: rest)
  | _ => .plain

/-! ### Reading -/

/-- What may be said before the name of a command, or after it. -/
structure Level where
  options : List OptionRule
  /-- Whether the version may be asked for. -/
  hasVersion : Bool
  commands : List String

/-- How far a level has been read. -/
structure Reading where
  /-- The options and operands with their values, in order. -/
  given : List (String × String) := []
  /-- The option that waits for its value, or whose value has just come. -/
  current : Option (OptionRule × Option String) := none
  /-- The operands that may still come. -/
  operands : List OptionRule
  /-- Whether only operands follow. -/
  literal : Bool := false

/-- What ends a level before its end. -/
inductive Halt where
  | help
  | version
  | misuse (cause : Misuse)

namespace Reading

/-- Enters a value. -/
def enter (r : Reading) (option : OptionRule) (value : String) : Except Halt Reading :=
  if !option.repeats && r.given.any fun entry => entry.1 == option.name then
    .error (.misuse (.repeated option))
  else
    match option.form.fault? value with
    | some reason => .error (.misuse (.invalidValue option value reason))
    | none => .ok { r with given := r.given ++ [(option.name, value)], current := none }

/-- Is done with the option that was named last. -/
def settle (r : Reading) : Except Halt Reading :=
  match r.current with
  | none => .ok r
  | some (option, none) => .error (.misuse (.noValue option))
  | some (option, some value) => r.enter option value

/-- Whether an option waits for its value. -/
def isWaiting (r : Reading) : Bool := r.current.any fun entry => entry.2.isNone

/-- An option has been named, perhaps with its value. -/
def begin (r : Reading) (option : OptionRule) (value : Option String) : Except Halt Reading := do
  let r ← r.settle
  match value with
  | some value => r.enter option value
  | none => return { r with current := some (option, none) }

/-- Takes an argument as an operand. -/
def operand (r : Reading) (arg : String) : Except Halt Reading := do
  match r.operands with
  | [] => throw (.misuse (.unexpected arg))
  | rule :: rest =>
    let r ← r.settle
    { r with operands := rest }.enter rule arg

/-- Takes an argument that is no option as a value, or as an operand. -/
def plain (r : Reading) (arg : String) : Except Halt Reading :=
  match r.current with
  | some (option, none) => .ok { r with current := some (option, some arg) }
  | _ => r.operand arg

/-- Ends for good, if the option that was named last is in order. -/
def haltAt (r : Reading) (halt : Halt) : Except Halt Reading := do
  discard r.settle
  throw halt

end Reading

namespace Level

/-- An option by its long name. -/
def long (level : Level) (r : Reading) (name : String) (value : Option String) :
    Except Halt Reading :=
  match level.options.find? fun option => option.name == name with
  | some option => r.begin option value
  | none =>
    if value.isNone && name == "help" then r.haltAt .help
    else if value.isNone && level.hasVersion && name == "version" then r.haltAt .version
    else .error (.misuse (.unexpected ("--" ++ name)))

/-- An option by its letter, with what follows the letter. -/
def short (level : Level) (r : Reading) (letter : Char) (rest : List Char) : Except Halt Reading :=
  match level.options.find? fun option => option.short == some letter with
  | some option =>
    match rest with
    | [] => r.begin option none
    | '=' :: value => r.begin option (some (String.ofList value))
    | value => r.begin option (some (String.ofList value))
  | none =>
    if letter == 'h' then r.haltAt .help
    else if level.hasVersion && letter == 'V' then r.haltAt .version
    else .error (.misuse (.unexpected (String.ofList ['-', letter])))

/-- Takes one argument that names no command. -/
def step (level : Level) (r : Reading) (arg : String) : Except Halt Reading :=
  if r.literal then r.operand arg
  else
    match Token.ofArg arg with
    | .escape => .ok { r with literal := true }
    | .long name value => level.long r name value
    | .short [] => r.plain arg
    | .short (letter :: rest) => level.short r letter rest
    | .plain => r.plain arg

/-- Reads the arguments up to the name of a command; gives it with what follows it. -/
def read (level : Level) (r : Reading) :
    List String → Except Halt (Reading × Option (String × List String))
  | [] => .ok (r, none)
  | arg :: rest =>
    if !r.literal && !r.isWaiting && level.commands.contains arg then .ok (r, some (arg, rest))
    else do level.read (← level.step r arg) rest

end Level

/-! ### Whole command lines -/

/-- A command line that can be carried out. -/
structure Parsed where
  command : String
  /-- The options and operands with their values; those of the command come first. -/
  given : List (String × String)
  deriving Repr

namespace Parsed

def values (p : Parsed) (name : String) : List String :=
  (p.given.filter fun entry => entry.1 == name).map (·.2)

def value? (p : Parsed) (name : String) : Option String := (p.values name).head?

end Parsed

namespace Grammar

/-- The command that describes the others. -/
def helpCommand : CommandRule where
  name := "help"
  about := "Print this message or the help of the given subcommand(s)"
  operands := [{ name := "command", placeholder := "COMMAND", repeats := true
                 about := "Print help for the subcommand(s)" }]

def command? (g : Grammar) (name : String) : Option CommandRule :=
  (g.commands ++ [helpCommand]).find? fun c => c.name == name

/-- Tells which command a halt is about. -/
def stopOf (command : Option String) : Halt → Stop
  | .help => .help command
  | .version => .version
  | .misuse cause => .misuse command cause

/-- A level that is read to its end, with nothing missing. -/
def finish (rules : List OptionRule) (r : Reading) : Except Halt Reading := do
  let r ← r.settle
  let missing := rules.filter fun rule =>
    rule.isRequired && !r.given.any fun entry => entry.1 == rule.name
  if missing.isEmpty then return r else throw (.misuse (.missing missing))

/-- What the help is asked about. -/
def helpTopic (g : Grammar) : List String → Stop
  | [] => .help none
  | [name] =>
    if (g.command? name).isSome then .help (some name) else .misuse none (.unknownCommand name)
  | name :: other :: _ =>
    .misuse none (.unknownCommand (if (g.command? name).isSome then other else name))

/-- A command with the arguments that follow its name. -/
def parseCommand (g : Grammar) (c : CommandRule) (args : List String) : Except Halt Reading := do
  let options := g.shared ++ c.options
  let level : Level := { options, hasVersion := false, commands := [] }
  finish (options ++ c.operands) (← level.read { operands := c.operands } args).1

/-- A whole command line. -/
def parse (g : Grammar) (args : List String) : Except Stop Parsed := do
  let names := (g.commands ++ [helpCommand]).map CommandRule.name
  let level : Level := { options := g.shared, hasVersion := true, commands := names }
  let ascribe {α : Type} (command : Option String) (r : Except Halt α) : Except Stop α :=
    r.mapError (stopOf command)
  match ← ascribe none (level.read { operands := [] } args) with
  | (r, none) =>
    discard <| ascribe none r.settle
    throw (.misuse none .noCommand)
  | (r, some (name, rest)) =>
    if name == helpCommand.name then throw (g.helpTopic rest)
    match g.command? name with
    | none => throw (.misuse none (.unknownCommand name))
    | some c =>
      let inner ← ascribe (some name) (g.parseCommand c rest)
      let outer ← ascribe none r.settle
      return { command := name, given := inner.given ++ outer.given }

end Grammar

/-!
### Help

What a program says about its command line: the description of the program and of each command, and
what was wrong with a command line.
-/

/-- A text with blanks after it, up to a width. -/
def padded (width : Nat) (text : String) : String :=
  text ++ String.ofList (List.replicate (width - text.length) ' ')

/-- A text between angle brackets. -/
def bracketed (text : String) : String := "<" ++ text ++ ">"

namespace OptionRule

/-- An option with a placeholder for its value. -/
def shown (o : OptionRule) : String := s!"--{o.name} {bracketed o.placeholder}"

/-- An operand, as it stands in a usage line. -/
def operandShown (o : OptionRule) : String :=
  let text := if o.isRequired then bracketed o.placeholder else s!"[{o.placeholder}]"
  if o.repeats then text ++ "..." else text

/-- The left column of the description of an option. -/
def column (o : OptionRule) : String :=
  match o.short with
  | some letter => "-" ++ letter.toString ++ ", " ++ o.shown
  | none => "    " ++ o.shown

/-- The right column of the description of an option. -/
def description (o : OptionRule) : String :=
  match o.usual with
  | some value => s!"{o.about} [default: {value}]"
  | none => o.about

end OptionRule

/-- A section of aligned lines; one without lines is left out. -/
def sectionText (title : String) (rows : List (String × String)) : String :=
  if rows.isEmpty then ""
  else
    let width := rows.foldl (fun width row => max width row.1.length) 0
    s!"\n{title}:\n" ++ String.join (rows.map fun (name, about) =>
      s!"  {padded (width + 2) name}{about}\n")

namespace Grammar

/-- The usage line, without its title. -/
def usage (g : Grammar) : Option CommandRule → String
  | none => g.program ++ " [OPTIONS] <COMMAND>"
  | some c =>
    let required := (c.options.filter (·.isRequired)).map OptionRule.shown
    let options := if c == helpCommand then [] else "[OPTIONS]" :: required
    " ".intercalate (g.program :: c.name :: options ++ c.operands.map OptionRule.operandShown)

/-- The lines on the options of a command, or of the program. -/
def optionRows (g : Grammar) (c : Option CommandRule) : List (String × String) :=
  let row (o : OptionRule) := (o.column, o.description)
  let help := ("-h, --help", "Print help")
  match c with
  | none => g.shared.map row ++ [help, ("-V, --version", "Print version")]
  | some c =>
    if c == helpCommand then []
    else (c.options.take 1 ++ g.shared ++ c.options.drop 1).map row ++ [help]

/-- The description of the program, or of one of its commands. -/
def helpText (g : Grammar) (topic : Option String) : String :=
  match topic.bind g.command? with
  | none =>
    let commands := (g.commands ++ [helpCommand]).map fun c => (c.name, c.about)
    g.about ++ s!"\n\nUsage: {g.usage none}\n" ++ sectionText "Commands" commands ++
      sectionText "Options" (g.optionRows none)
  | some c =>
    let operands := c.operands.map fun o => (o.operandShown, o.about)
    c.about ++ s!"\n\nUsage: {g.usage (some c)}\n" ++ sectionText "Arguments" operands ++
      sectionText "Options" (g.optionRows (some c))

/-- The name of the program with its version. -/
def versionText (g : Grammar) : String := s!"{g.program} {g.version}\n"

/-- What is wrong with a command line. -/
def misuseText (g : Grammar) (command : Option String) (cause : Misuse) : String :=
  let usage := s!"\nUsage: {g.usage (command.bind g.command?)}\n"
  let hint := "\nFor more information, try '--help'.\n"
  match cause with
  | .unexpected arg => s!"error: unexpected argument '{arg}' found\n" ++ usage ++ hint
  | .unknownCommand name => s!"error: unrecognized subcommand '{name}'\n" ++ usage ++ hint
  | .noCommand => g.helpText none
  | .noValue option =>
    s!"error: a value is required for '{option.shown}' but none was supplied\n" ++ hint
  | .invalidValue option value reason =>
    s!"error: invalid value '{value}' for '{option.shown}': {reason}\n" ++ hint
  | .repeated option =>
    s!"error: the argument '{option.shown}' cannot be used multiple times\n" ++ usage ++ hint
  | .missing options =>
    "error: the following required arguments were not provided:\n" ++
      String.join (options.map fun o => s!"  {o.shown}\n") ++ usage ++ hint

end Grammar

end DeviceLab.CommandLine
