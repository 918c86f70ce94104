import DeviceLab.Unix.Call

/-!
# Shell commands

The commands of a shell script.  A word is a list of elements, in the order in which they were
written: characters, quotes, and what is opened and closed around the use of a parameter or of an
expression.  What a word says is found out when its command is carried out.
-/

namespace DeviceLab.Shell

open Unix

/-- What the value of a parameter is used for. -/
inductive ParameterUse where
  /-- The value itself. -/
  | value
  /-- The value, or else a word. -/
  | fallback
  /-- A word, if there is a value. -/
  | alternative
  /-- The value, or else a failure that a word tells. -/
  | required
  /-- The value, or else a word, which becomes the value. -/
  | assigned
  | length
  /-- The value without a part at its start, or else at its end, that a pattern accepts. -/
  | cut (atStart longest : Bool)
  /-- No use that there is. -/
  | unknown
  deriving DecidableEq, Repr, Inhabited

/-- What a redirection lets a descriptor stand for. -/
inductive RedirectKind where
  | file (mode : OpenMode)
  /-- A file to be written, whatever it holds. -/
  | overwrite
  /-- The same as another descriptor, whose number a word tells. -/
  | same
  deriving DecidableEq, Repr

mutual

/-- An element of a word. -/
inductive Element where
  | char (c : Char)
  /-- A character that stands for itself. -/
  | quoted (c : Char)
  /-- A quotation mark. -/
  | mark
  /-- The use of a parameter; an empty value counts as none where `nonempty`.  Unless the value itself
  is meant, a word follows, and what closes it. -/
  | parameter (name : String) (use : ParameterUse) (nonempty : Bool)
  | close
  /-- The output of a command. -/
  | command (body : Option Command)
  /-- An expression, and what closes it. -/
  | expression
  | closeExpression

/-- A redirection of a descriptor. -/
inductive Redirection where
  | to (descriptor : Nat) (kind : RedirectKind) (target : List Element)
  /-- To another descriptor, or none. -/
  | toDescriptor (descriptor : Nat) (source : Option Nat)
  /-- To a text that stands in the script behind the line of the command: the number of the text. -/
  | toText (descriptor number : Nat)

/-- A command. -/
inductive Command where
  /-- Assignments, words and redirections, on a line of the script. -/
  | simple (line : Nat) (assignments : List (String × List Element))
      (words : List (List Element)) (redirections : List Redirection)
  | redirected (line : Nat) (body : Command) (redirections : List Redirection)
  /-- Commands each of which reads what the one before it writes. -/
  | pipeline (commands : List Command) (aside : Bool)
  | invert (body : Command)
  /-- The second one is carried out only if the first one succeeds. -/
  | both (first second : Command)
  /-- The second one is carried out only if the first one fails. -/
  | either (first second : Command)
  | sequel (first second : Command)
  /-- Is not waited for. -/
  | background (line : Nat) (body : Command) (redirections : List Redirection)
  | subshell (line : Nat) (body : Command) (redirections : List Redirection)
  | branch (condition yes : Command) (no : Option Command)
  /-- Repeats the body as long as the condition succeeds, or until it does. -/
  | loop (isUntil : Bool) (condition body : Command)
  /-- Carries the body out for each of some words. -/
  | each (line : Nat) (name : String) (words : List (List Element)) (body : Command)
  /-- Carries out the first arm that has a pattern for the subject. -/
  | choose (line : Nat) (subject : List Element)
      (arms : List (List (List Element) × Option Command))
  | define (name : String) (line : Nat) (body : Command)

end

instance : Inhabited Element := ⟨.mark⟩

instance : Inhabited Command := ⟨.simple 1 [] [] []⟩

abbrev Word := List Element

def Word.ofText (text : String) : Word := text.toList.map .quoted

end DeviceLab.Shell
