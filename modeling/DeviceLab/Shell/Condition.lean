import DeviceLab.Shell.Arithmetic
import DeviceLab.Text.Utf8
import DeviceLab.Unix.Call

/-!
# Conditions

What `test` and `[` find out about texts, numbers and files.  A word is an operator unless it stands
where only an operand makes sense.

* `Condition.holds`: whether words are a condition that holds.
-/

namespace DeviceLab.Shell.Condition

open Unix

/-- What kind of operator a word is. -/
inductive Kind where
  /-- In front of one operand. -/
  | unary
  /-- Between two operands. -/
  | binary
  | negation
  | conjunction
  | disjunction
  | opening
  | closing
  deriving DecidableEq, Repr

/-- The kind of an operator. -/
def kind? (word : String) : Option Kind :=
  if ["-r", "-w", "-x", "-e", "-f", "-d", "-c", "-b", "-p", "-u", "-g", "-k", "-s", "-t", "-z", "-n",
      "-h", "-L", "-O", "-G", "-S"].contains word then some .unary
  else if ["=", "!=", "<", ">", "-eq", "-ne", "-ge", "-gt", "-le", "-lt", "-nt", "-ot",
      "-ef"].contains word then some .binary
  else
    [("!", Kind.negation), ("-a", .conjunction), ("-o", .disjunction), ("(", .opening),
      (")", .closing)].lookup word

/-- What stands at a place among the words. -/
inductive Token where
  | ended
  | operand
  | operator (kind : Kind)
  deriving DecidableEq, Repr

/-- The words, and the place that has been reached. -/
structure State where
  words : Array String
  at_ : Nat := 0

/-- The evaluation of a condition, which may fail for a reason. -/
abbrev Evaluating := ExceptT String (StateT State Routine)

/-- A word by its place behind the one that has been reached. -/
def word? (behind : Nat) : Evaluating (Option String) := do
  let s ← get
  return s.words[s.at_ + behind]?

/-- What stands at a place behind the one that has been reached. -/
def tokenAt (behind : Nat) : Evaluating Token := do
  match ← word? behind with
  | none => return .ended
  | some word =>
    match kind? word with
    | none => return .operand
    | some kind =>
      let next ← word? (behind + 1)
      let isOperand ← match kind, next, ← word? (behind + 2) with
        | .unary, none, _ => pure true
        | .unary, some _, none => pure false
        | .unary, some next, some _ => pure (kind? next == some .binary)
        | .opening, none, _ => pure true
        | _, _, _ => pure false
      return if isOperand then .operand else .operator kind

def advance (places : Nat) : Evaluating Unit := modify fun s => { s with at_ := s.at_ + places }

/-- Complains about a word. -/
def refuse (word : String) (message : String) : Evaluating α :=
  throw (if word.isEmpty then message else s!"{word}: {message}")

/-- A word as a whole number in decimal digits. -/
def number (word : String) : Evaluating Int := do
  let body := word.toList.dropWhile Arithmetic.isSpace
  let (negative, digits) := match body with
    | '-' :: rest => (true, rest)
    | '+' :: rest => (false, rest)
    | _ => (false, body)
  let (n, rest) := Arithmetic.digits 10 0 digits
  let n : Int := if negative then -n else n
  let isNumber := digits.head?.any Char.isDigit && rest.all Arithmetic.isSpace
    && -Arithmetic.limit ≤ n && n < Arithmetic.limit
  if isNumber then return n else throw s!"Illegal number: {word}"

def ask (c : Call) : Evaluating c.Answer := ExceptT.lift (StateT.lift (Routine.ask c))

/-- What is known about a file, if there is one. -/
def status? (path : String) (follow : Bool) : Evaluating (Option FileStatus) := do
  match ← ask (.status path follow) with
  | .ok status => return some status
  | .error _ => return none

/-- Whether some bits are among the rights of a file. -/
def hasMode (bits : Nat) (status : FileStatus) : Bool := status.mode &&& bits != 0

/-- The value of an operator with one operand. -/
def unary (operator operand : String) : Evaluating Bool := do
  let status (test : FileStatus → Bool) : Evaluating Bool := do
    return (← status? operand true).any test
  match operator with
  | "-z" => return operand.isEmpty
  | "-n" => return !operand.isEmpty
  | "-t" =>
    discard (number operand)
    return false
  | "-h" | "-L" => return (← status? operand false).any fun s => s.kind == .link
  | "-e" | "-r" | "-w" | "-O" | "-G" => status fun _ => true
  | "-x" => status fun s => s.kind == .directory || hasMode 0o111 s
  | "-f" => status fun s => s.kind == .plain
  | "-d" => status fun s => s.kind == .directory
  | "-c" => status fun s => s.kind == .device
  | "-p" => status fun s => s.kind == .pipe
  | "-s" => status fun s => 0 < s.size
  | "-u" => status (hasMode 0o4000)
  | "-g" => status (hasMode 0o2000)
  | "-k" => status (hasMode 0o1000)
  | _ => return false

/-- The value of an operator with two operands. -/
def binary (operator first second : String) : Evaluating Bool := do
  let compare (test : Int → Int → Bool) : Evaluating Bool := do
    let a ← number first
    return test a (← number second)
  let files (test : FileStatus → FileStatus → Bool) : Evaluating Bool := do
    match ← status? first true, ← status? second true with
    | some a, some b => return test a b
    | _, _ => return false
  match operator with
  | "=" => return first == second
  | "!=" => return first != second
  | "<" => return decide (first < second)
  | ">" => return decide (second < first)
  | "-eq" => compare (· == ·)
  | "-ne" => compare (· != ·)
  | "-ge" => compare fun a b => decide (b ≤ a)
  | "-gt" => compare fun a b => decide (b < a)
  | "-le" => compare fun a b => decide (a ≤ b)
  | "-lt" => compare fun a b => decide (a < b)
  | "-nt" => files fun a b => decide (b.modified < a.modified)
  | "-ot" => files fun a b => decide (a.modified < b.modified)
  | _ => files fun a b => a.number == b.number

/-- The parts of a condition. -/
inductive Goal where
  | disjunction
  | conjunction
  | negation
  | primary

/-- Evaluates a part of a condition, the first word of which has been looked at; `fuel` bounds the
number of parts. -/
def part : Nat → Goal → Token → Evaluating Bool
  | 0, _, _ => return false
  | fuel + 1, .disjunction, token => do
    let value ← part fuel .conjunction token
    if (← tokenAt 1) = .operator .disjunction then
      advance 2
      let rest ← part fuel .disjunction (← tokenAt 0)
      return value || rest
    else return value
  | fuel + 1, .conjunction, token => do
    let value ← part fuel .negation token
    if (← tokenAt 1) = .operator .conjunction then
      advance 2
      let rest ← part fuel .conjunction (← tokenAt 0)
      return value && rest
    else return value
  | fuel + 1, .negation, token => do
    if token != .operator .negation then return ← part fuel .primary token
    let next ← tokenAt 1
    if next != .ended then advance 1
    return !(← part fuel .negation next)
  | fuel + 1, .primary, token => do
    match token with
    | .ended => return false
    | .operator .opening =>
      advance 1
      let next ← tokenAt 0
      if next = .operator .closing then return false
      let value ← part fuel .disjunction next
      advance 1
      if (← tokenAt 0) != .operator .closing then refuse "" "closing paren expected"
      return value
    | .operator .unary =>
      let operator := (← word? 0).getD ""
      advance 1
      match ← word? 0 with
      | none => refuse operator "argument expected"
      | some operand => unary operator operand
    | _ =>
      let first := (← word? 0).getD ""
      if (← tokenAt 1) = .operator .binary then
        let operator := (← word? 1).getD ""
        advance 2
        match ← word? 0 with
        | none => refuse operator "argument expected"
        | some second => binary operator first second
      else return !first.isEmpty

/-- Evaluates words once nothing stands in front of them or around them any more. -/
def whole (inverted : Bool) (words : List String) : Evaluating Bool := do
  set ({ words := words.toArray } : State)
  let isComparison := words.length == 3 && (words[1]?.bind kind?) == some .binary
  let first ← if isComparison then pure .operand else tokenAt 0
  let value ← part (8 * words.length + 16) .disjunction first
  match ← word? 0, ← word? 1 with
  | some word, some _ => refuse word "unexpected operator"
  | _, _ => return value != inverted

/-- Evaluates words, of which those in front or around may be taken away first. -/
def evaluate (inverted : Bool) : List String → Evaluating Bool
  | [] => return inverted
  | words@(first :: rest) =>
    let isComparison := words.length == 3 && (words[1]?.bind kind?) == some .binary
    if !isComparison && (words.length = 3 || words.length = 4) then
      if first = "(" && words.getLast? = some ")" then whole inverted rest.dropLast
      else if first = "!" then evaluate true rest
      else whole inverted words
    else whole inverted words

/-- Whether words are a condition that holds; the second part tells why they are none. -/
def holds (words : List String) : Routine (Except String Bool) := do
  let (result, _) ← ((evaluate false words).run).run { words := #[] }
  return result

end DeviceLab.Shell.Condition
