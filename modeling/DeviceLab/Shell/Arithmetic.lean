/-!
# Expressions

Whole numbers of 64 bits with the operators of expressions in a shell.  An expression is evaluated
while it is read, so that assignments in front of a mistake have been made; a part that does not count
is read without being evaluated.

* `Arithmetic.evaluate`: the value of an expression, and the variables that it sets.
* `Arithmetic.numberOf?`: a number at the start of a text.
-/

namespace DeviceLab.Shell.Arithmetic

/-- The least number that is too large. -/
def limit : Int := 9223372036854775808

/-- A number in 64 bits. -/
def wrap (n : Int) : Int := (n + limit) % (2 * limit) - limit

/-- The value of a digit in a base, if it is one. -/
def digit? (base : Nat) (c : Char) : Option Nat :=
  let value :=
    if c.isDigit then c.toNat - 48
    else if c.isAlpha then c.toLower.toNat - 87
    else base
  if value < base then some value else none

/-- The digits of a base at the start of a text: their value, and what is behind them. -/
def digits (base : Nat) : Nat → List Char → Nat × List Char
  | n, c :: rest =>
    match digit? base c with
    | some d => digits base (n * base + d) rest
    | none => (n, c :: rest)
  | n, [] => (n, [])

/-- A number without a sign, in the base that its first characters tell, and what is behind it. -/
def unsigned? (text : List Char) : Option (Nat × List Char) :=
  match text with
  | '0' :: x :: d :: rest =>
    if (x == 'x' || x == 'X') && (digit? 16 d).isSome then some (digits 16 0 (d :: rest))
    else some (digits 8 0 text)
  | '0' :: _ => some (digits 8 0 text)
  | c :: _ => if c.isDigit then some (digits 10 0 text) else none
  | [] => none

def isSpace (c : Char) : Bool := c = ' ' || 9 ≤ c.toNat && c.toNat ≤ 13

/-- A number at the start of a text, spaces and a sign included, and what is behind it. -/
def numberOf? (text : List Char) : Option (Int × List Char) :=
  match text.dropWhile isSpace with
  | '-' :: rest => (unsigned? rest).map fun (n, behind) => (-(n : Int), behind)
  | '+' :: rest => (unsigned? rest).map fun (n, behind) => ((n : Int), behind)
  | rest => (unsigned? rest).map fun (n, behind) => ((n : Int), behind)

/-- Why an expression has no value. -/
inductive Fault where
  /-- The expression itself is at fault. -/
  | expression (detail : String)
  /-- A variable holds no number. -/
  | number (text : String)
  /-- A quotient is too large. -/
  | overflow
  deriving DecidableEq, Repr

/-- The smallest part of an expression that has a meaning. -/
inductive Token where
  | number (n : Int)
  | name (name : String)
  | sign (text : String)
  | ended
  /-- Nothing that has a meaning. -/
  | bad
  deriving DecidableEq, Repr, Inhabited

/-- The operators of more than one character, the longer ones first, and then the others. -/
def signs : List String :=
  ["<<=", ">>=", "<<", ">>", "<=", ">=", "==", "!=", "&&", "||", "+=", "-=", "*=", "/=", "%=",
    "&=", "|=", "^=", "<", ">", "=", "!", "&", "|", "+", "-", "*", "/", "%", "^", "~", "?", ":",
    "(", ")"]

/-- The token at the start of a text, and what is behind it.  What has no meaning is not passed. -/
def token (text : List Char) : Token × List Char :=
  let text := text.dropWhile fun c => c == ' ' || c == '\t' || c == '\n'
  match text with
  | [] => (.ended, [])
  | c :: _ =>
    match unsigned? text with
    | some (n, rest) => (.number (min n (limit - 1)), rest)
    | none =>
      if c.isAlpha || c == '_' then
        let name := text.takeWhile fun d => d.isAlphanum || d == '_'
        (.name (String.ofList name), text.drop name.length)
      else
        match signs.find? fun sign => sign.toList.isPrefixOf text with
        | some sign => (.sign sign, text.drop sign.length)
        | none => (.bad, text)

/-- How strongly an operator with two operands binds; the least number binds most. -/
def strength? (sign : String) : Option Nat :=
  if ["*", "/", "%"].contains sign then some 0
  else if ["+", "-"].contains sign then some 1
  else if ["<<", ">>"].contains sign then some 2
  else if ["<", "<=", ">", ">="].contains sign then some 3
  else if ["==", "!="].contains sign then some 4
  else if sign = "&" then some 5
  else if sign = "^" then some 6
  else if sign = "|" then some 7
  else none

/-- The strength of the weakest operator, and one more. -/
def weakest : Nat := 8

/-- What is known while an expression is read. -/
structure State where
  text : List Char
  /-- The next token. -/
  next : Token := .ended
  /-- The variables that have been set, the last one first. -/
  assigned : List (String × Int) := []

/-- The evaluation of a part of an expression. -/
abbrev Evaluating := EStateM Fault State

/-- Gives up on the expression. -/
def fail (detail : String) : Evaluating α := throw (.expression detail)

/-- Goes on to the next token. -/
def advance : Evaluating Unit :=
  modify fun s =>
    let (next, text) := token s.text
    { s with next, text }

/-- A condition as a number. -/
def ofBool (b : Bool) : Int := if b then 1 else 0

def bits (n : Int) : BitVec 64 := BitVec.ofInt 64 n

/-- The value of an operator with two operands. -/
def operate (sign : String) (a b : Int) : Evaluating Int := do
  match sign with
  | "*" => return wrap (a * b)
  | "/" | "%" =>
    if b = 0 then fail "division by zero"
    if a = -limit && b = -1 then throw .overflow
    return if sign = "/" then a.tdiv b else a.tmod b
  | "+" => return wrap (a + b)
  | "-" => return wrap (a - b)
  | "<<" => return (bits a <<< (b % 64).toNat).toInt
  | ">>" => return ((bits a).sshiftRight (b % 64).toNat).toInt
  | "<" => return ofBool (a < b)
  | "<=" => return ofBool (a ≤ b)
  | ">" => return ofBool (b < a)
  | ">=" => return ofBool (b ≤ a)
  | "==" => return ofBool (a == b)
  | "!=" => return ofBool (a != b)
  | "&" => return (bits a &&& bits b).toInt
  | "^" => return (bits a ^^^ bits b).toInt
  | _ => return (bits a ||| bits b).toInt

/-- The number that a text is. -/
def ofText (text : String) : Except Fault Int :=
  match numberOf? text.toList with
  | some (n, rest) =>
    if n < -limit || limit ≤ n || !rest.all isSpace then .error (.number text) else .ok n
  | none => if text.toList.all isSpace then .ok 0 else .error (.number text)

section

variable (valueOf : String → Option String)

/-- The value of a variable. -/
def variableValue (name : String) : Evaluating Int := do
  match (← get).assigned.lookup name with
  | some n => return n
  | none =>
    match ofText ((valueOf name).getD "") with
    | .ok n => return n
    | .error e => throw e

/-- The operator of an assignment without its equals sign, if it is one. -/
def assignment? (sign : String) : Option String :=
  if sign = "=" then some ""
  else if ["<<=", ">>=", "+=", "-=", "*=", "/=", "%=", "&=", "|=", "^="].contains sign then
    some (String.ofList sign.toList.dropLast)
  else none

/-- What is evaluated: each part is made of those behind it. -/
inductive Goal where
  | assignment
  | choice
  | disjunction
  | conjunction
  /-- Operators that bind more strongly than some other one. -/
  | operation
  /-- What follows an operand, up to an operator that binds as weakly as some other one. -/
  | operators (first : Int) (sign : String) (strength : Nat)
  | operand

/-- Evaluates a part of an expression, unless it does not count; `fuel` bounds the number of parts. -/
def part : Nat → Goal → Bool → Evaluating Int
  | 0, _, _ => fail "expecting EOF"
  | fuel + 1, goal, counts => do
    match goal with
    | .assignment =>
      let s ← get
      match s.next, token s.text with
      | .name name, (.sign sign, text) =>
        match assignment? sign with
        | some operator =>
          set { s with text }
          advance
          let value ← part fuel .assignment counts
          if !counts then return value
          let value ← if operator.isEmpty then pure value
            else operate operator (← variableValue valueOf name) value
          modify fun s => { s with assigned := (name, value) :: s.assigned }
          return value
        | none => part fuel .choice counts
      | _, _ => part fuel .choice counts
    | .choice =>
      let condition ← part fuel .disjunction counts
      if (← get).next != .sign "?" then return condition
      advance
      let yes ← part fuel .assignment (counts && condition != 0)
      if (← get).next != .sign ":" then fail "expecting ':'"
      advance
      let no ← part fuel .choice (counts && condition == 0)
      return if condition != 0 then yes else no
    | .disjunction =>
      let first ← part fuel .conjunction counts
      if (← get).next != .sign "||" then return first
      advance
      let second ← part fuel .disjunction (counts && first == 0)
      return ofBool (first != 0 || second != 0)
    | .conjunction =>
      let first ← part fuel .operation counts
      if (← get).next != .sign "&&" then return first
      advance
      let second ← part fuel .conjunction (counts && first != 0)
      return ofBool (first != 0 && second != 0)
    | .operation =>
      let first ← part fuel .operand counts
      match (← get).next with
      | .sign sign =>
        if (strength? sign).isSome then part fuel (.operators first sign weakest) counts
        else return first
      | _ => return first
    | .operators first sign strength =>
      let own := (strength? sign).getD weakest
      advance
      let second ← part fuel .operand counts
      let second ← match (← get).next with
        | .sign next =>
          if (strength? next).any (· < own) then part fuel (.operators second next own) counts
          else pure second
        | _ => pure second
      let value ← if counts then operate sign first second else pure second
      match (← get).next with
      | .sign next =>
        if (strength? next).any (· < strength) then part fuel (.operators value next strength) counts
        else return value
      | _ => return value
    | .operand =>
      match (← get).next with
      | .sign "(" =>
        advance
        let value ← part fuel .assignment counts
        if (← get).next != .sign ")" then fail "expecting ')'"
        advance
        return value
      | .number n =>
        advance
        return n
      | .name name =>
        advance
        if counts then variableValue valueOf name else return 0
      | .sign "+" =>
        advance
        part fuel .operand counts
      | .sign "-" =>
        advance
        return wrap (-(← part fuel .operand counts))
      | .sign "!" =>
        advance
        return ofBool ((← part fuel .operand counts) == 0)
      | .sign "~" =>
        advance
        return -(← part fuel .operand counts) - 1
      | _ => fail "expecting primary"

/-- The value of an expression, and the variables that it sets, the first one first. -/
def evaluate (text : String) : Except Fault (Int × List (String × Int)) :=
  let chars := text.toList
  let whole : Evaluating Int := do
    advance
    let value ← part valueOf (16 * chars.length + 16) .assignment true
    if (← get).next != .ended then fail "expecting EOF"
    return value
  match whole.run { text := chars } with
  | .ok value s => .ok (value, s.assigned.reverse)
  | .error e _ => .error e

end

end DeviceLab.Shell.Arithmetic
