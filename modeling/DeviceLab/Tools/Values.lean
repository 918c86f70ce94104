import DeviceLab.Shell.Condition
import DeviceLab.Shell.Format
import DeviceLab.Tools.Patterns

/-!
# Programs about words and numbers

Programs that only look at their words: `echo`, `printf`, `test`, `expr`, `true`, `false`.
-/

namespace DeviceLab.Tools

open Shell Text Unix

namespace Values

open Tool

/-! ### Writing words -/

/-- Whether a character is a hexadecimal digit. -/
def isHex (c : Char) : Bool := c.isDigit || ('a' ≤ c.toLower && c.toLower ≤ 'f')

/-- A text whose escapes with hexadecimal digits are octal ones. -/
def withOctal : List Char → List Char
  | '\\' :: 'x' :: a :: b :: rest =>
    let value (c : Char) : Nat := if c.isDigit then c.toNat - 48 else c.toLower.toNat - 87
    if isHex a && isHex b then '\\' :: Quote.octal (value a * 16 + value b) ++ withOctal rest
    else if isHex a then '\\' :: Quote.octal (value a) ++ withOctal (b :: rest)
    else '\\' :: 'x' :: withOctal (a :: b :: rest)
  | '\\' :: c :: rest => '\\' :: c :: withOctal rest
  | c :: rest => c :: withOctal rest
  | [] => []

/-- Whether a word is made of the options for writing words. -/
def isEchoOption (word : String) : Bool :=
  match word.toList with
  | '-' :: c :: rest => (c :: rest).all fun c => c = 'n' || c = 'e' || c = 'E'
  | _ => false

/-- The words, with escapes, up to one that ends the text; tells whether there was none. -/
def unescapedWords : List String → String × Bool
  | [] => ("", true)
  | word :: rest =>
    let (text, isWhole) := Format.unescaped (String.ofList (withOctal word.toList))
    if !isWhole then (text, false)
    else if rest.isEmpty then (text, true)
    else
      let (more, isWhole) := unescapedWords rest
      (text ++ " " ++ more, isWhole)

/-- Writes words. -/
def echo (words : List String) : Tool Unit := do
  let options := words.takeWhile isEchoOption
  let words := words.drop options.length
  let letters := options.flatMap String.toList
  let escapes := (letters.filter fun c => c = 'e' || c = 'E').getLast? == some 'e'
  let (text, isWhole) := if escapes then unescapedWords words else (" ".intercalate words, true)
  say text
  if isWhole && !letters.contains 'n' then say "\n"

/-- Writes words in a form. -/
def printf (words : List String) : Tool Unit := do
  let words := if words.head? == some "--" then words.drop 1 else words
  match words with
  | [] => failMissing
  | format :: words =>
    let p := Format.carryOut (String.ofList (withOctal format.toList)) words
    for part in p.parts.reverse do
      match part with
      | .text text => say text
      | .problem word .noNumber =>
        if !word.isEmpty then warn (Quote.text word ++ ": expected a numeric value")
      | .problem word .notWhole => warn (Quote.text word ++ ": value not completely converted")
      | .problem word .tooLarge => warn (Quote.text word ++ ": Numerical result out of range")
    match p.failure with
    | some (.unfinished text) | some (.unknown text) =>
      fail (text ++ ": invalid conversion specification")
    | none =>
      if let word :: _ := p.words then
        unless p.isOver do
          complain ("warning: ignoring excess arguments, starting with " ++ Quote.text word)

/-- Does nothing, successfully or not. -/
def nothing (status : Nat) (_ : List String) : Tool Unit := note status

end Values

/-! ### Conditions -/

namespace Test

open Tool

/-- The evaluation of a condition; the state is what has not been looked at. -/
abbrev Testing := StateT (List String) Tool

/-- Complains about the words. -/
def refuse (detail : String) : Testing α := (fail detail : Tool α)

/-- Whether a word stands between two operands. -/
def isBinary (word : String) : Bool :=
  ["=", "==", "!=", "-nt", "-ot", "-ef", "-eq", "-ne", "-lt", "-le", "-gt", "-ge"].contains word

/-- Whether a word stands in front of one operand. -/
def isUnary (word : String) : Bool :=
  match word.toList with
  | ['-', c] => "bcdefgGhkLnNoOprstuwxSz".toList.contains c
  | _ => false

/-- Whether a word looks as if it stood in front of an operand. -/
def looksUnary (word : String) : Bool :=
  word.length = 2 && word.startsWith "-"

/-- A word as a whole number. -/
def number (word : String) : Tool Int := do
  let isBlank (c : Char) : Bool := c = ' ' || c = '\t' || c = '\n'
  let text := word.toList.dropWhile isBlank
  let (sign, digits) : Int × List Char := match text with
    | '-' :: rest => (-1, rest)
    | '+' :: rest => (1, rest)
    | _ => (1, text)
  let first := digits.takeWhile Char.isDigit
  if first.isEmpty || !(digits.drop first.length).all isBlank then
    fail ("invalid integer " ++ Quote.text word)
  return sign * ((String.ofList first).toNat?.getD 0)

/-- What a condition of the shell finds out. -/
def found (x : Condition.Evaluating Bool) : Tool Bool := do
  let (result, _) ← ExceptT.lift (StateT.lift (x.run.run { words := #[] }))
  return result.toOption.getD false

/-- The value of an operator with one operand. -/
def unary (operator operand : String) : Tool Bool := do
  if operator = "-t" then discard (number operand)
  found (Condition.unary operator operand)

/-- The value of an operator with two operands. -/
def binary (operator first second : String) : Tool Bool := do
  let compare (test : Int → Int → Bool) : Tool Bool := do
    let a ← number first
    return test a (← number second)
  match operator with
  | "-eq" => compare (· == ·)
  | "-ne" => compare (· != ·)
  | "-ge" => compare fun a b => decide (b ≤ a)
  | "-gt" => compare fun a b => decide (b < a)
  | "-le" => compare fun a b => decide (a ≤ b)
  | "-lt" => compare fun a b => decide (a < b)
  | "==" => return first == second
  | _ => found (Condition.binary operator first second)

/-- Complains that there is no word behind another one. -/
def refuseEnd (before : String) : Testing α := refuse ("missing argument after " ++ Quote.text before)

/-- Takes the next word; `before` is the one in front of it. -/
def next (before : String) : Testing String := do
  match ← get with
  | word :: rest =>
    set rest
    return word
  | [] => refuseEnd before

/-- The operand of an operator in front of it. -/
def unaryHere : Testing Bool := do
  let operator ← next ""
  let operand ← next operator
  (unary operator operand : Tool Bool)

/-- Two operands around an operator. -/
def binaryHere : Testing Bool := do
  let first ← next ""
  let operator ← next first
  let second ← next operator
  (binary operator first second : Tool Bool)

/-- What a number of words may be. -/
inductive Goal where
  /-- The condition in a number of words. -/
  | words (n : Nat)
  | disjunction
  | conjunction
  | term

/-- Evaluates a part of a condition; `fuel` bounds the number of parts. -/
def part : Nat → Goal → Testing Bool
  | 0, _ => return false
  | _ + 1, .words 1 => return !(← next "").isEmpty
  | _ + 1, .words 2 => do
    let first := (← get).headD ""
    if first = "!" then
      discard (next "")
      return (← next first).isEmpty
    else if looksUnary first then
      if isUnary first then unaryHere else refuse (Quote.text first ++ ": unary operator expected")
    else refuseEnd ((← get).getLastD "")
  | fuel + 1, .words 3 => do
    match ← get with
    | first :: second :: third :: _ =>
      if isBinary second then binaryHere
      else if first = "!" then
        discard (next "")
        return !(← part fuel (.words 2))
      else if first = "(" && third = ")" then
        modify (·.drop 3)
        return !second.isEmpty
      else if second = "-a" || second = "-o" then part fuel .disjunction
      else refuse (Quote.text second ++ ": binary operator expected")
    | _ => refuseEnd ""
  | fuel + 1, .words 4 => do
    match ← get with
    | first :: rest =>
      if first = "!" then
        set rest
        return !(← part fuel (.words 3))
      else if first = "(" && rest[2]? == some ")" then
        set rest
        let value ← part fuel (.words 2)
        discard (next "")
        return value
      else part fuel .disjunction
    | [] => return false
  | fuel + 1, .words _ => part fuel .disjunction
  | fuel + 1, .disjunction => do
    let value ← part fuel .conjunction
    match ← get with
    | "-o" :: rest =>
      set rest
      let more ← part fuel .disjunction
      return value || more
    | _ => return value
  | fuel + 1, .conjunction => do
    let value ← part fuel .term
    match ← get with
    | "-a" :: rest =>
      set rest
      if rest.isEmpty then refuseEnd "-a"
      let more ← part fuel .conjunction
      return value && more
    | _ => return value
  | fuel + 1, .term => do
    match ← get with
    | [] => refuseEnd ""
    | "!" :: rest =>
      set rest
      return !(← part fuel .term)
    | "(" :: rest =>
      set rest
      if rest.isEmpty then refuseEnd "("
      let inside := (rest.takeWhile (· != ")")).length
      let value ← part fuel (.words (if inside < 4 then inside else rest.length))
      match ← get with
      | ")" :: rest =>
        set rest
        return value
      | [] => refuse "')' expected"
      | word :: _ => refuse ("')' expected, found " ++ word)
    | first :: rest =>
      if 2 ≤ rest.length && isBinary (rest.headD "") then binaryHere
      else if looksUnary first then
        if isUnary first then unaryHere
        else refuse (Quote.text first ++ ": unary operator expected")
      else
        set rest
        return !first.isEmpty

/-- The program. -/
def run (isBracket : Bool) (words : List String) : Tool Unit := do
  modify fun s => { s with failStatus := 2 }
  if isBracket && words.getLast? != some "]" then fail "missing ']'"
  let words := if isBracket then words.dropLast else words
  if words.isEmpty then
    note 1
  else
    let (value, rest) ← (part (8 * words.length + 16) (.words words.length)).run words
    if let word :: _ := rest then fail ("extra argument " ++ Quote.text word)
    unless value do note 1

end Test

/-! ### Expressions -/

namespace Expression

open Tool

/-- The evaluation of an expression: the words in front of a place, the last one first, and those
behind it. -/
abbrev Evaluating := StateT (List String × List String) Tool

/-- Complains about the expression. -/
def refuse (detail : String) : Evaluating α := (fail ("syntax error: " ++ detail) : Tool α)

/-- The next word, if there is one. -/
def next? : Evaluating (Option String) := return (← get).2.head?

/-- Goes on by one word. -/
def advance : Evaluating Unit :=
  modify fun (before, rest) => match rest with
    | word :: rest => (word :: before, rest)
    | [] => (before, rest)

/-- Takes the next word. -/
def take : Evaluating String := do
  match ← next? with
  | some word =>
    advance
    return word
  | none => refuse ("missing argument after " ++ Quote.text ((← get).1.headD ""))

/-- A value as a whole number. -/
def integer? (value : String) : Option Int :=
  match value.toList with
  | '-' :: digits =>
    if digits.isEmpty || !digits.all Char.isDigit then none
    else (String.ofList digits).toNat?.map fun n => -(n : Int)
  | digits =>
    if digits.isEmpty || !digits.all Char.isDigit then none
    else (String.ofList digits).toNat?.map fun n => (n : Int)

/-- A value that has to be a whole number. -/
def integer (value : String) : Evaluating Int :=
  match integer? value with
  | some n => return n
  | none => (fail "non-integer argument" : Tool Int)

def isNothing (value : String) : Bool :=
  value.isEmpty || integer? value == some 0

/-- What a pattern finds at the start of a value. -/
def matched (value pattern : String) : Evaluating String := do
  match Pattern.read false false pattern.toList with
  | .error e => (fail e : Tool String)
  | .ok { pattern := p, groups, .. } =>
    let chars := value.toList
    match p.findAt { chars := chars.toArray } 0 with
    | none => return if groups = 0 then "0" else ""
    | some (behind, found) =>
      if groups = 0 then return toString behind
      return match found.lookup 1 with
        | some (start, behind) => String.ofList ((chars.drop start).take (behind - start))
        | none => ""

/-- Compares two values. -/
def compared (operator first second : String) : Bool :=
  let order : Ordering := match integer? first, integer? second with
    | some a, some b => compare a b
    | _, _ => compare first second
  match operator with
  | "<" => order == .lt
  | "<=" => order != .gt
  | "=" | "==" => order == .eq
  | "!=" => order != .eq
  | ">=" => order != .lt
  | _ => order == .gt

/-- Works out a sum, a difference, a product, a quotient or a rest. -/
def computed (operator first second : String) : Evaluating String := do
  let a ← integer first
  let b ← integer second
  match operator with
  | "+" => return toString (a + b)
  | "-" => return toString (a - b)
  | "*" => return toString (a * b)
  | _ =>
    if b = 0 then (fail "division by zero" : Tool Unit)
    return toString (if operator = "/" then a.tdiv b else a.tmod b)

/-- The operators by how closely they bind, the loosest ones first. -/
def levels : List (List String) :=
  [["|"], ["&"], ["<", "<=", "=", "==", "!=", ">=", ">"], ["+", "-"], ["*", "/", "%"], [":"]]

mutual

/-- Evaluates the operators of some levels; `counts` tells whether the value matters. -/
def operation (counts : Bool) : Nat → List (List String) → Evaluating String
  | 0, _ => return ""
  | fuel + 1, [] => primary counts fuel
  | fuel + 1, operators :: tighter => do
    let first ← operation counts fuel tighter
    operationFrom counts fuel operators tighter first

/-- Goes on behind the first operand. -/
def operationFrom (counts : Bool) :
    Nat → List String → List (List String) → String → Evaluating String
  | 0, _, _, first => return first
  | fuel + 1, operators, tighter, first => do
    match ← next? with
    | none => return first
    | some operator =>
      if !operators.contains operator then return first
      advance
      let matters := match operator with
        | "|" => counts && isNothing first
        | "&" => counts && !isNothing first
        | _ => counts
      let second ← operation matters fuel tighter
      let value ← if !counts then pure first else
        match operator with
        | "|" => pure (if !isNothing first then first else if isNothing second then "0" else second)
        | "&" => pure (if isNothing first || isNothing second then "0" else first)
        | ":" => matched first second
        | "+" | "-" | "*" | "/" | "%" => computed operator first second
        | _ => pure (if compared operator first second then "1" else "0")
      operationFrom counts fuel operators tighter value

/-- Evaluates a word, a part between brackets, or a function. -/
def primary (counts : Bool) : Nat → Evaluating String
  | 0 => return ""
  | fuel + 1 => do
    match ← take with
    | "(" =>
      let value ← operation counts fuel levels
      match ← next? with
      | some ")" =>
        advance
        return value
      | some word => refuse ("expecting ')' instead of " ++ Quote.text word)
      | none => refuse ("expecting ')' after " ++ Quote.text ((← get).1.headD ""))
    | ")" => refuse "unexpected ')'"
    | "+" => take
    | "length" =>
      let value ← primary counts fuel
      return toString value.length
    | "match" =>
      let value ← primary counts fuel
      matched value (← primary counts fuel)
    | "index" =>
      let value ← primary counts fuel
      let chars := (← primary counts fuel).toList
      return toString ((value.toList.findIdx? chars.contains).elim 0 (· + 1))
    | "substr" =>
      let value ← primary counts fuel
      let start ← primary counts fuel
      let length ← primary counts fuel
      match integer? start, integer? length with
      | some a, some b =>
        if a ≤ 0 || b ≤ 0 then return ""
        return String.ofList ((value.toList.drop (a.toNat - 1)).take b.toNat)
      | _, _ => return ""
    | word => return word

end

/-- The program. -/
def run (words : List String) : Tool Unit := do
  modify fun s => { s with failStatus := 2 }
  let words := if words.head? == some "--" then words.drop 1 else words
  if words.isEmpty then failMissing
  let (value, (_, rest)) ← (operation true (16 * words.length + 16) levels).run ([], words)
  if let word :: _ := rest then
    fail ("syntax error: unexpected argument " ++ Quote.text word)
  sayLine value
  if isNothing value then note 1

end Expression

end DeviceLab.Tools
