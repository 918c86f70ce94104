import DeviceLab.Tools.Basic

/-!
# Options of programs

Options stand among the words of a program: letters behind a hyphen, and names behind two of them.
Two hyphens alone end the options.

* `OptionTable`: the options of a program.
* `OptionTable.read`: options and other words.
-/

namespace DeviceLab.Tools

/-- Whether an option comes with a word of its own. -/
inductive Argument where
  | no
  | required
  /-- Only in the same word. -/
  | possible
  deriving DecidableEq, Repr

/-- The options of a program. -/
structure OptionTable where
  /-- The letters; a colon behind one tells that a word belongs to it. -/
  letters : String
  /-- Names with the letters that mean the same. -/
  names : List (String × Argument × Char) := []
  /-- Whether options end at the first other word. -/
  isStrict : Bool := false

/-- An option that was given. -/
structure Given where
  letter : Char
  argument : String := ""
  deriving Repr, Inhabited

namespace OptionTable

/-- Whether a letter is an option, and whether a word belongs to it. -/
def argumentOf? (t : OptionTable) (c : Char) : Option Argument :=
  match t.letters.toList.dropWhile (· != c) with
  | _ :: ':' :: ':' :: _ => some .possible
  | _ :: ':' :: _ => some .required
  | _ :: _ => if c == ':' then none else some .no
  | [] => none

/-- The names that a name may stand for: itself, or all that start with it. -/
def namesFor (t : OptionTable) (name : String) : List (String × Argument × Char) :=
  match t.names.filter fun entry => entry.1 == name with
  | [] => t.names.filter fun entry => entry.1.startsWith name
  | exact => exact.take 1

/-- The options in the letters of a word; tells what is wrong, or else whether the next word is
needed. -/
def readLetters (t : OptionTable) : List Char → List Given → Except String (List Given × Option Char)
  | [], found => .ok (found, none)
  | c :: rest, found =>
    match t.argumentOf? c with
    | none => .error s!"invalid option -- '{c}'"
    | some .no => t.readLetters rest ({ letter := c } :: found)
    | some .required =>
      if rest.isEmpty then .ok (found, some c)
      else .ok ({ letter := c, argument := String.ofList rest } :: found, none)
    | some .possible => .ok ({ letter := c, argument := String.ofList rest } :: found, none)

/-- The option in a word behind two hyphens. -/
def readName (t : OptionTable) (text : String) : Except String (Given × Bool) :=
  let name := String.ofList (text.toList.takeWhile (· != '='))
  let value := if name.length = text.length then none
    else some (String.ofList (text.toList.drop (name.length + 1)))
  match t.namesFor name with
  | [] => .error s!"unrecognized option '--{name}'"
  | (full, argument, letter) :: others =>
    if others.any fun other => other.2.2 != letter then
      let shown := ((full, argument, letter) :: others).map fun other => s!" '--{other.1}'"
      .error (s!"option '--{name}' is ambiguous; possibilities:" ++ String.join shown)
    else
      match argument, value with
      | .no, some _ => .error s!"option '--{full}' doesn't allow an argument"
      | .required, none => .ok ({ letter }, true)
      | _, value => .ok ({ letter, argument := value.getD "" }, false)

/-- Reads options and other words. -/
def readFrom (t : OptionTable) :
    List String → List Given → List String → Except String (List Given × List String)
  | [], found, others => .ok (found.reverse, others.reverse)
  | [word], found, others =>
    match word.toList with
    | ['-', '-'] => .ok (found.reverse, others.reverse)
    | '-' :: '-' :: name =>
      match t.readName (String.ofList name) with
      | .error e => .error e
      | .ok (_, true) =>
        .error s!"option '--{fullName t (String.ofList name)}' requires an argument"
      | .ok (given, false) => .ok ((given :: found).reverse, others.reverse)
    | '-' :: c :: letters =>
      match t.readLetters (c :: letters) found with
      | .error e => .error e
      | .ok (_, some c) => .error s!"option requires an argument -- '{c}'"
      | .ok (found, none) => .ok (found.reverse, others.reverse)
    | _ => .ok (found.reverse, (word :: others).reverse)
  | word :: next :: rest, found, others =>
    match word.toList with
    | ['-', '-'] => .ok (found.reverse, others.reverse ++ next :: rest)
    | '-' :: '-' :: name =>
      match t.readName (String.ofList name) with
      | .error e => .error e
      | .ok (given, true) =>
        t.readFrom rest ({ given with argument := next } :: found) others
      | .ok (given, false) => t.readFrom (next :: rest) (given :: found) others
    | '-' :: c :: letters =>
      match t.readLetters (c :: letters) found with
      | .error e => .error e
      | .ok (found, some c) => t.readFrom rest ({ letter := c, argument := next } :: found) others
      | .ok (found, none) => t.readFrom (next :: rest) found others
    | _ =>
      if t.isStrict then .ok (found.reverse, others.reverse ++ word :: next :: rest)
      else t.readFrom (next :: rest) found (word :: others)
where
  /-- The whole name that a name stands for. -/
  fullName (t : OptionTable) (name : String) : String :=
    match t.namesFor name with
    | (full, _) :: _ => full
    | [] => name

/-- Reads options and other words, or complains. -/
def read (t : OptionTable) (words : List String) : Tool (List Given × List String) := do
  match t.readFrom words [] [] with
  | .ok found => return found
  | .error detail => Tool.failWords detail

end OptionTable

def isGiven (options : List Given) (letter : Char) : Bool :=
  options.any fun given => given.letter == letter

def lastOf? (options : List Given) (letter : Char) : Option String :=
  (options.filter fun given => given.letter == letter).getLast?.map (·.argument)

/-! ### Words of options -/

/-- The choice that a word stands for, which may be the start of a name; names of one choice stand
together.  If there is none, that is a mistake in how the program is used. -/
def chooseBy (option : String) (choices : List (List String × α)) (word : String) : Tool α := do
  let exact := choices.filter fun choice => choice.1.contains word
  let fitting := choices.filter fun choice => choice.1.any fun name => name.startsWith word
  let wrong (kind : String) : Tool α := do
    Tool.complain (kind ++ " argument " ++ Quote.text word ++ " for " ++ Quote.text option)
    Tool.tell "Valid arguments are:\n"
    for (names, _) in choices do
      Tool.tell ("  - " ++ ", ".intercalate (names.map Quote.text) ++ "\n")
    modify fun s => { s with failStatus := 1 }
    Tool.failUsage
  match exact, fitting with
  | (_, a) :: _, _ => return a
  | [], [(_, a)] => return a
  | [], [] => wrong "invalid"
  | [], _ => wrong "ambiguous"

/-- A whole number in a word, between two limits; `what` tells what is wrong with another one. -/
def wholeBetween (least most : Int) (what word : String) : Tool Int := do
  let wrong (reason : String) : Tool Int :=
    Tool.fail (what ++ ": " ++ Quote.text word ++ reason)
  let chars := word.toList.dropWhile fun c => c == ' ' || c == '\t'
  let (isNegative, digits) := match chars with
    | '-' :: rest => (true, rest)
    | '+' :: rest => (false, rest)
    | rest => (false, rest)
  if digits.isEmpty || !digits.all Char.isDigit || isNegative && 0 ≤ least then wrong ""
  else
    let n : Int := ((String.ofList digits).toNat?.getD 0 : Nat)
    let n := if isNegative then -n else n
    if n < least || most < n then
      if 1073741823 < n || n < -1073741824 then wrong ": Value too large for defined data type"
      else wrong ": Numerical result out of range"
    else return n

/-- The greatest number in a word of 64 bits with a sign, and the one without. -/
def mostSigned : Int := 9223372036854775807

/-- The greatest number in a word of 64 bits. -/
def mostUnsigned : Int := 18446744073709551615

end DeviceLab.Tools
