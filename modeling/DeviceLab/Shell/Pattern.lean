/-!
# Patterns

A pattern is a list of cells, each of which is a character that may stand for itself alone.  A star
stands for any text, a question mark for any character, and brackets for one of several characters.  A
backslash lets the next character stand for itself.

* `Pattern.accepts`: whether a pattern stands for a text.
* `Pattern.isLiteral`: whether a pattern stands for one text only.
* `Pattern.cutStart`, `Pattern.cutEnd`: a text without a part for which a pattern stands.
-/

namespace DeviceLab.Shell

/-- A character that may be kept from having a meaning. -/
structure Cell where
  char : Char
  isQuoted : Bool := false
  deriving DecidableEq, Repr, Inhabited

namespace Pattern

/-- The place of a character among others: those of more than seven bits come first. -/
def rank (c : Char) : Int := if c.toNat < 128 then c.toNat else (c.toNat : Int) - 256

/-- The classes of characters that brackets can name. -/
def classes : List (String × (Char → Bool)) :=
  let isPrinted (c : Char) : Bool := 32 < c.toNat && c.toNat < 127
  [("alnum", Char.isAlphanum), ("cntrl", fun c => c.toNat < 32 || c.toNat = 127),
    ("lower", Char.isLower), ("space", fun c => c = ' ' || 9 ≤ c.toNat && c.toNat ≤ 13),
    ("alpha", Char.isAlpha), ("digit", Char.isDigit), ("print", fun c => isPrinted c || c = ' '),
    ("upper", Char.isUpper), ("blank", fun c => c = ' ' || c = '\t'), ("graph", isPrinted),
    ("punct", fun c => isPrinted c && !c.isAlphanum),
    ("xdigit", fun c => c.isDigit || 'a' ≤ c && c ≤ 'f' || 'A' ≤ c && c ≤ 'F')]

def startsWith (cells : List Cell) (text : String) : Bool :=
  (cells.take text.length).map (·.char) == text.toList

/-- The class that is named at the start of some cells, behind an opening bracket, with the cells
behind its name. -/
def class? (cells : List Cell) : Option ((Char → Bool) × List Cell) :=
  classes.findSome? fun (name, test) =>
    let text := ":" ++ name ++ ":]"
    if startsWith cells text then some (test, cells.drop text.length) else none

/-- A cell that stands for itself, with the cells behind it, once a backslash has been taken away. -/
def literal (cell : Cell) (rest : List Cell) : Char × List Cell :=
  match cell, rest with
  | ⟨'\\', false⟩, next :: rest => (next.char, rest)
  | _, _ => (cell.char, rest)

/-- Whether a character is among those that brackets list, with the cells behind the brackets, if they
are closed.  `isFirst` tells whether a closing bracket would be the first of them; `fuel` bounds the
number of cells. -/
def inBrackets (c : Char) : Nat → Bool → Bool → List Cell → Option (Bool × List Cell)
  | 0, _, _, _ => none
  | _ + 1, _, _, [] => none
  | fuel + 1, isFirst, found, cell :: rest =>
    if cell = ⟨']', false⟩ && !isFirst then some (found, rest)
    else
      match if cell = ⟨'[', false⟩ then class? rest else none with
      | some (test, rest) => inBrackets c fuel false (found || test c) rest
      | none =>
        let (low, rest) := literal cell rest
        match rest with
        | ⟨'-', false⟩ :: next :: behind =>
          if next = ⟨']', false⟩ then inBrackets c fuel false (found || c == low) rest
          else
            let (high, behind) := literal next behind
            let isBetween := decide (rank low ≤ rank c ∧ rank c ≤ rank high)
            inBrackets c fuel false (found || isBetween) behind
        | _ => inBrackets c fuel false (found || c == low) rest

/-- Whether a pattern stands for a text; `fuel` bounds the lengths of both together. -/
def acceptsWithin : Nat → List Cell → List Char → Bool
  | 0, _, _ => false
  | _ + 1, [], text => text.isEmpty
  | fuel + 1, cell :: rest, text =>
    match cell, text with
    | ⟨'*', false⟩, [] => acceptsWithin fuel rest []
    | ⟨'*', false⟩, _ :: text' =>
      acceptsWithin fuel rest text || acceptsWithin fuel (cell :: rest) text'
    | _, [] => false
    | ⟨'?', false⟩, _ :: text => acceptsWithin fuel rest text
    | ⟨'[', false⟩, c :: text =>
      let (isInverted, listed) := match rest with
        | ⟨'!', false⟩ :: listed => (true, listed)
        | _ => (false, rest)
      match inBrackets c (rest.length + 1) true false listed with
      | some (found, behind) =>
        found != isInverted && acceptsWithin fuel behind text
      | none => c == '[' && acceptsWithin fuel rest text
    | _, c :: text =>
      let (wanted, rest) := literal cell rest
      c == wanted && acceptsWithin fuel rest text

def accepts (pattern : List Cell) (text : List Char) : Bool :=
  acceptsWithin (pattern.length + text.length + 1) pattern text

/-- Whether nothing in a pattern stands for anything else. -/
def isLiteral (pattern : List Cell) : Bool :=
  pattern.all fun cell => cell.isQuoted || !("*?[".toList.contains cell.char)

/-- A text without the part at its start for which a pattern stands. -/
def cutStart (pattern text : List Cell) (longest : Bool) : List Cell :=
  let chars := text.map (·.char)
  let sizes := List.range (text.length + 1)
  let sizes := if longest then sizes.reverse else sizes
  match sizes.find? fun n => accepts pattern (chars.take n) with
  | some n => text.drop n
  | none => text

/-- A text without the part at its end for which a pattern stands. -/
def cutEnd (pattern text : List Cell) (longest : Bool) : List Cell :=
  let chars := text.map (·.char)
  let sizes := List.range (text.length + 1)
  let sizes := if longest then sizes else sizes.reverse
  match sizes.find? fun n => accepts pattern (chars.drop n) with
  | some n => text.take n
  | none => text

end Pattern

end DeviceLab.Shell
