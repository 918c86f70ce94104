import DeviceLab.Decimal.Powers
import DeviceLab.Decimal.Binary64

/-!
# Reading numerals

* `digits`: a run of decimal digits as a number.
* `natural?`: a whole number below a limit, with an optional plus sign.
* `Numeral`: sign, digits, fraction and exponent, as several formats write them.
* `Binary64.ofText?`: a number, an infinity or "nan", in any case of letters.
-/

namespace DeviceLab.Decimal

/-- Whether a character is one of the ten ASCII digits. -/
def isDigit (c : Char) : Bool := '0' ≤ c && c ≤ '9'

/-- The value of a run of decimal digits. -/
def ofDigits (cs : List Char) : Nat :=
  cs.foldl (fun n c => n * 10 + (c.toNat - '0'.toNat)) 0

/-- A whole number below `limit`, written in decimal digits after an optional plus sign. -/
def natural? (limit : Nat) (cs : List Char) : Option Nat :=
  let body := match cs with
    | '+' :: rest => rest
    | _ => cs
  if body.isEmpty || !body.all isDigit then none
  else
    let n := ofDigits body
    if n < limit then some n else none

/-- A whole number between two bounds, written with an optional sign. -/
def integer? (low high : Int) (cs : List Char) : Option Int :=
  let n? : Option Int := match cs with
    | '-' :: rest => if rest.head? = some '+' then none
                     else (natural? (twoTo 64) rest).map fun n => -(n : Int)
    | _ => (natural? (twoTo 64) cs).map fun n => (n : Int)
  n?.filter fun n => low ≤ n ∧ n ≤ high

/-- A numeral's parts: the digits of both sides of the point as one number, and the power of ten
that it is multiplied by. -/
structure Numeral where
  negative : Bool
  digits : Nat
  exponent : Int

/-- The number nearest to a numeral. -/
def Numeral.toBinary64 (n : Numeral) : Binary64 := .ofDecimal n.negative n.digits n.exponent

/-- A numeral from its sign, its digits before and after the point, and its exponent. -/
def Numeral.ofParts (negative : Bool) (whole fraction : List Char) (exponent : Int) : Numeral :=
  ⟨negative, ofDigits (whole ++ fraction), exponent - fraction.length⟩

/-- The exponent after an `e`: an optional sign and at least one digit, and nothing else. -/
def exponent? (cs : List Char) : Option Int :=
  let (negative, body) := match cs with
    | '-' :: rest => (true, rest)
    | '+' :: rest => (false, rest)
    | _ => (false, cs)
  if body.isEmpty || !body.all isDigit then none
  else
    let size : Int := ofDigits body
    some (if negative then -size else size)

/-- A numeral with digits on at least one side of its optional point. -/
def numeral? (negative : Bool) (cs : List Char) : Option Numeral := do
  let whole := cs.takeWhile isDigit
  let (fraction, rest) := match cs.dropWhile isDigit with
    | '.' :: more => (more.takeWhile isDigit, more.dropWhile isDigit)
    | rest => ([], rest)
  if whole.isEmpty && fraction.isEmpty then none
  else match rest with
    | [] => some (.ofParts negative whole fraction 0)
    | c :: more =>
      if c = 'e' ∨ c = 'E' then
        (exponent? more).map fun e => .ofParts negative whole fraction e
      else none

/-- A number from its text: a numeral, or a word for an infinity or for no number. -/
def Binary64.ofText? (text : String) : Option Binary64 :=
  let (negative, body) := match text.toList with
    | '-' :: rest => (true, rest)
    | '+' :: rest => (false, rest)
    | cs => (false, cs)
  let word := String.ofList (body.map Char.toLower)
  if word = "inf" ∨ word = "infinity" then some (.infinity negative)
  else if word = "nan" then some .nan
  else (numeral? negative body).map Numeral.toBinary64

end DeviceLab.Decimal
