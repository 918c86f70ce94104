import DeviceLab.Decimal.Binary64

/-!
# Numbers in a given form

The digits of numbers with a given count of places, and the signs and blanks around them.

* `Layout`: flags, width and precision.
* `Layout.whole`, `Layout.natural`: whole numbers.
* `Layout.real`: double-precision numbers, with or without an exponent.
* `Layout.text`: texts.
-/

namespace DeviceLab.Decimal

/-- How a value is laid out. -/
structure Layout where
  /-- Whether it stands at the left of its place. -/
  atLeft : Bool := false
  /-- Whether zeros fill its place. -/
  zeros : Bool := false
  plus : Bool := false
  blank : Bool := false
  /-- Whether its base or its point is always told. -/
  full : Bool := false
  width : Nat := 0
  precision : Option Nat := none
  deriving Repr, Inhabited

namespace Layout

/-- A text filled up to the width, behind something that stays in front of zeros. -/
def fill (layout : Layout) (zeros : Bool) (front body : String) : String :=
  let missing := layout.width - (front.length + body.length)
  if layout.atLeft then front ++ body ++ String.ofList (List.replicate missing ' ')
  else if zeros then front ++ String.ofList (List.replicate missing '0') ++ body
  else String.ofList (List.replicate missing ' ') ++ front ++ body

/-- A text, cut to the precision. -/
def text (layout : Layout) (text : String) : String :=
  let text := match layout.precision with
    | some n => String.ofList (text.toList.take n)
    | none => text
  layout.fill false "" text

/-- Digits with zeros in front, up to the precision.  Zero has no digits where none are asked for. -/
def digits (layout : Layout) (base n : Nat) : String :=
  let digits := if n = 0 && layout.precision == some 0 then [] else Nat.toDigits base n
  String.ofList (List.replicate (layout.precision.getD 0 - digits.length) '0' ++ digits)

def sign (layout : Layout) (isNegative : Bool) : String :=
  if isNegative then "-" else if layout.plus then "+" else if layout.blank then " " else ""

/-- A whole number. -/
def whole (layout : Layout) (n : Int) : String :=
  layout.fill (layout.zeros && layout.precision.isNone) (layout.sign (n < 0))
    (layout.digits 10 n.natAbs)

/-- A natural number in a base. -/
def natural (layout : Layout) (base : Nat) (isUpper : Bool) (n : Nat) : String :=
  let digits := layout.digits base n
  let digits := if isUpper then String.ofList (digits.toList.map Char.toUpper) else digits
  let digits :=
    if base = 8 && layout.full && !digits.startsWith "0" then "0" ++ digits else digits
  let front :=
    if base = 16 && layout.full && n != 0 then if isUpper then "0X" else "0x" else ""
  layout.fill (layout.zeros && layout.precision.isNone) front digits

/-- Whether a real number is told with an exponent. -/
inductive Style where
  | fixed
  | exponent
  /-- With an exponent if it is very large or very small. -/
  | general
  /-- In hexadecimal digits. -/
  | hexadecimal
  deriving DecidableEq, Repr

/-- Digits with a point in front of the last ones. -/
def pointed (full : Bool) (digits : List Char) (places : Nat) : String :=
  let digits := List.replicate (places + 1 - digits.length) '0' ++ digits
  let before := digits.take (digits.length - places)
  let after := digits.drop (digits.length - places)
  String.ofList (if after.isEmpty && !full then before else before ++ '.' :: after)

/-- A quotient with a number of places behind the point. -/
def fixedText (full : Bool) (num den places : Nat) : String :=
  pointed full (Nat.toDigits 10 (roundHalfEven (num * tenTo places) den)) places

/-- The exponent of the greatest power of ten that is not above a quotient. -/
def tenLog (num den : Nat) : Int :=
  if num = 0 then 0
  else
    let guess : Int := (Nat.toDigits 10 num).length - (Nat.toDigits 10 den).length
    if den * tenTo guess.toNat ≤ num * tenTo (-guess).toNat then guess else guess - 1

/-- The digits of a quotient, one of them in front of the point, and its exponent. -/
def scaledDigits (num den places : Nat) : Nat × Int :=
  let exponent := tenLog num den
  let shift : Int := places - exponent
  let n := roundHalfEven (num * tenTo shift.toNat) (den * tenTo (-shift).toNat)
  if tenTo (places + 1) ≤ n then (n / 10, exponent + 1) else (n, exponent)

/-- An exponent with its sign and two digits at least. -/
def exponentText (exponent : Int) : String :=
  let digits := toString exponent.natAbs
  (if exponent < 0 then "-" else "+") ++ (if digits.length < 2 then "0" else "") ++ digits

/-- A quotient with an exponent. -/
def exponentialText (full : Bool) (num den places : Nat) : String :=
  let (n, exponent) := scaledDigits num den places
  pointed full (Nat.toDigits 10 n) places ++ "e" ++ exponentText exponent

/-- A text without zeros at the end of its fraction. -/
def withoutZeros (text : String) : String :=
  if text.toList.contains '.' then
    let kept := text.toList.reverse.dropWhile (· == '0')
    String.ofList (kept.dropWhile (· == '.')).reverse
  else text

/-- A quotient in the shorter form. -/
def generalText (full : Bool) (num den precision : Nat) : String :=
  let precision := max precision 1
  let (_, exponent) := scaledDigits num den (precision - 1)
  if -4 ≤ exponent && exponent < precision then
    let text := fixedText full num den ((precision : Int) - 1 - exponent).toNat
    if full then text else withoutZeros text
  else
    let text := exponentialText full num den (precision - 1)
    if full then text
    else match text.splitOn "e" with
      | [number, exponent] => withoutZeros number ++ "e" ++ exponent
      | _ => text

/-- A number `m · 2^q` in hexadecimal digits. -/
def hexadecimalText (full : Bool) (m : Nat) (q : Int) (precision : Option Nat) : String :=
  let places := 13
  let (m, q) := if m = 0 then (0, 0) else (m, q + 52)
  let (n, places) := match precision with
    | some p =>
      if p < places then (roundHalfEven m (twoTo (4 * (places - p))), p)
      else (m * twoTo (4 * (p - places)), p)
    | none => (m, places)
  let text := pointed full (Nat.toDigits 16 n) places
  let text := if precision.isNone then withoutZeros text else text
  "0x" ++ text ++ "p" ++ (if q < 0 then "-" else "+") ++ toString q.natAbs

/-- A double-precision number. -/
def real (layout : Layout) (style : Style) (isUpper : Bool) (x : Binary64) : String :=
  let cased (text : String) : String :=
    if isUpper then String.ofList (text.toList.map Char.toUpper) else text
  match x.value with
  | .nan => layout.fill false (layout.sign (x.bits.toNat / twoTo 63 = 1)) (cased "nan")
  | .infinite negative => layout.fill false (layout.sign negative) (cased "inf")
  | .finite negative m q =>
    let (up, down) := Binary64.powTwo q
    let precision := layout.precision.getD 6
    let body := match style with
      | .fixed => fixedText layout.full (m * up) down precision
      | .exponent => exponentialText layout.full (m * up) down precision
      | .general => generalText layout.full (m * up) down precision
      | .hexadecimal => hexadecimalText layout.full m q layout.precision
    let front := layout.sign negative
    if style = .hexadecimal then
      layout.fill layout.zeros (front ++ cased "0x") (cased (String.ofList (body.toList.drop 2)))
    else layout.fill layout.zeros front (cased body)

end Layout

end DeviceLab.Decimal
