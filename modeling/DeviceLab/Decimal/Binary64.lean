import DeviceLab.Decimal.Powers

/-!
# Double-precision numbers

The binary floating-point format with 64 bits, told by its bit pattern, so that every statement
about a number is one about natural numbers.  A finite number is `± m · 2^q` with `m < 2^53` and
`-1074 ≤ q`.

* `Binary64.value`: what a bit pattern stands for.
* `Binary64.ofRatio`: the number nearest to a quotient.
* `Binary64.scaled?`: a finite number as a multiple of the least positive one.
-/

/-!
## Rounding a quotient

`roundHalfEven` is the nearest whole number to a quotient; a quotient half-way between two whole
numbers goes to the even one.
-/

namespace DeviceLab.Decimal

/-- The whole number nearest to `num / den`, a half going to the even neighbour. -/
def roundHalfEven (num den : Nat) : Nat :=
  let below := num / den
  let rest := num % den
  if 2 * rest < den ∨ (2 * rest = den ∧ below % 2 = 0) then below else below + 1

/-- The rounded quotient is at most one above the quotient rounded down. -/
theorem roundHalfEven_le (num den : Nat) : roundHalfEven num den ≤ num / den + 1 := by
  unfold roundHalfEven
  dsimp only
  split <;> omega

/-- The rounded quotient is never below the quotient rounded down. -/
theorem div_le_roundHalfEven (num den : Nat) : num / den ≤ roundHalfEven num den := by
  unfold roundHalfEven
  dsimp only
  split <;> omega

end DeviceLab.Decimal

/-! ## Floating-point numbers -/

namespace DeviceLab.Decimal

/-- A double-precision number, by its bits. -/
structure Binary64 where
  bits : UInt64
  deriving DecidableEq, Repr

/-- What the bits of a number stand for. -/
inductive Binary64.Value where
  | nan
  | infinite (negative : Bool)
  /-- The number `m · 2^q`, or its negative. -/
  | finite (negative : Bool) (m : Nat) (q : Int)
  deriving DecidableEq, Repr

namespace Binary64

/-- The value of a bit pattern: sign, eleven bits of exponent, fifty-two bits of fraction. -/
def value (x : Binary64) : Value :=
  let n := x.bits.toNat
  let negative := n / twoTo 63 = 1
  let exponent : Nat := n / twoTo 52 % twoTo 11
  let fraction := n % twoTo 52
  if exponent = 2047 then
    if fraction = 0 then .infinite negative else .nan
  else if exponent = 0 then .finite negative fraction (-1074)
  else .finite negative (fraction + twoTo 52) ((exponent : Int) - 1075)

/-- The pattern with a given sign and the other 63 bits. -/
def ofParts (negative : Bool) (rest : Nat) : Binary64 :=
  ⟨UInt64.ofNat ((if negative then twoTo 63 else 0) + rest)⟩

/-- Positive or negative infinity. -/
def infinity (negative : Bool) : Binary64 := ofParts negative (2047 * twoTo 52)

/-- A number that is not one. -/
def nan : Binary64 := ofParts false (2047 * twoTo 52 + twoTo 51)

/-- Positive or negative zero. -/
def zero (negative : Bool) : Binary64 := ofParts negative 0

/-- Twice to the power of a whole number, as a quotient of natural numbers. -/
def powTwo (q : Int) : Nat × Nat := (twoTo q.toNat, twoTo (-q).toNat)

/-- The exponent of the greatest power of two that is at most `num / den`. -/
def floorLog (num den : Nat) : Int :=
  let guess := (num.log2 : Int) - den.log2
  let (up, down) := powTwo guess
  if den * up ≤ num * down then guess else guess - 1

/-- The number nearest to `num / den` or to its negative, a half going to the even neighbour and
what is too big becoming infinite. -/
def ofRatio (negative : Bool) (num den : Nat) : Binary64 :=
  if num = 0 then zero negative
  else
    let q := max (floorLog num den - 52) (-1074)
    let (up, down) := powTwo q
    let rest := (q + 1074).toNat * twoTo 52 + roundHalfEven (num * down) (den * up)
    if rest < 2047 * twoTo 52 then ofParts negative rest else infinity negative

/-- The number nearest to `digits · 10^exponent` or to its negative.  Exponents far outside the
format are answered without computing the power. -/
def ofDecimal (negative : Bool) (digits : Nat) (exponent : Int) : Binary64 :=
  let size := (Nat.toDigits 10 digits).length + exponent
  if digits = 0 then zero negative
  else if 400 < size then infinity negative
  else if size < -400 then zero negative
  else ofRatio negative (digits * tenTo exponent.toNat) (tenTo (-exponent).toNat)

/-- The number nearest to a whole number. -/
def ofInt (n : Int) : Binary64 := ofRatio (n < 0) n.natAbs 1

/-- The number of a small literal. -/
def ofNat (n : Nat) : Binary64 := ofInt n

/-- The number with the other sign. -/
def negated (x : Binary64) : Binary64 := ⟨x.bits ^^^ UInt64.ofNat (twoTo 63)⟩

/-- The number nearest to a finite number above or at zero times a quotient. -/
def timesRatio (x : Binary64) (num den : Nat) : Binary64 :=
  match x.value with
  | .finite negative m q =>
    let (up, down) := powTwo q
    ofRatio negative (m * up * num) (down * den)
  | _ => x

/-- The greatest power of ten that a number is multiplied or divided by at once. -/
def greatestPower : Nat := 308

/-- A finite number above or at zero times ten to a power that is below zero: it is divided by the
number nearest to each power, the greatest ones first. -/
def overTenTo (x : Binary64) (power : Nat) : Binary64 :=
  let divided (x : Binary64) (n : Nat) : Binary64 :=
    match (ofRatio false (tenTo n) 1).value with
    | .finite _ m q => let (up, down) := powTwo q; x.timesRatio down (m * up)
    | _ => x
  let steps := min ((power - 1) / greatestPower) 3
  let x := (List.replicate steps greatestPower).foldl divided x
  divided x (min (power - steps * greatestPower) greatestPower)

/-- A finite number above or at zero times ten to a power, in steps that are rounded; nothing if
that is too great. -/
def timesTenTo (x : Binary64) (power : Int) : Option Binary64 :=
  if power < 0 then some (x.overTenTo power.natAbs)
  else if greatestPower < power then if x.bits = 0 then some x else none
  else match (ofRatio false (tenTo power.toNat) 1).value with
    | .finite _ m q =>
      let (up, down) := powTwo q
      let product := x.timesRatio (m * up) down
      if product.bits.toNat < 2047 * twoTo 52 then some product else none
    | _ => none

/-- A finite number as a multiple of `2^-1074`. -/
def scaled? (x : Binary64) : Option Int :=
  match x.value with
  | .finite negative m q =>
    let size : Int := m * twoTo (q + 1074).toNat
    some (if negative then -size else size)
  | _ => none

/-- Neither infinite nor without a value. -/
def isFinite (x : Binary64) : Bool := x.scaled?.isSome

/-- Finite and at least zero; the negative zero counts as zero. -/
def isFiniteNonneg (x : Binary64) : Bool := x.scaled?.any (0 ≤ ·)

/-- Finite and above zero. -/
def isFinitePos (x : Binary64) : Bool := x.scaled?.any (0 < ·)

/-- Positive or negative zero. -/
def isZero (x : Binary64) : Bool := x.scaled? == some 0

/-- Whether a finite number is above another one; false when one of them is not finite. -/
def finiteGt (x y : Binary64) : Bool :=
  match x.scaled?, y.scaled? with
  | some a, some b => b < a
  | _, _ => false

/-- The sixteen hexadecimal digits of the bits. -/
def hex (x : Binary64) : String :=
  let digits := Nat.toDigits 16 x.bits.toNat
  String.ofList (List.replicate (16 - digits.length) '0' ++ digits)

end Binary64

end DeviceLab.Decimal
