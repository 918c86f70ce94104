import DeviceLab.Decimal.Powers
import DeviceLab.Decimal.Binary64

/-!
# The shortest text of a number

The text has the fewest decimal digits that read back as the number and, of those, the digits
nearest to it.  It is written without an exponent, and a whole number without a point.

The digits are looked for on the grids `10^g`, from coarse to fine: the two neighbours of the number
on a grid are tested against the interval of reals that round to it.
-/

namespace DeviceLab.Decimal

/-- The interval of reals that round to `m · 2^q`, on a grid of `10^g`, in a common unit. -/
structure RoundingInterval where
  low : Nat
  exact : Nat
  high : Nat
  /-- One step of the grid. -/
  step : Nat
  /-- Whether the ends belong to the interval: the even neighbour takes the halves. -/
  closed : Bool

namespace RoundingInterval

/-- The interval of `m · 2^q`.  Below a power of two the neighbours are twice as near. -/
def of (m : Nat) (q g : Int) : RoundingInterval :=
  let unit := twoTo q.toNat * tenTo (-g).toNat
  { low := (4 * m - if m = twoTo 52 ∧ -1074 < q then 1 else 2) * unit
    exact := 4 * m * unit
    high := (4 * m + 2) * unit
    step := 4 * twoTo (-q).toNat * tenTo g.toNat
    closed := m % 2 = 0 }

/-- Whether the grid's point `c` rounds to the number. -/
def holds (i : RoundingInterval) (c : Nat) : Bool :=
  let at_ := c * i.step
  if i.closed then i.low ≤ at_ && at_ ≤ i.high else i.low < at_ && at_ < i.high

/-- The number's neighbour on the grid that rounds to it, the nearer one of two. -/
def hit? (i : RoundingInterval) : Option Nat :=
  let below := i.exact / i.step
  let fromBelow := i.exact - below * i.step
  let fromAbove := (below + 1) * i.step - i.exact
  match i.holds below, i.holds (below + 1) with
  | true, true => some (if fromAbove < fromBelow then below + 1 else below)
  | true, false => some below
  | false, true => some (below + 1)
  | false, false => none

end RoundingInterval

/-- The first hit on the grids `10^g`, `10^(g-1)`, …, with its exponent. -/
def firstHit (m : Nat) (q : Int) : Nat → Int → Nat × Int
  | 0, g => (m, g)
  | tries + 1, g =>
    match (RoundingInterval.of m q g).hit? with
    | some c => (c, g)
    | none => firstHit m q tries (g - 1)

/-- The shortest digits of `m · 2^q`, for `m` above zero, and the exponent of ten that goes with
them.  Seventeen digits always suffice. -/
def shortestDigits (m : Nat) (q : Int) : Nat × Int :=
  firstHit m q 24 (((m.log2 + 1 : Nat) + q) * 30103 / 100000 + 2)

/-- The number `digits · 10^exponent` without an exponent. -/
def positional (digits : Nat) (exponent : Int) : String :=
  let cs := Nat.toDigits 10 digits
  let zeros n := List.replicate n '0'
  let whole := cs.length + exponent
  String.ofList <|
    if 0 ≤ exponent then cs ++ zeros exponent.toNat
    else if 0 < whole then cs.take whole.toNat ++ '.' :: cs.drop whole.toNat
    else '0' :: '.' :: (zeros (-whole).toNat ++ cs)

/-- The shortest text of a number. -/
def Binary64.text (x : Binary64) : String :=
  match x.value with
  | .nan => "NaN"
  | .infinite negative => if negative then "-inf" else "inf"
  | .finite negative m q =>
    let size :=
      if m = 0 then "0"
      else
        let (digits, exponent) := shortestDigits m q
        positional digits exponent
    if negative then "-" ++ size else size

end DeviceLab.Decimal
