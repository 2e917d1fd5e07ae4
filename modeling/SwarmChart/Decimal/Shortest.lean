import SwarmChart.Decimal.Digits
import SwarmChart.Decimal.Double

/-!
# The shortest decimal that reads back

For a positive double-precision number `significand * 2 ^ exponent` there is an interval of reals
that round to it; its ends belong to it when the significand is even. `shortest` finds the decimal
with the fewest digits in that interval and, among those, the one closest to the number. For each
count of digits it tests only the two neighbours of the number on the grid of such decimals: if any
point of the grid lies in the interval, then one of the neighbours does.
-/

set_option autoImplicit false

namespace SwarmChart.Decimal

/-- The number `digits * 10 ^ exponent`. -/
structure Scaled where
  digits : Nat
  exponent : Int
  deriving DecidableEq, Repr

/-- A positive number of the double format with the ends of its rounding interval, all counted in
quarters of the number's own unit `2 ^ exponent`. -/
structure Rounding where
  low : Nat
  center : Nat
  high : Nat
  /-- Both ends round to the number. -/
  closed : Bool
  exponent : Int
  deriving Repr

/-- The rounding interval of a number. The one below a power of two lies only half as far away as
the one above it. -/
def Rounding.of (significand : Nat) (exponent : Int) : Rounding :=
  let half := if significand = fullSignificand ∧ exponent ≠ leastExponent then 1 else 2
  ⟨4 * significand - half, 4 * significand, 4 * significand + 2, significand % 2 == 0,
    exponent - 2⟩

namespace Rounding

/-- The factors that turn grid points of step `10 ^ step` and quarters into one common unit. -/
def factors (interval : Rounding) (step : Int) : Nat × Nat :=
  (tenTo step.toNat * twoTo (-interval.exponent).toNat,
    twoTo interval.exponent.toNat * tenTo (-step).toNat)

/-- The grid point `point * 10 ^ step` rounds to the number. -/
def contains (interval : Rounding) (step : Int) (point : Nat) : Bool :=
  let (grid, quarter) := interval.factors step
  if interval.closed then
    interval.low * quarter ≤ point * grid && point * grid ≤ interval.high * quarter
  else interval.low * quarter < point * grid && point * grid < interval.high * quarter

/-- The point of the grid of step `10 ^ step` that rounds to the number, the closer one of two, and
the even one of two that are equally close. -/
def onGrid? (interval : Rounding) (step : Int) : Option Scaled :=
  let (grid, quarter) := interval.factors step
  let center := interval.center * quarter
  let below := center / grid
  let nearer := roundQuotient center grid
  -- The farther neighbour counts too: the number need not be in the middle of its interval.
  if interval.contains step nearer then some ⟨nearer, step⟩
  else if interval.contains step below then some ⟨below, step⟩
  else if interval.contains step (below + 1) then some ⟨below + 1, step⟩
  else none

/-- The exponent of the first digit of the number. A factor of `10 ^ 330` brings every number of
the format above one, and a fraction has no part in the count of digits. -/
def firstExponent (interval : Rounding) : Int :=
  let enlarged :=
    interval.center * twoTo interval.exponent.toNat * tenTo 330
      / twoTo (-interval.exponent).toNat
  (Decimal.digits enlarged).length - 331

/-- Tries grids from `count` digits on, each ten times as fine as the one before it. -/
def search (interval : Rounding) : (attempts : Nat) → (step : Int) → Scaled
  | 0, step =>
    -- Never reached from `shortest`: one of its seventeen grids has a point in the interval.
    let (grid, quarter) := interval.factors step
    ⟨interval.center * quarter / grid, step⟩
  | attempts + 1, step => (interval.onGrid? step).getD (interval.search attempts (step - 1))

end Rounding

/-- The same number without trailing zeros among its digits. -/
def Scaled.trim : (fuel : Nat) → Scaled → Scaled
  | 0, number => number
  | fuel + 1, number =>
    if number.digits % 10 = 0 then Scaled.trim fuel ⟨number.digits / 10, number.exponent + 1⟩
    else number

/-- The decimal of fewest digits that rounds to `significand * 2 ^ exponent`. Seventeen digits
always suffice. -/
def shortest (significand : Nat) (exponent : Int) : Scaled :=
  let interval := Rounding.of significand exponent
  Scaled.trim 17 (interval.search 17 interval.firstExponent)

end SwarmChart.Decimal
