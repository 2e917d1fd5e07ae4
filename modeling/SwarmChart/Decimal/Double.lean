/-!
# Double-precision numbers taken apart

A number of the double format is a significand of at most 53 bits times a power of two, an
infinity, or not a number. `Binary.ofFloat` takes a `Float` apart, and `nearest` builds the one
closest to a given quotient of whole numbers, a tie going to the even significand. Everything in
between is exact arithmetic on whole numbers.
-/

set_option autoImplicit false

namespace SwarmChart.Decimal

/-- A power of two. -/
def twoTo (exponent : Nat) : Nat := Nat.pow 2 exponent

/-- The parts of a double-precision number. -/
inductive Binary where
  | notANumber
  | infinite (negative : Bool)
  /-- The number `significand * 2 ^ exponent`, or its negative. Zero has a sign too. -/
  | finite (negative : Bool) (significand : Nat) (exponent : Int)
  deriving DecidableEq, Repr

/-- The least power of two of which every finite number is a multiple. -/
def leastExponent : Int := -1074

/-- The significand from which on every number has its full precision: two to the 52nd. -/
def fullSignificand : Nat := 4503599627370496

/-- The bit that marks a negative number: two to the 63rd. -/
def signBit : Nat := 9223372036854775808

/-- One more than the greatest biased exponent that the format has room for. -/
def exponentLimit : Nat := 2048

namespace Binary

/-- The parts of a number, read off its bits. -/
def ofFloat (x : Float) : Binary :=
  let bits := x.toBits.toNat
  let negative := bits / signBit == 1
  let biased := bits / fullSignificand % exponentLimit
  let fraction := bits % fullSignificand
  if biased + 1 = exponentLimit then if fraction = 0 then infinite negative else notANumber
  else if biased = 0 then finite negative fraction leastExponent
  else finite negative (fullSignificand + fraction) (biased + leastExponent - 1)

/-- The number is neither infinite nor missing. -/
def isFinite : Binary → Bool
  | finite .. => true
  | _ => false

/-- The whole number closest to `significand * 2 ^ exponent`, a half going up. -/
def roundMagnitude (significand : Nat) (exponent : Int) : Nat :=
  if 0 ≤ exponent then significand * twoTo exponent.toNat
  else
    let unit := twoTo (-exponent).toNat
    (2 * significand + unit) / (2 * unit)

end Binary

/-- The whole number closest to a quotient, a tie going to the even one. -/
def roundQuotient (numerator denominator : Nat) : Nat :=
  let floor := numerator / denominator
  let twice := 2 * (numerator % denominator)
  if twice < denominator ∨ (twice = denominator ∧ floor % 2 = 0) then floor else floor + 1

/-- The power of two in which the significand closest to a positive quotient is counted: the one
that leaves 53 bits before the point, unless it lies below the least exponent. -/
def scaleOf (numerator denominator : Nat) : Int :=
  -- The quotient lies between 2 ^ (guess + 52) and 2 ^ (guess + 54).
  let guess : Int := (numerator.log2 : Int) - denominator.log2 - 53
  let wide := twoTo 53 * twoTo guess.toNat * denominator ≤ numerator * twoTo (-guess).toNat
  max (if wide then guess + 1 else guess) leastExponent

/-- The double-precision number with the given sign closest to `numerator / denominator`. What
would need a larger exponent than the format has becomes infinite. -/
def nearest (negative : Bool) (numerator denominator : Nat) : Float :=
  let magnitude : Nat :=
    if numerator = 0 then 0
    else
      let scale := scaleOf numerator denominator
      let significand :=
        roundQuotient (numerator * twoTo (-scale).toNat) (denominator * twoTo scale.toNat)
      -- A significand that was rounded up to 2 ^ 53 carries into the exponent of its own accord.
      let bits := (scale - leastExponent).toNat * fullSignificand + significand
      min bits ((exponentLimit - 1) * fullSignificand)
  Float.ofBits (UInt64.ofNat (if negative then signBit + magnitude else magnitude))

end SwarmChart.Decimal
