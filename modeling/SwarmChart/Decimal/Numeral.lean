import SwarmChart.Decimal.Digits
import SwarmChart.Decimal.Double

/-!
# Reading a number from a text

The grammar of numbers given by a user: an optional sign, then one of the words for an infinity or
for what is not a number in any mixture of cases, or digits with an optional point among or around
them and an optional exponent. Nothing else may stand in the text, white space included. The
number read is the double-precision number closest to the one written (`readNumeral`).
-/

set_option autoImplicit false

namespace SwarmChart.Decimal

/-- The double-precision number closest to `digits * 10 ^ exponent`. A number beyond the format on
either side is recognised by its count of digits, before any power of ten is taken. -/
def ofScaled (negative : Bool) (mantissa : Nat) (exponent : Int) : Float :=
  -- The number is at least 10 ^ (first - 1) and less than 10 ^ first.
  let first := (digits mantissa).length + exponent
  if mantissa = 0 ∨ first < -400 then nearest negative 0 1
  else if 400 < first then nearest negative (tenTo 400) 1
  else nearest negative (mantissa * tenTo exponent.toNat) (tenTo (-exponent).toNat)

/-- The number that is no number. -/
def notANumber : Float := Float.ofBits 0x7FF8000000000000

/-- The infinity with the given sign. -/
def infinity (negative : Bool) : Float := nearest negative (tenTo 400) 1

/-- A text without its sign, and whether the sign was a minus. -/
def splitSign : List Char → Bool × List Char
  | '-' :: rest => (true, rest)
  | '+' :: rest => (false, rest)
  | text => (false, text)

theorem length_splitSign_le (text : List Char) : (splitSign text).2.length ≤ text.length := by
  unfold splitSign
  split <;> simp

/-- The exponent that ends a number; none is the exponent zero. -/
def exponent? : List Char → Option Int
  | [] => some 0
  | mark :: text =>
    let (negative, text) := splitSign text
    if (mark = 'e' ∨ mark = 'E') ∧ text ≠ [] ∧ text.all Char.isDigit then
      some (if negative then -(value text : Int) else value text)
    else none

/-- The number that digits, a point and an exponent write. -/
def readDigits (negative : Bool) (text : List Char) : Option Float :=
  let whole := run text
  let rest := text.drop whole.length
  let (fraction, rest) :=
    match rest with
    | '.' :: after => (run after, after.drop (run after).length)
    | _ => ([], rest)
  if whole = [] ∧ fraction = [] then none
  else (exponent? rest).map fun exponent =>
    ofScaled negative (value (whole ++ fraction)) (exponent - fraction.length)

/-- The number that a text writes. -/
def readNumeral (text : List Char) : Option Float :=
  let (negative, text) := splitSign text
  let word := String.ofList (text.map Char.toLower)
  if word = "inf" ∨ word = "infinity" then some (infinity negative)
  else if word = "nan" then some notANumber
  else readDigits negative text

/-- The name of a number that is not finite, as messages give it. -/
def nameOfNonFinite (x : Float) : String :=
  match Binary.ofFloat x with
  | .infinite true => "-inf"
  | .infinite false => "inf"
  | _ => "NaN"

end SwarmChart.Decimal
