import SwarmChart.Json
import SwarmChart.Decimal.Numeral

/-!
# Numbers in a JSON text

`Numeral.scan` reads the parts of a written number and `Numeral.value` gives the number they write.
A number without point and exponent that fits in 64 bits is a whole number. Of all others as many
digits count as fit in 64 unsigned bits; those digits become a double-precision number, which is
then multiplied or divided by the power of ten that remains. This takes two roundings instead of
one, so the result is not always the closest number. A number too large for the format is a fault.
-/

set_option autoImplicit false

namespace SwarmChart.Json

/-- The parts of a written number. -/
structure Numeral where
  negative : Bool
  whole : List Char
  /-- The digits after the point, if there is a point. -/
  fraction : Option (List Char)
  exponent : Option Int
  deriving DecidableEq, Repr

namespace Numeral

/-- The fault of a text that stops short of a digit: it either ends there or goes on wrongly. -/
def noDigit : List Char → Fault
  | [] => .truncated
  | _ :: _ => .malformed

/-- Reads the digits before the point. A zero there stands alone. -/
def scanWhole (text : List Char) : Except Fault (List Char × List Char) :=
  match Decimal.run text with
  | [] => .error (noDigit text)
  | '0' :: _ :: _ => .error .malformed
  | digits => .ok (digits, text.drop digits.length)

/-- Reads the digits after a point. -/
def scanFraction : List Char → Except Fault (Option (List Char) × List Char)
  | '.' :: text =>
    match Decimal.run text with
    | [] => .error (noDigit text)
    | digits => .ok (some digits, text.drop digits.length)
  | text => .ok (none, text)

/-- Reads an exponent. -/
def scanExponent : List Char → Except Fault (Option Int × List Char)
  | mark :: text =>
    if mark = 'e' ∨ mark = 'E' then
      let (negative, text) := Decimal.splitSign text
      match Decimal.run text with
      | [] => .error (noDigit text)
      | digits =>
        let size : Int := Decimal.value digits
        .ok (some (if negative then -size else size), text.drop digits.length)
    else .ok (none, mark :: text)
  | [] => .ok (none, [])

/-- The text after a minus sign, and whether there was one. -/
def splitMinus : List Char → Bool × List Char
  | '-' :: rest => (true, rest)
  | text => (false, text)

/-- Reads a number from a text that begins with a digit or a minus sign. -/
def scan (text : List Char) : Except Fault (Numeral × List Char) := do
  let (negative, text) := splitMinus text
  let (whole, text) ← scanWhole text
  let (fraction, text) ← scanFraction text
  let (exponent, text) ← scanExponent text
  .ok (⟨negative, whole, fraction, exponent⟩, text)

theorem length_of_scanWhole {text digits rest : List Char}
    (h : scanWhole text = .ok (digits, rest)) : rest.length < text.length := by
  unfold scanWhole at h
  split at h
  · cases h
  · cases h
  · next run found _ =>
    simp only [Except.ok.injEq, Prod.mk.injEq] at h
    have shorter : (Decimal.run text).length ≤ text.length := (List.takeWhile_sublist _).length_le
    have some_digit : 0 < (Decimal.run text).length := List.length_pos_iff.2 (by simpa using found)
    rw [← h.2, List.length_drop]
    omega

theorem length_of_scanFraction {text rest : List Char} {digits : Option (List Char)}
    (h : scanFraction text = .ok (digits, rest)) : rest.length ≤ text.length := by
  unfold scanFraction at h
  split at h
  · split at h
    · cases h
    · simp only [Except.ok.injEq, Prod.mk.injEq] at h
      rw [← h.2, List.length_drop, List.length_cons]
      omega
  · simp only [Except.ok.injEq, Prod.mk.injEq] at h
    exact Nat.le_of_eq (congrArg List.length h.2.symm)

theorem length_of_scanExponent {text rest : List Char} {exponent : Option Int}
    (h : scanExponent text = .ok (exponent, rest)) : rest.length ≤ text.length := by
  unfold scanExponent at h
  split at h
  · next mark text =>
    split at h
    · have shorter := Decimal.length_splitSign_le text
      dsimp only at h
      split at h
      · cases h
      · simp only [Except.ok.injEq, Prod.mk.injEq] at h
        rw [← h.2, List.length_drop, List.length_cons]
        omega
    · simp only [Except.ok.injEq, Prod.mk.injEq] at h
      exact Nat.le_of_eq (congrArg List.length h.2.symm)
  · simp only [Except.ok.injEq, Prod.mk.injEq] at h
    exact Nat.le_of_eq (congrArg List.length h.2.symm)

theorem length_splitMinus_le (text : List Char) : (splitMinus text).2.length ≤ text.length := by
  unfold splitMinus
  split <;> simp

/-- A number takes one character at least. -/
theorem length_of_scan {text rest : List Char} {numeral : Numeral}
    (h : scan text = .ok (numeral, rest)) : rest.length < text.length := by
  have unsigned := length_splitMinus_le text
  simp only [scan, bind, Except.bind] at h
  split at h
  · cases h
  · next whole found =>
    have first := length_of_scanWhole found
    split at h
    · cases h
    · next fraction found =>
      have second := length_of_scanFraction found
      split at h
      · cases h
      · next exponent found =>
        have third := length_of_scanExponent found
        simp only [Except.ok.injEq, Prod.mk.injEq] at h
        rw [← h.2]
        omega

/-- The least number that does not fit in 64 unsigned bits. -/
def wordLimit : Nat := 18446744073709551616

/-- The size of the least number that fits in 64 signed bits. -/
def signedLimit : Nat := 9223372036854775808

/-- Appends digits to a number while the result fits in 64 unsigned bits, and returns the number
of digits that were left over. -/
def absorb : Nat → List Char → Nat × Nat
  | number, [] => (number, 0)
  | number, digit :: rest =>
    let longer := Nat.ofDigitChars 10 [digit] number
    if longer < wordLimit then absorb longer rest else (number, rest.length + 1)

/-- A power of ten as a double-precision number. -/
def floatTenTo (exponent : Nat) : Float := Decimal.nearest false (Decimal.tenTo exponent) 1

/-- The number divided by a power of ten, in steps that the format can hold. Three steps take any
64-bit number to zero. -/
def divideBy : (steps : Nat) → Float → Nat → Float
  | 0, number, _ => number
  | steps + 1, number, exponent =>
    if exponent ≤ 308 then number / floatTenTo exponent
    else divideBy steps (number / floatTenTo 308) (exponent - 308)

/-- The double-precision number of the digits that count and the power of ten that remains. -/
def scaled (significand : Nat) (exponent : Int) : Except Fault Float :=
  let number := Decimal.nearest false significand 1
  -- Zero stays zero however large the exponent is.
  if significand = 0 then .ok number
  else if 308 < exponent then .error .malformed
  else if 0 ≤ exponent then
    let result := number * floatTenTo exponent.toNat
    if (Decimal.Binary.ofFloat result).isFinite then .ok result else .error .malformed
  else .ok (divideBy 4 number (-exponent).toNat)

/-- The double-precision number that the parts write. -/
def float (numeral : Numeral) : Except Fault Float := do
  let fraction := numeral.fraction.getD []
  -- Digits left over before the point raise the exponent, those behind it do not count at all.
  let (significand, above) := absorb 0 numeral.whole
  let (significand, left) := absorb significand fraction
  let exponent := numeral.exponent.getD 0 + above - (fraction.length - left : Nat)
  let number ← scaled significand exponent
  .ok (if numeral.negative then -number else number)

/-- The number is written without point and exponent and fits in 64 bits. A negative zero is not
a whole number. -/
def isWhole (numeral : Numeral) : Bool :=
  let size := Decimal.value numeral.whole
  numeral.fraction.isNone && numeral.exponent.isNone &&
    if numeral.negative then 0 < size && size ≤ signedLimit else size < wordLimit

/-- The number that the parts write. -/
def value (numeral : Numeral) : Except Fault Json :=
  if numeral.isWhole then
    let size : Int := Decimal.value numeral.whole
    .ok (.int (if numeral.negative then -size else size))
  else numeral.float.map Json.float

end Numeral

end SwarmChart.Json
