import SwarmChart.Decimal.Shortest

/-!
# Laying out a decimal number

A `Layout` holds the decisions of a number format that are not mathematics: which numbers are
written with all their places and which with an exponent, and what marks them. `Layout.write`
writes a number in its shortest digits under such decisions.
-/

set_option autoImplicit false

namespace SwarmChart.Decimal

/-- The decisions of a format for numbers with a fraction. -/
structure Layout where
  /-- The first digit's least exponent at which the number is written with all its places. -/
  leastPlain : Int
  /-- The first digit's greatest exponent at which the number is written with all its places. -/
  greatestPlain : Int
  /-- What follows the digits of a whole number that is written with all its places. -/
  wholeMark : List Char
  /-- What stands between the digits and an exponent that is not negative. -/
  positiveMark : List Char
  /-- What stands between the digits and the size of a negative exponent. -/
  negativeMark : List Char
  /-- What is written for an infinity and for what is not a number. -/
  missing : List Char

/-- Digits with a point after the first one, unless there is only one. -/
def pointAfterFirst : List Char → List Char
  | first :: second :: rest => first :: '.' :: second :: rest
  | run => run

/-- Digits with all their places; `first` is the exponent of the first digit. -/
def plain (layout : Layout) (run : List Char) (first : Int) : List Char :=
  if first < 0 then '0' :: '.' :: List.replicate (-first - 1).toNat '0' ++ run
  else
    let places := first.toNat + 1
    -- Places behind the last digit are filled with zeros.
    if run.length ≤ places then
      run ++ List.replicate (places - run.length) '0' ++ layout.wholeMark
    else run.take places ++ '.' :: run.drop places

/-- A positive number in its shortest digits. -/
def Layout.writePositive (layout : Layout) (significand : Nat) (exponent : Int) : List Char :=
  let number := shortest significand exponent
  let run := digits number.digits
  let first := number.exponent + (run.length - 1 : Nat)
  if layout.leastPlain ≤ first ∧ first ≤ layout.greatestPlain then plain layout run first
  else
    pointAfterFirst run ++ (if first < 0 then layout.negativeMark else layout.positiveMark)
      ++ digits first.natAbs

/-- A number in its shortest digits, with its sign. -/
def Layout.write (layout : Layout) (x : Float) : List Char :=
  match Binary.ofFloat x with
  | .finite negative significand exponent =>
    (if negative then ['-'] else []) ++
      if significand = 0 then '0' :: layout.wholeMark
      else layout.writePositive significand exponent
  | _ => layout.missing

end SwarmChart.Decimal
