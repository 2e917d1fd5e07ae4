import SwarmChart.Decimal.Digits

/-!
# Readers

A reader takes what it reads off the front of a text and returns it with the rest, or refuses. The
readers here are the parts that several notations share: one fixed character, and the digits of a
number. Hexadecimal digits have their values here too (`hexDigit?`), and those that core writes are
read back.
-/

set_option autoImplicit false

namespace SwarmChart.Text

/-- What is read from the front of a text, with the rest of the text. -/
abbrev Reader (α : Type) := List Char → Option (α × List Char)

namespace Reader

/-- Reads the one character given. -/
def literal (expected : Char) : Reader Unit
  | c :: rest => if c = expected then some ((), rest) else none
  | [] => none

/-- Reads a number of exactly `width` digits. -/
def fixedNumber (width : Nat) : Reader Nat := fun text =>
  let front := Decimal.leading width text
  if front.length = width then some (Decimal.value front, text.drop width) else none

/-- Reads a number of at least one digit and at most `width` digits. -/
def shortNumber (width : Nat) : Reader Nat := fun text =>
  match Decimal.leading width text with
  | [] => none
  | front => some (Decimal.value front, text.drop front.length)

/-- Reads a number of one or more digits. -/
def longNumber : Reader Nat := fun text =>
  match Decimal.run text with
  | [] => none
  | front => some (Decimal.value front, text.drop front.length)

end Reader

/-! ## Hexadecimal digits -/

/-- The value of a hexadecimal digit in either case. -/
def hexDigit? (c : Char) : Option Nat :=
  if '0' ≤ c ∧ c ≤ '9' then some (c.toNat - '0'.toNat)
  else if 'a' ≤ c ∧ c ≤ 'f' then some (c.toNat - 'a'.toNat + 10)
  else if 'A' ≤ c ∧ c ≤ 'F' then some (c.toNat - 'A'.toNat + 10)
  else none

theorem hexDigit?_digitChar : ∀ digit < 16, hexDigit? digit.digitChar = some digit := by decide

end SwarmChart.Text
