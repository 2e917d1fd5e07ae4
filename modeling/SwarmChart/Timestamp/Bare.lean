import SwarmChart.Timestamp.Fields
import SwarmChart.Text.Blank

/-!
# Timestamps without a zone

The notation in which timestamps are also printed, read as universal time. It is laxer than the
zoned one: a number may have fewer digits than its full width and white space before it, and a
year with a sign may have any number of digits. The marks between the numbers are exact, and
nothing may follow the last digit (`Bare.read`).
-/

set_option autoImplicit false

namespace SwarmChart.Timestamp.Bare

open Text (Reader)
open Text.Reader (literal shortNumber longNumber)

/-- Reads a year: with a sign any number of digits, without one at most four. -/
def signedYear : Reader Int := fun text =>
  match text with
  | '-' :: rest => (longNumber rest).map fun (year, rest) => (-year, rest)
  | '+' :: rest => (longNumber rest).map fun (year, rest) => (year, rest)
  | rest => (shortNumber 4 rest).map fun (year, rest) => (year, rest)

/-- Reads a field of one or two digits with white space before it. -/
def field : Reader Nat := fun text => shortNumber 2 (Text.trimStart text)

/-- Reads the fields of a timestamp. -/
def fields : Reader Fields := fun text => do
  let (year, text) ← signedYear (Text.trimStart text)
  let (_, text) ← literal '-' text
  let (month, text) ← field text
  let (_, text) ← literal '-' text
  let (day, text) ← field text
  let (_, text) ← literal 'T' text
  let (hour, text) ← field text
  let (_, text) ← literal ':' text
  let (minute, text) ← field text
  let (_, text) ← literal ':' text
  let (second, text) ← field text
  let (nanos, text) ← fraction text
  some (⟨⟨year, month, day⟩, hour, minute, second, nanos⟩, text)

/-- The instant that a whole text writes in this notation. -/
def read (text : List Char) : Option Instant := do
  let (fields, text) ← fields text
  if text.isEmpty then fields.instant? else none

end SwarmChart.Timestamp.Bare
