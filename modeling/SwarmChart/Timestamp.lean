import SwarmChart.Timestamp.Zoned
import SwarmChart.Timestamp.Bare

/-!
# Timestamps

`Timestamp.read` reads an instant from a text in either notation, white space around it aside, and
`Timestamp.write` prints one without a zone. The printed form has the fewest groups of three
decimals that lose nothing, four digits of year from 0000 to 9999, and otherwise a sign and at
least four digits; a leap second is printed as second 60.
-/

set_option autoImplicit false

namespace SwarmChart.Timestamp

/-- The instant that a list of characters writes, the zoned notation tried first. -/
def readChars (text : List Char) : Option Instant :=
  let text := Text.trim text
  match Zoned.read text with
  | some instant => some instant
  | none => Bare.read text

/-- The instant that a text writes. -/
def read (text : String) : Option Instant := readChars text.toList

/-- A year with its sign, if it needs one. -/
def writeYear (year : Int) : List Char :=
  if 0 ≤ year ∧ year ≤ 9999 then Decimal.padded 4 year.natAbs
  else (if year < 0 then '-' else '+') :: Decimal.padded 4 year.natAbs

/-- The fraction of a second in the fewest groups of three digits. -/
def writeFraction (nanos : Nat) : List Char :=
  if nanos = 0 then []
  else if nanos % 1000000 = 0 then '.' :: Decimal.padded 3 (nanos / 1000000)
  else if nanos % 1000 = 0 then '.' :: Decimal.padded 6 (nanos / 1000)
  else '.' :: Decimal.padded 9 nanos

/-- The characters of a timestamp with the given fields. -/
def writeFields (fields : Fields) : List Char :=
  writeYear fields.date.year ++ '-' :: Decimal.padded 2 fields.date.month
    ++ '-' :: Decimal.padded 2 fields.date.day
    ++ 'T' :: Decimal.padded 2 fields.hour
    ++ ':' :: Decimal.padded 2 fields.minute
    ++ ':' :: Decimal.padded 2 fields.second
    ++ writeFraction fields.nanos

/-- The characters of an instant's timestamp. -/
def writeChars (instant : Instant) : List Char := writeFields (Fields.ofInstant instant)

/-- The timestamp of an instant. -/
def write (instant : Instant) : String := String.ofList (writeChars instant)

end SwarmChart.Timestamp
