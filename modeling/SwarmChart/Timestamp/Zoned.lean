import SwarmChart.Timestamp.Fields

/-!
# Timestamps with a zone

The internet notation: ten characters of date, one of a capital or small T or a space, eight
characters of time of day, an optional fraction, and a zone, with every number at its full width
and nothing else anywhere. The zone is the letter Z or an offset from universal time of less than
a day, and `Zoned.read` takes it off, so that the instant read is one of universal time.
-/

set_option autoImplicit false

namespace SwarmChart.Timestamp.Zoned

open Text (Reader)
open Text.Reader (literal fixedNumber)

/-- Reads the mark between date and time of day. -/
def separator : Reader Unit
  | c :: rest => if c = 'T' ∨ c = 't' ∨ c = ' ' then some ((), rest) else none
  | [] => none

/-- Reads the fields before the zone. -/
def fields : Reader Fields := fun text => do
  let (year, text) ← fixedNumber 4 text
  let (_, text) ← literal '-' text
  let (month, text) ← fixedNumber 2 text
  let (_, text) ← literal '-' text
  let (day, text) ← fixedNumber 2 text
  let (_, text) ← separator text
  let (hour, text) ← fixedNumber 2 text
  let (_, text) ← literal ':' text
  let (minute, text) ← fixedNumber 2 text
  let (_, text) ← literal ':' text
  let (second, text) ← fixedNumber 2 text
  let (nanos, text) ← fraction text
  some (⟨⟨year, month, day⟩, hour, minute, second, nanos⟩, text)

/-- Reads the hours and minutes of an offset as seconds. -/
def offsetSize : Reader Nat := fun text => do
  let (hours, text) ← fixedNumber 2 text
  let (_, text) ← literal ':' text
  let (minutes, text) ← fixedNumber 2 text
  if hours < 24 ∧ minutes < 60 then some (hours * 3600 + minutes * 60, text) else none

/-- Reads the zone as the seconds by which its clocks are ahead of universal time. The minus sign
may be the hyphen or U+2212. -/
def zone : Reader Int
  | c :: rest =>
    if c = 'Z' ∨ c = 'z' then some (0, rest)
    else if c = '+' then (offsetSize rest).map fun (size, rest) => (size, rest)
    else if c = '-' ∨ c = '\u2212' then (offsetSize rest).map fun (size, rest) => (-size, rest)
    else none
  | [] => none

/-- The instant that a whole text writes in this notation. -/
def read (text : List Char) : Option Instant := do
  let (fields, text) ← fields text
  let (ahead, text) ← zone text
  if text.isEmpty then
    let shown ← fields.instant?
    some ⟨shown.seconds - ahead, shown.nanos⟩
  else none

end SwarmChart.Timestamp.Zoned
