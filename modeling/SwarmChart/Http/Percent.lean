import SwarmChart.Text.Reader
import SwarmChart.Text.Utf8

/-!
# Percent encoding

In a request target an octet may be written as a percent sign and two hexadecimal digits.
`decodeOctets` undoes this in one pass and leaves a percent sign alone that no two such digits
follow; `encode` writes every octet of a text in this way.
-/

set_option autoImplicit false

namespace SwarmChart.Http.Percent

/-- The percent sign. -/
def sign : UInt8 := 0x25

/-- The octet that two digits write. -/
def octet? (high low : UInt8) : Option UInt8 := do
  let high ← Text.hexDigit? (Char.ofNat high.toNat)
  let low ← Text.hexDigit? (Char.ofNat low.toNat)
  some (UInt8.ofNat (high * 16 + low))

/-- The octets that a text in octets stands for. -/
def decodeOctets : List UInt8 → List UInt8
  | first :: high :: low :: rest =>
    if first = sign then
      match octet? high low with
      | some octet => octet :: decodeOctets rest
      | none => first :: decodeOctets (high :: low :: rest)
    else first :: decodeOctets (high :: low :: rest)
  | octets => octets

/-- An octet as a percent sign and two digits. -/
def encodeOctet (octet : UInt8) : List Char :=
  ['%', (octet.toNat / 16).digitChar, (octet.toNat % 16).digitChar]

/-- A text with every octet of it written as a percent sign and two digits. -/
def encode (text : List Char) : List Char := (Text.Utf8.encode text).flatMap encodeOctet

/-- The text that a part of a path stands for, if its octets are well formed. -/
def decodePath? (text : List Char) : Option (List Char) :=
  Text.Utf8.decode? (decodeOctets (Text.Utf8.encode text))

/-- The text that a part of a form stands for: a plus sign is a space, and octets that are not well
formed are replaced. -/
def decodeForm (text : List Char) : List Char :=
  let spaced := text.map fun c => if c = '+' then ' ' else c
  Text.Utf8.decodeLossy (decodeOctets (Text.Utf8.encode spaced))

end SwarmChart.Http.Percent
