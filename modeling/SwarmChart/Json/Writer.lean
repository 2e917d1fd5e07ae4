import SwarmChart.Json
import SwarmChart.Decimal.Layout

/-!
# Writing a JSON value

The compact form of a value: no white space, members in the order in which the object holds them,
numbers in their shortest digits. In a string only the quote, the backslash and control characters
are escaped.
-/

set_option autoImplicit false

namespace SwarmChart.Json

/-- Numbers with a fraction have all their places from a hundred-thousandth up to sixteen digits
before the point, and an exponent with a sign beyond. A whole one ends in a point and a zero, and
what is no finite number is null. -/
def floatLayout : Decimal.Layout where
  leastPlain := -5
  greatestPlain := 15
  wholeMark := ['.', '0']
  positiveMark := ['e', '+']
  negativeMark := ['e', '-']
  missing := ['n', 'u', 'l', 'l']

/-- A number with a fraction. -/
def writeFloat (x : Float) : List Char := floatLayout.write x

/-- A whole number. -/
def writeInt (n : Int) : List Char :=
  if n < 0 then '-' :: Decimal.digits n.natAbs else Decimal.digits n.natAbs

/-- A control character by its number. -/
def writeUnit (c : Char) : List Char :=
  let code := c.toNat
  ['\\', 'u', '0', '0', (code / 16).digitChar, (code % 16).digitChar]

/-- A character inside a string. -/
def writeChar (c : Char) : List Char :=
  if c = '"' then ['\\', '"']
  else if c = '\\' then ['\\', '\\']
  else if c = '\x08' then ['\\', 'b']
  else if c = '\x0c' then ['\\', 'f']
  else if c = '\n' then ['\\', 'n']
  else if c = '\r' then ['\\', 'r']
  else if c = '\t' then ['\\', 't']
  else if c.toNat < 0x20 then writeUnit c
  else [c]

/-- A string. -/
def writeString (text : String) : List Char := '"' :: (text.toList.flatMap writeChar ++ ['"'])

mutual

/-- The characters of a value. -/
def writeChars : Json → List Char
  | .null => ['n', 'u', 'l', 'l']
  | .bool true => ['t', 'r', 'u', 'e']
  | .bool false => ['f', 'a', 'l', 's', 'e']
  | .int n => writeInt n
  | .float x => writeFloat x
  | .str text => writeString text
  | .arr items => '[' :: (writeItems items ++ [']'])
  | .obj members => '\x7b' :: (writeMembers members ++ ['\x7d'])

/-- The items of an array with commas between them. -/
def writeItems : List Json → List Char
  | [] => []
  | [item] => writeChars item
  | item :: rest => writeChars item ++ ',' :: writeItems rest

/-- The members of an object with commas between them. -/
def writeMembers : List (String × Json) → List Char
  | [] => []
  | [(key, value)] => writeString key ++ ':' :: writeChars value
  | (key, value) :: rest => writeString key ++ ':' :: writeChars value ++ ',' :: writeMembers rest

end

/-- The text of a value. -/
def write (value : Json) : String := String.ofList (writeChars value)

end SwarmChart.Json
