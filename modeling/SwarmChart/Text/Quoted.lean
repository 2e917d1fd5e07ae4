import SwarmChart.Text.Printable

/-!
# Quoted text in messages

The form in which a message shows a text that a user wrote: between double quotes, with a backslash
before a quote, a backslash and the usual control characters, and with a number in braces in place
of every other character that would not show itself.
-/

set_option autoImplicit false

namespace SwarmChart.Text

/-- A code point in the fewest hexadecimal digits, in braces. -/
def numbered (c : Char) : List Char :=
  '\\' :: 'u' :: '\x7b' :: (Nat.toDigits 16 c.toNat ++ ['\x7d'])

/-- One character inside quotes. -/
def quotedChar (c : Char) : List Char :=
  if c = '"' then ['\\', '"']
  else if c = '\\' then ['\\', '\\']
  else if c = '\n' then ['\\', 'n']
  else if c = '\r' then ['\\', 'r']
  else if c = '\t' then ['\\', 't']
  else if c.toNat = 0 then ['\\', '0']
  else if isExtending c || !isPrintable c then numbered c
  else [c]

/-- A text in quotes. -/
def quoted (text : List Char) : List Char := '"' :: (text.flatMap quotedChar ++ ['"'])

end SwarmChart.Text
