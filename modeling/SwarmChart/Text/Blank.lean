/-!
# White space

The characters of the standard property White_Space, and the removal of such characters from both
ends of a text.
-/

set_option autoImplicit false

namespace SwarmChart.Text

/-- The code point has the property White_Space. -/
def isBlankCode (code : Nat) : Bool :=
  (9 ≤ code && code ≤ 13) || code == 0x20 || code == 0x85 || code == 0xA0 || code == 0x1680 ||
    (0x2000 ≤ code && code ≤ 0x200A) || code == 0x2028 || code == 0x2029 || code == 0x202F ||
    code == 0x205F || code == 0x3000

/-- The character is white space. -/
def isBlank (c : Char) : Bool := isBlankCode c.toNat

/-- Every character of the text is white space; so of the empty text. -/
def isBlankText (text : List Char) : Bool := text.all isBlank

/-- The text without the white space at its start. -/
def trimStart (text : List Char) : List Char := text.dropWhile isBlank

/-- The text without the white space at its end. -/
def trimEnd (text : List Char) : List Char := (text.reverse.dropWhile isBlank).reverse

/-- The text without the white space at both ends. -/
def trim (text : List Char) : List Char := trimEnd (trimStart text)

end SwarmChart.Text
