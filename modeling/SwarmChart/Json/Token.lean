import SwarmChart.Json.Numeral
import SwarmChart.Json.StringText

/-!
# The tokens of a JSON text

A text is cut into brackets, marks, words, numbers and strings (`Token.list`). Only four characters
count as white space between them. A scalar that is not written correctly is a token too, together
with its fault, because the reader may refuse it for standing at a wrong place first; such a token
is the last one of its text.

Every token takes at least one character (`next?_shortens`), which is why cutting ends.
-/

set_option autoImplicit false

namespace SwarmChart.Json

/-- A part of a JSON text. -/
inductive Token where
  | openArray
  | closeArray
  | openObject
  | closeObject
  | colon
  | comma
  /-- One of the three words, or the fault in it. -/
  | word (value : Except Fault Json)
  | number (text : Except Fault Numeral)
  | string (text : StringText.Written)
  /-- A character that begins no token. -/
  | stray

namespace Token

/-- The character is white space between tokens. -/
def isSpace (c : Char) : Bool := c = ' ' || c = '\t' || c = '\n' || c = '\r'

/-- The rest of a text behind the given characters. -/
def behind : List Char → List Char → Except Fault (List Char)
  | [], text => .ok text
  | _ :: _, [] => .error .truncated
  | expected :: later, c :: rest => if c = expected then behind later rest else .error .malformed

/-- The token of a word whose first letter has been read, and the rest of the text. -/
def wordToken (value : Json) (letters text : List Char) : Token × List Char :=
  match behind letters text with
  | .ok rest => (.word (.ok value), rest)
  | .error fault => (.word (.error fault), [])

/-- The token of a number, and the rest of the text. -/
def numberToken (text : List Char) : Token × List Char :=
  match Numeral.scan text with
  | .ok (numeral, rest) => (.number (.ok numeral), rest)
  | .error fault => (.number (.error fault), [])

/-- The token of one character, if the character is one. -/
def mark? (c : Char) : Option Token :=
  if c = '[' then some .openArray
  else if c = ']' then some .closeArray
  else if c = '\x7b' then some .openObject
  else if c = '\x7d' then some .closeObject
  else if c = ':' then some .colon
  else if c = ',' then some .comma
  else none

/-- The value whose word begins with a letter, and the other letters of that word. -/
def word? (c : Char) : Option (Json × List Char) :=
  if c = 'n' then some (.null, ['u', 'l', 'l'])
  else if c = 't' then some (.bool true, ['r', 'u', 'e'])
  else if c = 'f' then some (.bool false, ['a', 'l', 's', 'e'])
  else none

/-- The token that begins with the given character, and the text behind it. -/
def beginning (c : Char) (rest : List Char) : Token × List Char :=
  match mark? c with
  | some token => (token, rest)
  | none =>
    match word? c with
    | some (value, letters) => wordToken value letters rest
    | none =>
      if c = '"' then
        let scanned := StringText.scan rest
        (.string scanned.1, scanned.2)
      else if c = '-' ∨ c.isDigit then numberToken (c :: rest)
      else (.stray, [])

/-- The first token of a text and the text behind it. -/
def next? (text : List Char) : Option (Token × List Char) :=
  match text.dropWhile isSpace with
  | [] => none
  | c :: rest => some (beginning c rest)

theorem length_of_behind {letters text rest : List Char} (h : behind letters text = .ok rest) :
    rest.length ≤ text.length := by
  fun_induction behind letters text with
  | case1 text =>
    cases h
    exact Nat.le_refl _
  | case2 => cases h
  | case3 letters c text ih => exact Nat.le_succ_of_le (ih h)
  | case4 => cases h

theorem length_wordToken_le (value : Json) (letters text : List Char) :
    (wordToken value letters text).2.length ≤ text.length := by
  unfold wordToken
  split
  · next found => exact length_of_behind found
  · exact Nat.zero_le _

theorem length_numberToken_lt (c : Char) (rest : List Char) :
    (numberToken (c :: rest)).2.length < (c :: rest).length := by
  unfold numberToken
  split
  · next found => exact Numeral.length_of_scan found
  · exact Nat.zero_lt_succ _

theorem length_beginning_le (c : Char) (rest : List Char) :
    (beginning c rest).2.length ≤ rest.length := by
  unfold beginning
  split
  · exact Nat.le_refl _
  · split
    · exact length_wordToken_le _ _ _
    · split
      · exact StringText.length_scanFrom_le [] rest
      · split
        · exact Nat.le_of_lt_succ (length_numberToken_lt c rest)
        · exact Nat.zero_le _

/-- Every token takes at least one character, so cutting a text ends. -/
theorem next?_shortens {text rest : List Char} {token : Token}
    (h : next? text = some (token, rest)) : rest.length < text.length := by
  have front : (text.dropWhile isSpace).length ≤ text.length :=
    (List.dropWhile_sublist _).length_le
  unfold next? at h
  split at h
  · cases h
  · next c later found =>
    have shorter := length_beginning_le c later
    rw [found, List.length_cons] at front
    simp only [Option.some.injEq] at h
    rw [h] at shorter
    exact Nat.lt_of_le_of_lt shorter front

/-- The tokens of a text behind those already found, the last one first. -/
def listFrom (found : List Token) (text : List Char) : List Token :=
  match _found : next? text with
  | none => found.reverse
  | some (token, rest) => listFrom (token :: found) rest
termination_by text.length
decreasing_by exact next?_shortens _found

/-- The tokens of a text. -/
def list (text : List Char) : List Token := listFrom [] text

end Token

end SwarmChart.Json
