import SwarmChart.Json
import SwarmChart.Text.Reader

/-!
# Strings in a JSON text

A written string is a row of pieces: characters that stand for themselves or are named by a short
escape, and numbered 16-bit units (`scan`). `assemble` joins the pieces to a text and requires that
the units for a character beyond U+FFFF come in pairs. Where a string is only passed over, the
scan alone decides, so unpaired units do no harm there.
-/

set_option autoImplicit false

namespace SwarmChart.Json.StringText

/-- A part of a written string. -/
inductive Piece where
  | char (c : Char)
  /-- A numbered 16-bit unit. -/
  | unit (value : Nat)
  deriving DecidableEq, Repr

/-- The pieces of a string up to its closing quote or its first fault. -/
structure Written where
  pieces : List Piece
  /-- The fault that ended the string early, if one did. -/
  fault : Option Fault
  deriving DecidableEq, Repr

/-- The character that a short escape names. -/
def shortEscape? : Char → Option Char
  | '"' => some '"'
  | '\\' => some '\\'
  | '/' => some '/'
  | 'b' => some '\x08'
  | 'f' => some '\x0c'
  | 'n' => some '\n'
  | 'r' => some '\r'
  | 't' => some '\t'
  | _ => none

/-- The unit that four hexadecimal digits number. -/
def unit? (a b c d : Char) : Option Nat := do
  let a ← Text.hexDigit? a
  let b ← Text.hexDigit? b
  let c ← Text.hexDigit? c
  let d ← Text.hexDigit? d
  some (((a * 16 + b) * 16 + c) * 16 + d)

/-- The fault of fewer than four characters where four digits are due. What counts as the end of
the text is fewer than four octets of it. -/
def shortOfDigits (text : List Char) : Fault :=
  if text.foldl (fun octets c => octets + c.utf8Size) 0 < 4 then .truncated else .malformed

/-- Reads a string from behind its opening quote, after the pieces already found, the last one
first, and returns what was written and the rest of the text. After a fault there is no rest. -/
def scanFrom (found : List Piece) : List Char → Written × List Char
  | [] => (⟨found.reverse, some .truncated⟩, [])
  | '"' :: rest => (⟨found.reverse, none⟩, rest)
  | '\\' :: [] => (⟨found.reverse, some .truncated⟩, [])
  -- Four characters behind the mark are the digits of a unit, whatever else they could begin.
  | '\\' :: 'u' :: a :: b :: c :: d :: rest =>
    match unit? a b c d with
    | some value => scanFrom (.unit value :: found) rest
    | none => (⟨found.reverse, some .malformed⟩, [])
  | '\\' :: 'u' :: rest => (⟨found.reverse, some (shortOfDigits rest)⟩, [])
  | '\\' :: mark :: rest =>
    match shortEscape? mark with
    | some c => scanFrom (.char c :: found) rest
    | none => (⟨found.reverse, some .malformed⟩, [])
  | c :: rest =>
    if c.toNat < 0x20 then (⟨found.reverse, some .malformed⟩, [])
    else scanFrom (.char c :: found) rest

/-- Reads a string from behind its opening quote. -/
def scan (text : List Char) : Written × List Char := scanFrom [] text

theorem length_scanFrom_le (found : List Piece) (text : List Char) :
    (scanFrom found text).2.length ≤ text.length := by
  fun_induction scanFrom found text <;> simp_all <;> omega

/-- The unit is the first of a pair. -/
def isLeading (value : Nat) : Bool := 0xD800 ≤ value && value ≤ 0xDBFF

/-- The unit is the second of a pair. -/
def isTrailing (value : Nat) : Bool := 0xDC00 ≤ value && value ≤ 0xDFFF

/-- The character of a pair of units. -/
def pairChar (leading trailing : Nat) : Char :=
  Char.ofNat (0x10000 + (leading - 0xD800) * 0x400 + (trailing - 0xDC00))

/-- Joins pieces behind the characters already joined, the last one first. A first unit whose
second one is missing is at fault where the next piece stands, and so gives way to the fault that
ended the string there. -/
def assembleFrom (joined : List Char) (fault : Option Fault) :
    List Piece → Except Fault (List Char)
  | [] =>
    match fault with
    | some fault => .error fault
    | none => .ok joined.reverse
  | .char c :: rest => assembleFrom (c :: joined) fault rest
  -- The last piece: whether a second unit would have followed is decided by the fault, if any.
  | [.unit value] =>
    if isTrailing value then .error .malformed
    else if isLeading value then .error (fault.getD .malformed)
    else assembleFrom (Char.ofNat value :: joined) fault []
  | .unit value :: .char c :: rest =>
    if isTrailing value || isLeading value then .error .malformed
    else assembleFrom (c :: Char.ofNat value :: joined) fault rest
  | .unit value :: .unit next :: rest =>
    if isTrailing value then .error .malformed
    else if isLeading value then
      if isTrailing next then assembleFrom (pairChar value next :: joined) fault rest
      else .error .malformed
    else assembleFrom (Char.ofNat value :: joined) fault (.unit next :: rest)

/-- The text that a written string stands for. -/
def assemble (written : Written) : Except Fault String :=
  (assembleFrom [] written.fault written.pieces).map String.ofList

end SwarmChart.Json.StringText
