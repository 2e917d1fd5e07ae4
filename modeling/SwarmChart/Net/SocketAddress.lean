import SwarmChart.Text.Reader

/-!
# Socket addresses

The address of a host and the number of one of its ports, in the usual notations. The four numbers
of a short address have at most three digits and no leading zeros. A long address has eight groups
of at most four hexadecimal digits, of which one run of zero groups may be left out between two
colons, and the last two of which may be written as a short address; it stands in brackets, with a
scope behind a percent sign if it has one. `SocketAddress.write` leaves out the longest run of zero
groups.
-/

set_option autoImplicit false

namespace SwarmChart.Net

/-- The four octets of a short address. -/
structure Quad where
  first : Nat
  second : Nat
  third : Nat
  fourth : Nat
  deriving DecidableEq, Repr

/-- The two groups that a short address fills. -/
def Quad.groups (octets : Quad) : List Nat :=
  [octets.first * 256 + octets.second, octets.third * 256 + octets.fourth]

/-- The address of a host. -/
inductive Host where
  | short (octets : Quad)
  /-- Eight groups of sixteen bits, and a scope, zero standing for none. -/
  | long (groups : List Nat) (scope : Nat)
  deriving DecidableEq, Repr

/-- A host and the number of one of its ports. -/
structure SocketAddress where
  host : Host
  portNumber : Nat
  deriving DecidableEq, Repr

open Text (Reader)
open Text.Reader (literal longNumber)

namespace SocketAddress

/-- Reads a number below a bound, with any number of leading zeros. -/
def numberBelow (bound : Nat) : Reader Nat := fun text => do
  let (number, text) ← longNumber text
  if number < bound then some (number, text) else none

/-- Reads one of the four numbers of a short address. -/
def octet : Reader Nat := fun text =>
  match Decimal.run text with
  | [] => none
  | '0' :: _ :: _ => none
  | digits =>
    if digits.length ≤ 3 ∧ Decimal.value digits < 256 then
      some (Decimal.value digits, text.drop digits.length)
    else none

/-- Reads a short address. -/
def shortAddress : Reader Quad := fun text => do
  let (a, text) ← octet text
  let (_, text) ← literal '.' text
  let (b, text) ← octet text
  let (_, text) ← literal '.' text
  let (c, text) ← octet text
  let (_, text) ← literal '.' text
  let (d, text) ← octet text
  some (⟨a, b, c, d⟩, text)

/-- The hexadecimal digits at the start of a text. -/
def hexRun (text : List Char) : List Char := text.takeWhile fun c => (Text.hexDigit? c).isSome

/-- The number that hexadecimal digits write. -/
def hexValue (digits : List Char) : Nat :=
  digits.foldl (fun value c => 16 * value + (Text.hexDigit? c).getD 0) 0

/-- Reads a group of a long address. -/
def group : Reader Nat := fun text =>
  match hexRun text with
  | [] => none
  | digits =>
    if digits.length ≤ 4 then some (hexValue digits, text.drop digits.length) else none

/-- A row of groups at the start of a text. -/
structure Row where
  groups : List Nat
  /-- The row ends in a short address. -/
  endsShort : Bool
  rest : List Char

/-- The longest row of groups with colons between them for which there is room. A short address
needs the room of two groups and ends the row. -/
def row : (room : Nat) → (first : Bool) → List Char → Row
  | 0, _, text => ⟨[], false, text⟩
  | room + 1, first, text =>
    -- A row that cannot go on ends before its colon, which stays in the rest.
    match if first then some ((), text) else literal ':' text with
    | none => ⟨[], false, text⟩
    | some (_, body) =>
      match if 0 < room then shortAddress body else none with
      | some (octets, rest) => ⟨octets.groups, true, rest⟩
      | none =>
        match group body with
        | none => ⟨[], false, text⟩
        | some (value, rest) =>
          let later := row room false rest
          { later with groups := value :: later.groups }

/-- Reads a long address. Two colons stand for at least one group of zeros. -/
def longAddress : Reader (List Nat) := fun text =>
  let head := row 8 true text
  -- A short address can only end the whole, so nothing may be left out behind it.
  if head.groups.length = 8 then some (head.groups, head.rest)
  else if head.endsShort then none
  else
    match head.rest with
    | ':' :: ':' :: rest =>
      let tail := row (7 - head.groups.length) true rest
      let zeros := 8 - head.groups.length - tail.groups.length
      some (head.groups ++ List.replicate zeros 0 ++ tail.groups, tail.rest)
    | _ => none

/-- Reads the number behind an address, which a colon sets off. -/
def numberBehind : Reader Nat := fun text => do
  let (_, text) ← literal ':' text
  numberBelow 65536 text

/-- Reads a scope, if there is one. -/
def scope (text : List Char) : Nat × List Char :=
  match text with
  | '%' :: rest => (numberBelow 4294967296 rest).getD (0, text)
  | _ => (0, text)

/-- Reads a short address with its number. -/
def readShort : Reader SocketAddress := fun text => do
  let (octets, text) ← shortAddress text
  let (number, text) ← numberBehind text
  some (⟨.short octets, number⟩, text)

/-- Reads a long address with its number. -/
def readLong : Reader SocketAddress := fun text => do
  let (_, text) ← literal '[' text
  let (groups, text) ← longAddress text
  let (scope, text) := scope text
  let (_, text) ← literal ']' text
  let (number, text) ← numberBehind text
  some (⟨.long groups scope, number⟩, text)

/-- The socket address that a whole text writes. -/
def read (text : List Char) : Option SocketAddress :=
  match (readShort text).or (readLong text) with
  | some (address, []) => some address
  | _ => none

/-- Parts with a mark between them. -/
def joined (between : Char) : List (List Char) → List Char
  | [] => []
  | [part] => part
  | part :: rest => part ++ between :: joined between rest

/-- The numbers of a short address. -/
def writeShort (octets : Quad) : List Char :=
  joined '.' ([octets.first, octets.second, octets.third, octets.fourth].map Decimal.digits)

/-- Groups with colons between them. -/
def writeGroups (groups : List Nat) : List Char := joined ':' (groups.map (Nat.toDigits 16))

/-- The number of zero groups at the start of a row. -/
def zerosAt (groups : List Nat) : Nat := (groups.takeWhile (· = 0)).length

/-- Where the longest run of zero groups begins, the first one of several, and its length. -/
def longestZeros (groups : List Nat) : Nat × Nat :=
  (List.range groups.length).foldl
    (fun best start =>
      let length := zerosAt (groups.drop start)
      if best.2 < length then (start, length) else best) (0, 0)

/-- A long address. One that holds a short address behind ten zero octets and two full ones shows
it as such. -/
def writeLong (groups : List Nat) : List Char :=
  match groups with
  | [0, 0, 0, 0, 0, 0xFFFF, a, b] =>
    "::ffff:".toList ++ writeShort ⟨a / 256, a % 256, b / 256, b % 256⟩
  | _ =>
    let (start, length) := longestZeros groups
    if 1 < length then
      writeGroups (groups.take start) ++ "::".toList ++ writeGroups (groups.drop (start + length))
    else writeGroups groups

/-- The characters of a socket address. -/
def writeChars (address : SocketAddress) : List Char :=
  let host :=
    match address.host with
    | .short octets => writeShort octets
    | .long groups scope =>
      '[' :: writeLong groups ++ (if scope = 0 then [] else '%' :: Decimal.digits scope) ++ [']']
  host ++ ':' :: Decimal.digits address.portNumber

/-- The text of a socket address. -/
def write (address : SocketAddress) : String := String.ofList address.writeChars

end SocketAddress

end SwarmChart.Net
