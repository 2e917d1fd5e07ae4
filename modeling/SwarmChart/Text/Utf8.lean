/-!
# UTF-8

Octets to characters and back. A decoder reads one octet at a time and stands either between two
characters or inside one (`Place`). An octet that cannot come next at its place is refused; a text
is well formed when no octet is refused and the last character is complete.

`decode?` accepts well-formed texts only. `decodeLossy` accepts everything: each longest stretch
that could have begun a character but did not become one is replaced by U+FFFD, and reading goes on
with the octet that was refused. `encode` writes characters.
-/

set_option autoImplicit false

namespace SwarmChart.Text.Utf8

/-- Where a decoder stands between two octets. -/
inductive Place where
  /-- Between two characters. -/
  | boundary
  /-- Inside a character whose octets so far give the number `gathered`. The next of its `owed`
  octets lies between `low` and `high`, and those after it between 0x80 and 0xBF. -/
  | inside (gathered owed low high : Nat)
  deriving DecidableEq, Repr

/-- What an octet leads to. -/
inductive Move where
  /-- It ends a character. -/
  | complete (c : Char)
  /-- It belongs to a character that goes on. -/
  | await (place : Place)
  /-- It cannot stand here. -/
  | refuse
  deriving DecidableEq, Repr

/-- The move of an octet that begins a character. -/
def first (octet : Nat) : Move :=
  if octet < 0x80 then .complete (Char.ofNat octet)
  else if octet < 0xC2 then .refuse
  else if octet < 0xE0 then .await (.inside (octet - 0xC0) 1 0x80 0xBF)
  else if octet = 0xE0 then .await (.inside 0 2 0xA0 0xBF)
  else if octet = 0xED then .await (.inside 0xD 2 0x80 0x9F)
  else if octet < 0xF0 then .await (.inside (octet - 0xE0) 2 0x80 0xBF)
  else if octet = 0xF0 then .await (.inside 0 3 0x90 0xBF)
  else if octet < 0xF4 then .await (.inside (octet - 0xF0) 3 0x80 0xBF)
  else if octet = 0xF4 then .await (.inside 4 3 0x80 0x8F)
  else .refuse

/-- The move of an octet at a place. -/
def Place.move : Place → Nat → Move
  | boundary, octet => first octet
  | inside gathered owed low high, octet =>
    if low ≤ octet ∧ octet ≤ high then
      let gathered := gathered * 64 + (octet - 0x80)
      if owed ≤ 1 then .complete (Char.ofNat gathered)
      else .await (inside gathered (owed - 1) 0x80 0xBF)
    else .refuse

/-- A decoder in the middle of its work. -/
structure Decoder where
  place : Place
  /-- The characters found, the last one first. -/
  found : List Char
  deriving Repr

namespace Decoder

/-- A decoder that has read nothing. -/
def fresh : Decoder := ⟨.boundary, []⟩

/-- Reads an octet, unless it is refused. -/
def feed? (decoder : Decoder) (octet : UInt8) : Option Decoder :=
  match decoder.place.move octet.toNat with
  | .complete c => some ⟨.boundary, c :: decoder.found⟩
  | .await place => some ⟨place, decoder.found⟩
  | .refuse => none

/-- The text read, unless its last character is incomplete. -/
def finish? (decoder : Decoder) : Option (List Char) :=
  match decoder.place with
  | .boundary => some decoder.found.reverse
  | .inside .. => none

/-- Replaces what was read of an incomplete character. -/
def giveUp (decoder : Decoder) : Decoder :=
  match decoder.place with
  | .boundary => decoder
  | .inside .. => ⟨.boundary, '\uFFFD' :: decoder.found⟩

/-- Reads any octet. One that is refused ends what was read of a character and is then read as the
beginning of the next one, and is itself replaced if it cannot begin any. -/
def feedLossy (decoder : Decoder) (octet : UInt8) : Decoder :=
  match decoder.feed? octet with
  | some next => next
  | none =>
    let decoder := decoder.giveUp
    match decoder.feed? octet with
    | some next => next
    | none => ⟨.boundary, '\uFFFD' :: decoder.found⟩

end Decoder

/-- The characters of a well-formed text. -/
def decode? (octets : List UInt8) : Option (List Char) := do
  let decoder ← octets.foldlM Decoder.feed? Decoder.fresh
  decoder.finish?

/-- The characters of any octets, with replacements for what is not well formed. -/
def decodeLossy (octets : List UInt8) : List Char :=
  (octets.foldl Decoder.feedLossy Decoder.fresh).giveUp.found.reverse

/-- The octets of a text. -/
def encode (text : List Char) : List UInt8 := text.flatMap String.utf8EncodeChar

end SwarmChart.Text.Utf8
