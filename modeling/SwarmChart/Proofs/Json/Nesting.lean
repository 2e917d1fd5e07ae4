import SwarmChart.Proofs.Text.Utf8

/-!
# Where a container ends

The end of the outermost container of a JSON text can be told without its values: brackets outside
strings open and close containers, and the outermost one ends with the bracket that leaves none open
(`closing?`). This is a matter of octets. Every octet of a character beyond U+007F is beyond 0x7F,
where no bracket, quote or escape is, so it comes to the same as passing the text character by
character (`passOctets_encode`).
-/

set_option autoImplicit false

namespace SwarmChart.Json

/-- How a place of a text lies to the containers and strings in it. -/
inductive Nesting where
  /-- Outside strings, inside a number of containers. -/
  | outside (depth : Nat)
  /-- Inside a string. -/
  | inside (depth : Nat)
  /-- Inside a string, behind the mark of an escape. -/
  | escaped (depth : Nat)
  /-- Behind the outermost container. -/
  | behind
  deriving DecidableEq, Repr

namespace Nesting

/-- Goes past an octet. -/
def step (nesting : Nesting) (octet : Nat) : Nesting :=
  match nesting with
  | outside depth =>
    if octet = 0x22 then inside depth
    else if octet = 0x5B ∨ octet = 0x7B then outside (depth + 1)
    else if octet = 0x5D ∨ octet = 0x7D then
      if depth = 1 then behind else outside (depth - 1)
    else outside depth
  | inside depth =>
    if octet = 0x22 then outside depth
    else if octet = 0x5C then escaped depth
    else inside depth
  | escaped depth => inside depth
  | behind => behind

/-- The number of octets up to the end of the outermost container. -/
def closingFrom : Nesting → List UInt8 → Option Nat
  | behind, _ => some 0
  | _, [] => none
  | nesting, octet :: rest => (closingFrom (nesting.step octet.toNat) rest).map (· + 1)

/-- Goes past octets. -/
def passOctets (nesting : Nesting) (octets : List UInt8) : Nesting :=
  octets.foldl (fun nesting octet => nesting.step octet.toNat) nesting

/-- Goes past a text. -/
def pass (nesting : Nesting) (text : List Char) : Nesting :=
  text.foldl (fun nesting c => nesting.step c.toNat) nesting

end Nesting

/-- The number of octets of a JSON text up to the end of its outermost container, that end
included. -/
def closing? (octets : List UInt8) : Option Nat := Nesting.closingFrom (.outside 0) octets

namespace Nesting

open Text

theorem pass_cons (nesting : Nesting) (c : Char) (text : List Char) :
    nesting.pass (c :: text) = (nesting.step c.toNat).pass text := rfl

theorem pass_append (nesting : Nesting) (front back : List Char) :
    nesting.pass (front ++ back) = (nesting.pass front).pass back := List.foldl_append

/-! ## Octets of a text -/

/-- The place behind an octet beyond 0x7F. -/
def beyondAscii : Nesting → Nesting
  | escaped depth => inside depth
  | nesting => nesting

theorem step_of_le (nesting : Nesting) {octet : Nat} (h : 128 ≤ octet) :
    nesting.step octet = nesting.beyondAscii := by
  unfold step beyondAscii
  cases nesting with
  | outside depth =>
    dsimp only
    rw [if_neg (by omega), if_neg (by omega), if_neg (by omega)]
  | inside depth =>
    dsimp only
    rw [if_neg (by omega), if_neg (by omega)]
  | escaped depth => rfl
  | behind => rfl

theorem passOctets_of_le (nesting : Nesting) {octets : List UInt8} (some_octet : octets ≠ [])
    (h : ∀ octet ∈ octets, 128 ≤ octet.toNat) :
    nesting.passOctets octets = nesting.beyondAscii := by
  induction octets generalizing nesting with
  | nil => exact absurd rfl some_octet
  | cons octet rest ih =>
    have first := nesting.step_of_le (h octet List.mem_cons_self)
    have others := fun other member => h other (List.mem_cons_of_mem octet member)
    rw [passOctets, List.foldl_cons, first]
    by_cases last : rest = []
    · rw [last]
      rfl
    · -- One such octet more changes nothing.
      have settled : nesting.beyondAscii.beyondAscii = nesting.beyondAscii := by
        cases nesting <;> rfl
      exact (ih nesting.beyondAscii last others).trans settled

/-- Going past the octets of a character is going past the character. -/
theorem passOctets_utf8EncodeChar (nesting : Nesting) (c : Char) :
    nesting.passOctets (String.utf8EncodeChar c) = nesting.step c.toNat := by
  rcases Nat.lt_or_ge c.toNat 128 with ascii | beyond
  · have number : (UInt8.ofNat c.toNat).toNat = c.toNat := Utf8.toNat_ofNat (by omega)
    rw [Utf8.utf8EncodeChar_of_ascii ascii, passOctets, List.foldl_cons, number]
    rfl
  · have some_octet : String.utf8EncodeChar c ≠ [] := by
      intro none
      have length := String.length_utf8EncodeChar c
      rw [none] at length
      exact absurd length (Nat.ne_of_lt c.utf8Size_pos)
    rw [nesting.step_of_le beyond]
    exact nesting.passOctets_of_le some_octet fun _ => Utf8.le_of_mem_utf8EncodeChar beyond

/-- Going past the octets of a text is going past its characters. -/
theorem passOctets_encode (nesting : Nesting) (text : List Char) :
    nesting.passOctets (Utf8.encode text) = nesting.pass text := by
  induction text generalizing nesting with
  | nil => rfl
  | cons c rest ih =>
    rw [pass_cons, ← ih, ← passOctets_utf8EncodeChar]
    exact List.foldl_append

/-! ## The end -/

theorem passOctets_behind (octets : List UInt8) : behind.passOctets octets = behind := by
  induction octets with
  | nil => rfl
  | cons octet rest ih => exact ih

/-- The end is looked for behind whatever does not contain it. -/
theorem closingFrom_append {nesting : Nesting} {front : List UInt8}
    (goes : nesting.passOctets front ≠ behind) (rest : List UInt8) :
    nesting.closingFrom (front ++ rest) =
      ((nesting.passOctets front).closingFrom rest).map (· + front.length) := by
  induction front generalizing nesting with
  | nil => exact (Option.map_id' (x := nesting.closingFrom rest)).symm
  | cons octet others ih =>
    have before : nesting ≠ behind := by
      rintro rfl
      exact goes (passOctets_behind _)
    rw [List.cons_append, closingFrom, ih goes, Option.map_map]
    · rfl
    · exact before

/-- The bracket that ends the only open container ends the outermost one. -/
theorem closingFrom_encode {nesting : Nesting} {front : List Char}
    (only : nesting.pass front = outside 1) {c : Char} (closes : c = ']' ∨ c = '\x7d')
    (rest : List Char) :
    nesting.closingFrom (Utf8.encode (front ++ c :: rest)) =
      some (Utf8.encode (front ++ [c])).length := by
  have passed : nesting.passOctets (Utf8.encode front) = outside 1 := by
    rw [passOctets_encode, only]
  have goes : nesting.passOctets (Utf8.encode front) ≠ behind := by
    rw [passed]
    exact nofun
  -- Both brackets are single octets, and the first octet that leads behind everything is counted.
  have bracket : ∃ octet, String.utf8EncodeChar c = [octet] ∧
      (outside 1).step octet.toNat = behind := by
    rcases closes with rfl | rfl
    · exact ⟨0x5D, rfl, rfl⟩
    · exact ⟨0x7D, rfl, rfl⟩
  obtain ⟨octet, one, ends⟩ := bracket
  have whole : Utf8.encode (front ++ c :: rest) =
      Utf8.encode front ++ octet :: Utf8.encode rest := by
    rw [Utf8.encode_append]
    simp [Utf8.encode, one]
  have upTo : Utf8.encode (front ++ [c]) = Utf8.encode front ++ [octet] := by
    rw [Utf8.encode_append]
    simp [Utf8.encode, one]
  rw [whole, upTo, closingFrom_append goes, passed, closingFrom, ends, closingFrom,
    List.length_append, Nat.add_comm]
  · rfl
  · exact nofun

end Nesting

end SwarmChart.Json
