import SwarmChart.Text.Utf8

/-!
# Decoding undoes encoding

`decode?_encode` says that the octets of any text are well formed and give that text back. It comes
from the one step `foldlM_feed?_utf8EncodeChar`: the octets of a character take a decoder from one
boundary to the next, with that character found.
-/

set_option autoImplicit false

namespace SwarmChart.Text.Utf8

/-! ## Moves -/

theorem move_boundary_two {lead : Nat} (least : 2 ≤ lead) (most : lead < 32) :
    Place.boundary.move (lead + 192) = .await (.inside lead 1 128 191) := by
  rw [Place.move, first, if_neg (by omega), if_neg (by omega), if_pos (by omega),
    Nat.add_sub_cancel]

/-- The lead of three octets, after which longer forms and surrogates are ruled out. -/
theorem move_boundary_three {lead : Nat} (most : lead < 16) :
    Place.boundary.move (lead + 224) = .await (.inside lead 2 (if lead = 0 then 160 else 128)
      (if lead = 13 then 159 else 191)) := by
  rw [Place.move, first, if_neg (by omega), if_neg (by omega), if_neg (by omega)]
  by_cases zero : lead = 0
  · subst zero
    rfl
  by_cases thirteen : lead = 13
  · subst thirteen
    rfl
  rw [if_neg (by omega), if_neg (by omega), if_pos (by omega), if_neg zero, if_neg thirteen,
    Nat.add_sub_cancel]

/-- The lead of four octets, after which longer forms and what is beyond the last code point are
ruled out. -/
theorem move_boundary_four {lead : Nat} (most : lead ≤ 4) :
    Place.boundary.move (lead + 240) = .await (.inside lead 3 (if lead = 0 then 144 else 128)
      (if lead = 4 then 143 else 191)) := by
  rw [Place.move, first, if_neg (by omega), if_neg (by omega), if_neg (by omega),
    if_neg (by omega), if_neg (by omega), if_neg (by omega)]
  by_cases zero : lead = 0
  · subst zero
    rfl
  by_cases four : lead = 4
  · subst four
    rfl
  rw [if_neg (by omega), if_pos (by omega), if_neg zero, if_neg four, Nat.add_sub_cancel]

theorem move_inside_last {gathered low high octet : Nat} (inside : low ≤ octet ∧ octet ≤ high) :
    (Place.inside gathered 1 low high).move octet
      = .complete (Char.ofNat (gathered * 64 + (octet - 128))) := by
  simp only [Place.move, if_pos inside]
  rfl

theorem move_inside_next {gathered owed low high octet : Nat}
    (inside : low ≤ octet ∧ octet ≤ high) :
    (Place.inside gathered (owed + 2) low high).move octet
      = .await (.inside (gathered * 64 + (octet - 128)) (owed + 1) 128 191) := by
  simp only [Place.move, if_pos inside]
  rfl

/-! ## Steps of a decoder -/

theorem toNat_ofNat {octet : Nat} (h : octet < 256) : (UInt8.ofNat octet).toNat = octet := by
  rw [UInt8.toNat_ofNat']
  exact Nat.mod_eq_of_lt h

theorem feed?_complete {place : Place} {octet : Nat} {c : Char} (found : List Char)
    (h : octet < 256) (moved : place.move octet = .complete c) :
    Decoder.feed? ⟨place, found⟩ (UInt8.ofNat octet) = some ⟨.boundary, c :: found⟩ := by
  simp only [Decoder.feed?, toNat_ofNat h, moved]

theorem feed?_await {place next : Place} {octet : Nat} (found : List Char)
    (h : octet < 256) (moved : place.move octet = .await next) :
    Decoder.feed? ⟨place, found⟩ (UInt8.ofNat octet) = some ⟨next, found⟩ := by
  simp only [Decoder.feed?, toNat_ofNat h, moved]

/-- The octets of a character take a decoder from one boundary to the next. -/
theorem foldlM_feed?_utf8EncodeChar (found : List Char) (c : Char) :
    (String.utf8EncodeChar c).foldlM Decoder.feed? ⟨.boundary, found⟩
      = some ⟨.boundary, c :: found⟩ := by
  have range : c.toNat < 0xD800 ∨ (0xDFFF < c.toNat ∧ c.toNat < 0x110000) := c.valid
  have back : Char.ofNat c.toNat = c := Char.ofNat_toNat c
  unfold String.utf8EncodeChar
  simp only [show c.val.toNat = c.toNat from rfl]
  generalize c.toNat = code at *
  subst back
  simp only [apply_ite (List.foldlM Decoder.feed? _), List.foldlM_cons, List.foldlM_nil,
    Option.bind_eq_bind]
  split
  · next one =>
    have moved : Place.boundary.move code = .complete (Char.ofNat code) := if_pos (by omega)
    rw [feed?_complete found (by omega) moved]
    rfl
  split
  · next two =>
    rw [show code / 64 % 32 = code / 64 by omega,
      feed?_await found (by omega) (move_boundary_two (by omega) (by omega)), Option.bind_some,
      feed?_complete found (by omega) (move_inside_last (by omega)),
      show code / 64 * 64 + (code % 64 + 128 - 128) = code by omega]
    rfl
  split
  · next three =>
    rw [show code / 4096 % 16 = code / 4096 by omega,
      feed?_await found (by omega) (move_boundary_three (by omega)), Option.bind_some,
      feed?_await found (by omega) (move_inside_next (by split <;> split <;> omega)),
      Option.bind_some, feed?_complete found (by omega) (move_inside_last (by omega)),
      show (code / 4096 * 64 + (code / 64 % 64 + 128 - 128)) * 64 + (code % 64 + 128 - 128)
        = code by omega]
    rfl
  · next four =>
    rw [show code / 262144 % 8 = code / 262144 by omega,
      feed?_await found (by omega) (move_boundary_four (by omega)), Option.bind_some,
      feed?_await found (by omega) (move_inside_next (by split <;> split <;> omega)),
      Option.bind_some, feed?_await found (by omega) (move_inside_next (by omega)),
      Option.bind_some, feed?_complete found (by omega) (move_inside_last (by omega)),
      show ((code / 262144 * 64 + (code / 4096 % 64 + 128 - 128)) * 64
        + (code / 64 % 64 + 128 - 128)) * 64 + (code % 64 + 128 - 128) = code by omega]
    rfl

/-- The octets of a text lead from one boundary to the next and find the text. -/
theorem foldlM_feed?_encode (found text : List Char) :
    (encode text).foldlM Decoder.feed? ⟨.boundary, found⟩
      = some ⟨.boundary, text.reverse ++ found⟩ := by
  induction text generalizing found with
  | nil => rfl
  | cons c rest ih =>
    rw [encode, List.flatMap_cons, List.foldlM_append, foldlM_feed?_utf8EncodeChar,
      Option.bind_eq_bind, Option.bind_some, List.reverse_cons, List.append_assoc]
    exact ih (c :: found)

/-- Every text is decoded from its octets. -/
theorem decode?_encode (text : List Char) : decode? (encode text) = some text := by
  rw [decode?, Decoder.fresh, foldlM_feed?_encode, Option.bind_eq_bind, Option.bind_some,
    Decoder.finish?, List.append_nil, List.reverse_reverse]

/-- Where no octet is refused, there is nothing to replace. -/
theorem foldl_feedLossy_of_foldlM {octets : List UInt8} {decoder next : Decoder}
    (h : octets.foldlM Decoder.feed? decoder = some next) :
    octets.foldl Decoder.feedLossy decoder = next := by
  induction octets generalizing decoder with
  | nil =>
    cases h
    rfl
  | cons octet rest ih =>
    rw [List.foldlM_cons] at h
    cases fed : decoder.feed? octet with
    | none =>
      rw [fed] at h
      cases h
    | some moved =>
      have step : decoder.feedLossy octet = moved := by rw [Decoder.feedLossy, fed]
      rw [fed] at h
      rw [List.foldl_cons, step]
      exact ih h

/-- Nothing of a text is replaced. -/
theorem decodeLossy_encode (text : List Char) : decodeLossy (encode text) = text := by
  rw [decodeLossy, Decoder.fresh, foldl_feedLossy_of_foldlM (foldlM_feed?_encode [] text),
    Decoder.giveUp, List.append_nil, List.reverse_reverse]

end SwarmChart.Text.Utf8
