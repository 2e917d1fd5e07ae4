import SwarmChart.Http.Target
import SwarmChart.Proofs.Text.Utf8

/-!
# Names in a path

A text in which every octet of a name is written as a percent sign and two digits of either case
spells that name (`Percent.Spells`). Such a text is read back as the name
(`Percent.decodePath?_of_spells`), and since no separator of a target is in it, a path that ends in
it leads to the item of that name, with any query behind it (`Target.ofText_append`,
`Route.ofPath?_item`).
-/

set_option autoImplicit false

namespace SwarmChart.Http

namespace Percent

/-- The text writes every one of the octets as a percent sign and two digits. -/
inductive Spells : List Char → List UInt8 → Prop where
  | nil : Spells [] []
  | cons {octet : UInt8} {high low : Char} {text : List Char} {octets : List UInt8}
      (first : Text.hexDigit? high = some (octet.toNat / 16))
      (second : Text.hexDigit? low = some (octet.toNat % 16))
      (others : Spells text octets) : Spells ('%' :: high :: low :: text) (octet :: octets)

theorem spells_flatMap_encodeOctet (octets : List UInt8) :
    Spells (octets.flatMap encodeOctet) octets := by
  induction octets with
  | nil => exact Spells.nil
  | cons octet rest ih =>
    have bound : octet.toNat < 256 := octet.toNat_lt
    apply Spells.cons
    · exact Text.hexDigit?_digitChar _ (by omega)
    · exact Text.hexDigit?_digitChar _ (by omega)
    · exact ih

/-- Every text has a spelling: the one in which it is encoded. -/
theorem spells_encode (text : List Char) : Spells (encode text) (Text.Utf8.encode text) :=
  spells_flatMap_encodeOctet _

/-- A digit is a decimal digit or one of the first six letters in either case. -/
theorem toNat_of_hexDigit? {c : Char} {digit : Nat} (h : Text.hexDigit? c = some digit) :
    (48 ≤ c.toNat ∧ c.toNat ≤ 57) ∨ (97 ≤ c.toNat ∧ c.toNat ≤ 102) ∨
      (65 ≤ c.toNat ∧ c.toNat ≤ 70) := by
  unfold Text.hexDigit? at h
  split at h
  · next decimal => exact Or.inl decimal
  split at h
  · next small => exact Or.inr (Or.inl small)
  split at h
  · next capital => exact Or.inr (Or.inr capital)
  · cases h

/-- Two digits in either case are read as the octet that they write. -/
theorem octet?_of_hexDigit? {octet : UInt8} {high low : Char}
    (first : Text.hexDigit? high = some (octet.toNat / 16))
    (second : Text.hexDigit? low = some (octet.toNat % 16)) :
    octet? (UInt8.ofNat high.toNat) (UInt8.ofNat low.toNat) = some octet := by
  have highBound := toNat_of_hexDigit? first
  have lowBound := toNat_of_hexDigit? second
  have whole : octet.toNat / 16 * 16 + octet.toNat % 16 = octet.toNat := by omega
  rw [octet?, Text.Utf8.toNat_ofNat (by omega), Text.Utf8.toNat_ofNat (by omega),
    Char.ofNat_toNat, Char.ofNat_toNat, first, second]
  simp only [Option.bind_eq_bind, Option.bind_some, whole, UInt8.ofNat_toNat]

/-- Spelled octets are decoded one by one, whatever is behind them. -/
theorem decodeOctets_append_of_spells {text : List Char} {octets : List UInt8}
    (h : Spells text octets) (rest : List UInt8) :
    decodeOctets (Text.Utf8.encode text ++ rest) = octets ++ decodeOctets rest := by
  induction h with
  | nil => rfl
  | @cons octet high low text octets first second others ih =>
    have highBound := toNat_of_hexDigit? first
    have lowBound := toNat_of_hexDigit? second
    have written : Text.Utf8.encode ('%' :: high :: low :: text) =
        sign :: UInt8.ofNat high.toNat :: UInt8.ofNat low.toNat :: Text.Utf8.encode text := by
      simp only [Text.Utf8.encode, List.flatMap_cons,
        Text.Utf8.utf8EncodeChar_of_ascii (show high.toNat < 128 by omega),
        Text.Utf8.utf8EncodeChar_of_ascii (show low.toNat < 128 by omega)]
      rfl
    rw [written, List.cons_append, List.cons_append, List.cons_append, decodeOctets, if_pos rfl,
      octet?_of_hexDigit? first second]
    simp only [ih, List.cons_append]

theorem decodeOctets_of_spells {text : List Char} {octets : List UInt8} (h : Spells text octets) :
    decodeOctets (Text.Utf8.encode text) = octets := by
  have alone := decodeOctets_append_of_spells h []
  rwa [List.append_nil, decodeOctets.eq_def [], List.append_nil] at alone

/-- A name is read back however it is spelled. -/
theorem decodePath?_of_spells {segment name : List Char}
    (h : Spells segment (Text.Utf8.encode name)) : decodePath? segment = some name := by
  rw [decodePath?, decodeOctets_of_spells h, Text.Utf8.decode?_encode]

/-- A spelling consists of signs and digits. -/
theorem sign_or_digit_of_mem_spells {segment : List Char} {octets : List UInt8}
    (h : Spells segment octets) {c : Char} (member : c ∈ segment) :
    c = '%' ∨ (Text.hexDigit? c).isSome := by
  induction h with
  | nil => cases member
  | cons first second others ih =>
    rcases List.mem_cons.1 member with rfl | member
    · exact Or.inl rfl
    rcases List.mem_cons.1 member with rfl | member
    · rw [first]
      exact Or.inr rfl
    rcases List.mem_cons.1 member with rfl | member
    · rw [second]
      exact Or.inr rfl
    · exact ih member

/-- No separator of a target is in a spelling. -/
theorem ne_of_mem_spells {segment : List Char} {octets : List UInt8} (h : Spells segment octets)
    {c : Char} (member : c ∈ segment) : c ≠ '/' ∧ c ≠ '?' ∧ c ≠ '#' := by
  have allowed := sign_or_digit_of_mem_spells h member
  refine ⟨?_, ?_, ?_⟩
  · rintro rfl
    exact absurd allowed (by decide)
  · rintro rfl
    exact absurd allowed (by decide)
  · rintro rfl
    exact absurd allowed (by decide)

theorem ne_nil_of_spells {segment name : List Char} (h : Spells segment (Text.Utf8.encode name))
    (named : name ≠ []) : segment ≠ [] := by
  rintro rfl
  have none : decodePath? [] = some name := decodePath?_of_spells h
  cases none
  exact named rfl

end Percent

/-! ## Targets -/

theorem splitFirst_append {separator : Char} {front : List Char} (absent : separator ∉ front)
    (rest : List Char) : splitFirst separator (front ++ separator :: rest) = (front, rest) := by
  have others : ∀ c ∈ front, decide (c ≠ separator) = true := by
    intro c member
    rw [decide_eq_true_eq]
    rintro rfl
    exact absent member
  rw [splitFirst, List.takeWhile_append_of_pos others, List.dropWhile_append_of_pos others]
  simp

/-- A path with a query behind it is cut where the query begins. -/
theorem Target.ofText_append {path : List Char} (rooted : path.head? = some '/')
    (noQuery : '?' ∉ path) (noFragment : '#' ∉ path) (query : List Char) :
    Target.ofText (path ++ '?' :: query) = ⟨path, (splitFirst '#' query).1⟩ := by
  have others : ∀ c ∈ path, decide (c ≠ '#') = true := by
    intro c member
    rw [decide_eq_true_eq]
    rintro rfl
    exact noFragment member
  have front : (splitFirst '#' (path ++ '?' :: query)).1 =
      path ++ '?' :: (splitFirst '#' query).1 := by
    rw [splitFirst, List.takeWhile_append_of_pos others]
    rfl
  have begins : (path ++ '?' :: (splitFirst '#' query).1).head? = some '/' := by
    rw [List.head?_append, rooted]
    rfl
  rw [Target.ofText, front, Target.withoutServer, if_pos begins, splitFirst_append noQuery]

/-- A single segment behind the path of the items names an item. -/
theorem Route.ofPath?_item {segment : List Char} (named : segment ≠ []) (whole : '/' ∉ segment) :
    Route.ofPath? (Route.itemsPath ++ segment) = some (.item segment) := by
  have isPrefix : Route.itemsPath.isPrefixOf (Route.itemsPath ++ segment) = true :=
    List.isPrefixOf_iff_prefix.2 (List.prefix_append _ _)
  have isSegment : (segment.isEmpty || segment.contains '/') = false := by
    simp [named, whole]
  rw [Route.ofPath?, if_neg (by simp [Route.itemsPath]), if_neg (by simp [Route.itemsPath]),
    if_neg (by simp [Route.itemsPath]), if_pos isPrefix, List.drop_left]
  exact if_neg (Bool.eq_false_iff.1 isSegment)

end SwarmChart.Http
