import SwarmChart.Text.Utf8.Lemmas

/-!
# Cutting encoded texts

Well-formed octets are the encoding of the one text that they decode to (`encode_of_decode?`). Where
such octets are cut, the front is well formed exactly when the cut does not fall inside a character,
that is, when no continuation octet stands behind it (`decode?_front`), and it then decodes to the
front of the text.
-/

set_option autoImplicit false

namespace SwarmChart.Text.Utf8

theorem encode_append (front back : List Char) :
    encode (front ++ back) = encode front ++ encode back := List.flatMap_append

theorem length_encode_le (front back : List Char) :
    (encode front).length ≤ (encode (front ++ back)).length := by
  rw [encode_append, List.length_append]
  exact Nat.le_add_right _ _

/-! ## The octets of a character -/

/-- A character of seven bits is encoded as itself. -/
theorem utf8EncodeChar_of_ascii {c : Char} (h : c.toNat < 128) :
    String.utf8EncodeChar c = [UInt8.ofNat c.toNat] := by
  unfold String.utf8EncodeChar
  exact if_pos (Nat.le_of_lt_succ h)

/-- Each character below U+0080 is one octet. -/
theorem encode_of_ascii {text : List Char} (ascii : ∀ c ∈ text, c.toNat < 128) :
    encode text = text.map fun c => UInt8.ofNat c.toNat := by
  induction text with
  | nil => rfl
  | cons c rest ih =>
    obtain ⟨below, inside⟩ := List.forall_mem_cons.1 ascii
    have others := ih inside
    rw [encode] at others ⊢
    rw [List.flatMap_cons, utf8EncodeChar_of_ascii below, others]
    rfl

/-- Every octet of a character beyond U+007F is beyond 0x7F. -/
theorem le_of_mem_utf8EncodeChar {c : Char} (h : 128 ≤ c.toNat) {octet : UInt8}
    (member : octet ∈ String.utf8EncodeChar c) : 128 ≤ octet.toNat := by
  have large : 128 ≤ c.val.toNat := h
  -- The lead has its two upper bits set, and each octet behind it the uppermost.
  have later : ∀ {n}, 128 ≤ (UInt8.ofNat (n % 64 + 128)).toNat := by
    intro n
    rw [UInt8.toNat_ofNat']
    omega
  unfold String.utf8EncodeChar at member
  dsimp only at member
  split at member
  · omega
  split at member
  · simp only [List.mem_cons, List.not_mem_nil, or_false] at member
    rcases member with rfl | rfl
    · rw [UInt8.toNat_ofNat']
      omega
    · exact later
  split at member
  · simp only [List.mem_cons, List.not_mem_nil, or_false] at member
    rcases member with rfl | rfl | rfl
    · rw [UInt8.toNat_ofNat']
      omega
    · exact later
    · exact later
  · simp only [List.mem_cons, List.not_mem_nil, or_false] at member
    rcases member with rfl | rfl | rfl | rfl
    · rw [UInt8.toNat_ofNat']
      omega
    · exact later
    · exact later
    · exact later

theorem toNat_charOfNat {n : Nat} (valid : n.isValidChar) : (Char.ofNat n).toNat = n := by
  rw [Char.ofNat, dif_pos valid]
  rfl

section Number

variable {a x y z : Nat}

theorem utf8EncodeChar_two (least : 2 ≤ a) (most : a < 32) (hx : x < 64) :
    String.utf8EncodeChar (Char.ofNat (a * 64 + x)) =
      [UInt8.ofNat (a + 192), UInt8.ofNat (x + 128)] := by
  have number : (Char.ofNat (a * 64 + x)).toNat = a * 64 + x := toNat_charOfNat (by omega)
  unfold String.utf8EncodeChar
  simp only [show (Char.ofNat (a * 64 + x)).val.toNat = a * 64 + x from number]
  rw [if_neg (by omega), if_pos (by omega), show (a * 64 + x) / 64 % 32 = a by omega,
    show (a * 64 + x) % 64 = x by omega]

theorem utf8EncodeChar_three (most : a < 16) (hx : x < 64) (hy : y < 64)
    (notShort : a = 0 → 32 ≤ x) (noSurrogate : a = 13 → x < 32) :
    String.utf8EncodeChar (Char.ofNat ((a * 64 + x) * 64 + y)) =
      [UInt8.ofNat (a + 224), UInt8.ofNat (x + 128), UInt8.ofNat (y + 128)] := by
  have number : (Char.ofNat ((a * 64 + x) * 64 + y)).toNat = (a * 64 + x) * 64 + y :=
    toNat_charOfNat (by omega)
  unfold String.utf8EncodeChar
  simp only [show (Char.ofNat ((a * 64 + x) * 64 + y)).val.toNat = (a * 64 + x) * 64 + y
    from number]
  rw [if_neg (by omega), if_neg (by omega), if_pos (by omega),
    show ((a * 64 + x) * 64 + y) / 4096 % 16 = a by omega,
    show ((a * 64 + x) * 64 + y) / 64 % 64 = x by omega,
    show ((a * 64 + x) * 64 + y) % 64 = y by omega]

theorem utf8EncodeChar_four (most : a ≤ 4) (hx : x < 64) (hy : y < 64) (hz : z < 64)
    (notShort : a = 0 → 16 ≤ x) (inRange : a = 4 → x < 16) :
    String.utf8EncodeChar (Char.ofNat (((a * 64 + x) * 64 + y) * 64 + z)) =
      [UInt8.ofNat (a + 240), UInt8.ofNat (x + 128), UInt8.ofNat (y + 128),
        UInt8.ofNat (z + 128)] := by
  have number : (Char.ofNat (((a * 64 + x) * 64 + y) * 64 + z)).toNat =
      ((a * 64 + x) * 64 + y) * 64 + z := toNat_charOfNat (by omega)
  unfold String.utf8EncodeChar
  simp only [show (Char.ofNat (((a * 64 + x) * 64 + y) * 64 + z)).val.toNat =
    ((a * 64 + x) * 64 + y) * 64 + z from number]
  rw [if_neg (by omega), if_neg (by omega), if_neg (by omega),
    show (((a * 64 + x) * 64 + y) * 64 + z) / 262144 % 8 = a by omega,
    show (((a * 64 + x) * 64 + y) * 64 + z) / 4096 % 64 = x by omega,
    show (((a * 64 + x) * 64 + y) * 64 + z) / 64 % 64 = y by omega,
    show (((a * 64 + x) * 64 + y) * 64 + z) % 64 = z by omega]

end Number

/-! ## Decoding character by character -/

section Decoding

variable {found all : List Char} {octets : List UInt8}

/-- The octets take a decoder to the end of the text `all`. -/
def Reads (place : Place) (found : List Char) (octets : List UInt8) (all : List Char) : Prop :=
  octets.foldlM Decoder.feed? ⟨place, found⟩ = some ⟨.boundary, all⟩

/-- Octets are decoded to a text exactly if they lead there from the boundary. -/
theorem decode?_eq_some_iff {text : List Char} :
    decode? octets = some text ↔ Reads .boundary [] octets text.reverse := by
  rw [decode?, Reads, Decoder.fresh]
  cases octets.foldlM Decoder.feed? ⟨.boundary, []⟩ with
  | none => simp
  | some decoder =>
    obtain ⟨place, found⟩ := decoder
    cases place with
    | boundary => simp [Decoder.finish?, List.reverse_eq_iff]
    | inside gathered owed low high => simp [Decoder.finish?]

theorem reads_cons {place : Place} {octet : UInt8} (h : Reads place found (octet :: octets) all) :
    ∃ next, Decoder.feed? ⟨place, found⟩ octet = some next ∧
      Reads next.place next.found octets all := by
  rw [Reads, List.foldlM_cons, Option.bind_eq_bind, Option.bind_eq_some_iff] at h
  exact h

variable {gathered low high : Nat}

theorem reads_inside {owed : Nat}
    (h : Reads (.inside gathered owed low high) found octets all) :
    ∃ octet rest next, octets = octet :: rest ∧ low ≤ octet.toNat ∧ octet.toNat ≤ high ∧
      Decoder.feed? ⟨.inside gathered owed low high, found⟩ octet = some next ∧
      Reads next.place next.found rest all := by
  cases octets with
  | nil => cases h
  | cons octet rest =>
    obtain ⟨next, fed, reads⟩ := reads_cons h
    have inside : low ≤ octet.toNat ∧ octet.toNat ≤ high := by
      apply Decidable.of_not_not
      intro outside
      simp [Decoder.feed?, Place.move, outside] at fed
    exact ⟨octet, rest, next, rfl, inside.1, inside.2, fed, reads⟩

/-- The last octet of a character completes it. -/
theorem reads_inside_last (h : Reads (.inside gathered 1 low high) found octets all) :
    ∃ octet rest, octets = octet :: rest ∧ low ≤ octet.toNat ∧ octet.toNat ≤ high ∧
      Reads .boundary (Char.ofNat (gathered * 64 + (octet.toNat - 128)) :: found) rest all := by
  obtain ⟨octet, rest, next, front, least, most, fed, reads⟩ := reads_inside h
  rw [← UInt8.ofNat_toNat (x := octet), feed?_complete found octet.toNat_lt
    (move_inside_last ⟨least, most⟩)] at fed
  cases fed
  exact ⟨octet, rest, front, least, most, reads⟩

/-- An octet before the last adds its bits to those gathered. -/
theorem reads_inside_next {owed : Nat}
    (h : Reads (.inside gathered (owed + 2) low high) found octets all) :
    ∃ octet rest, octets = octet :: rest ∧ low ≤ octet.toNat ∧ octet.toNat ≤ high ∧
      Reads (.inside (gathered * 64 + (octet.toNat - 128)) (owed + 1) 128 191) found rest all := by
  obtain ⟨octet, rest, next, front, least, most, fed, reads⟩ := reads_inside h
  rw [← UInt8.ofNat_toNat (x := octet), feed?_await found octet.toNat_lt
    (move_inside_next ⟨least, most⟩)] at fed
  cases fed
  exact ⟨octet, rest, front, least, most, reads⟩

/-- The octets begin with a character, and reading goes on behind it. -/
def BeginsWithChar (found : List Char) (octets : List UInt8) (all : List Char) : Prop :=
  ∃ c rest, octets = String.utf8EncodeChar c ++ rest ∧ Reads .boundary (c :: found) rest all

theorem ofNat_of_toNat (octet : UInt8) {n : Nat} (h : octet.toNat = n) : UInt8.ofNat n = octet := by
  rw [← h, UInt8.ofNat_toNat]

variable {lead : UInt8} {a : Nat}

theorem beginsWithChar_two (isLead : lead.toNat = a + 192) (least : 2 ≤ a) (most : a < 32)
    (h : Reads (.inside a 1 128 191) found octets all) :
    BeginsWithChar found (lead :: octets) all := by
  obtain ⟨second, rest, rfl, low, high, reads⟩ := reads_inside_last h
  refine ⟨_, rest, ?_, reads⟩
  rw [utf8EncodeChar_two least most (by omega), ofNat_of_toNat lead isLead,
    ofNat_of_toNat second (by omega)]
  rfl

/-- What is read behind the lead of three octets completes a character: the bounds on the second
octet rule out longer forms and surrogates. -/
theorem beginsWithChar_three (isLead : lead.toNat = a + 224) (most : a < 16) (least : 128 ≤ low)
    (greatest : high ≤ 191) (notShort : a = 0 → 160 ≤ low) (noSurrogate : a = 13 → high ≤ 159)
    (h : Reads (.inside a 2 low high) found octets all) :
    BeginsWithChar found (lead :: octets) all := by
  obtain ⟨second, rest, rfl, second_low, second_high, reads⟩ := reads_inside_next h
  obtain ⟨third, rest, rfl, third_low, third_high, reads⟩ := reads_inside_last reads
  refine ⟨_, rest, ?_, reads⟩
  rw [utf8EncodeChar_three most (by omega) (by omega) (by omega) (by omega),
    ofNat_of_toNat lead isLead, ofNat_of_toNat second (by omega),
    ofNat_of_toNat third (by omega)]
  rfl

theorem beginsWithChar_four (isLead : lead.toNat = a + 240) (most : a ≤ 4) (least : 128 ≤ low)
    (greatest : high ≤ 191) (notShort : a = 0 → 144 ≤ low) (inRange : a = 4 → high ≤ 143)
    (h : Reads (.inside a 3 low high) found octets all) :
    BeginsWithChar found (lead :: octets) all := by
  obtain ⟨second, rest, rfl, second_low, second_high, reads⟩ := reads_inside_next h
  obtain ⟨third, rest, rfl, third_low, third_high, reads⟩ := reads_inside_next reads
  obtain ⟨fourth, rest, rfl, fourth_low, fourth_high, reads⟩ := reads_inside_last reads
  refine ⟨_, rest, ?_, reads⟩
  rw [utf8EncodeChar_four most (by omega) (by omega) (by omega) (by omega) (by omega),
    ofNat_of_toNat lead isLead, ofNat_of_toNat second (by omega),
    ofNat_of_toNat third (by omega), ofNat_of_toNat fourth (by omega)]
  rfl

theorem eq_ofNat_of_first {octet : Nat} {c : Char} (moved : first octet = .complete c) :
    octet < 128 ∧ c = Char.ofNat octet := by
  unfold first at moved
  split at moved
  · next ascii =>
    cases moved
    exact ⟨ascii, rfl⟩
  · repeat' split at moved
    all_goals cases moved

/-- Between two characters the octets that follow begin with a character. -/
theorem beginsWithChar_of_reads (h : Reads .boundary found (lead :: octets) all) :
    BeginsWithChar found (lead :: octets) all := by
  obtain ⟨next, fed, reads⟩ := reads_cons h
  rw [Decoder.feed?, Place.move] at fed
  cases moved : first lead.toNat with
  | refuse =>
    rw [moved] at fed
    cases fed
  | complete c =>
    rw [moved] at fed
    cases fed
    obtain ⟨ascii, rfl⟩ := eq_ofNat_of_first moved
    have number : (Char.ofNat lead.toNat).toNat = lead.toNat := toNat_charOfNat (by omega)
    refine ⟨_, octets, ?_, reads⟩
    rw [utf8EncodeChar_of_ascii (by omega), number, UInt8.ofNat_toNat]
    rfl
  | await place =>
    rw [moved] at fed
    cases fed
    -- One case for each range of first octets, in the order of the table.
    unfold first at moved
    split at moved
    · cases moved
    split at moved
    · cases moved
    split at moved
    · cases moved
      exact beginsWithChar_two (by omega) (by omega) (by omega) reads
    split at moved
    · cases moved
      exact beginsWithChar_three (by omega) (by omega) (by omega) (by omega) (by omega)
        (by omega) reads
    split at moved
    · cases moved
      exact beginsWithChar_three (by omega) (by omega) (by omega) (by omega) (by omega)
        (by omega) reads
    split at moved
    · cases moved
      exact beginsWithChar_three (by omega) (by omega) (by omega) (by omega) (by omega)
        (by omega) reads
    split at moved
    · cases moved
      exact beginsWithChar_four (by omega) (by omega) (by omega) (by omega) (by omega)
        (by omega) reads
    split at moved
    · cases moved
      exact beginsWithChar_four (by omega) (by omega) (by omega) (by omega) (by omega)
        (by omega) reads
    split at moved
    · cases moved
      exact beginsWithChar_four (by omega) (by omega) (by omega) (by omega) (by omega)
        (by omega) reads
    · cases moved

/-- Octets from one boundary to another are the encoding of the text that they add to what was
found. -/
theorem exists_append_of_reads {found all : List Char} {octets : List UInt8}
    (h : Reads .boundary found octets all) :
    ∃ text, all = text.reverse ++ found ∧ octets = encode text := by
  cases octets with
  | nil =>
    cases h
    exact ⟨[], rfl, rfl⟩
  | cons lead rest =>
    obtain ⟨c, later, front, reads⟩ := beginsWithChar_of_reads h
    -- A character takes several octets at once, so the recursion is on their number.
    have shorter : later.length < (lead :: rest).length := by
      rw [front, List.length_append, String.length_utf8EncodeChar]
      have := c.utf8Size_pos
      omega
    obtain ⟨text, whole, encoded⟩ := exists_append_of_reads reads
    refine ⟨c :: text, ?_, ?_⟩
    · rw [whole, List.reverse_cons, List.append_assoc]
      rfl
    · rw [front, encoded]
      rfl
termination_by octets.length

/-- Octets that decode are the encoding of what they decode to. -/
theorem encode_of_decode? {text : List Char} (h : decode? octets = some text) :
    encode text = octets := by
  obtain ⟨decoded, whole, encoded⟩ := exists_append_of_reads (decode?_eq_some_iff.1 h)
  rw [List.append_nil, List.reverse_inj] at whole
  rw [whole, encoded]

end Decoding

/-! ## Cuts -/

/-- The octet goes on with a character that an earlier one began. -/
def isContinuation (octet : UInt8) : Bool := 0x80 ≤ octet.toNat && octet.toNat < 0xC0

/-- Inside a character only continuation octets are let through. -/
def Place.Narrow : Place → Prop
  | boundary => True
  | inside _ _ low high => 0x80 ≤ low ∧ high < 0xC0

/-- Inside a character only continuation octets are ever allowed. -/
theorem narrow_of_move {place next : Place} {octet : Nat} (moved : place.move octet = .await next) :
    next.Narrow := by
  cases place with
  | boundary =>
    rw [Place.move, first] at moved
    repeat' split at moved
    all_goals
      cases moved
      try exact ⟨by decide, by decide⟩
  | inside gathered owed low high =>
    simp only [Place.move] at moved
    repeat' split at moved
    all_goals
      cases moved
      try exact ⟨by decide, by decide⟩

theorem narrow_of_foldlM {octets : List UInt8} {decoder last : Decoder}
    (fed : octets.foldlM Decoder.feed? decoder = some last) (narrow : decoder.place.Narrow) :
    last.place.Narrow := by
  induction octets generalizing decoder with
  | nil =>
    cases fed
    exact narrow
  | cons octet rest ih =>
    rw [List.foldlM_cons, Option.bind_eq_bind, Option.bind_eq_some_iff] at fed
    obtain ⟨next, first, others⟩ := fed
    apply ih others
    rw [Decoder.feed?] at first
    split at first
    · cases first
      exact trivial
    · next moved =>
      cases first
      exact narrow_of_move moved
    · cases first

/-- Whatever is taken inside a character is a continuation octet. -/
theorem isContinuation_of_feed?_inside {gathered owed low high : Nat} {found : List Char}
    {octet : UInt8} {next : Decoder} (narrow : (Place.inside gathered owed low high).Narrow)
    (fed : Decoder.feed? ⟨.inside gathered owed low high, found⟩ octet = some next) :
    isContinuation octet = true := by
  obtain ⟨least, most⟩ := narrow
  have inside : low ≤ octet.toNat ∧ octet.toNat ≤ high := by
    apply Decidable.of_not_not
    intro outside
    simp [Decoder.feed?, Place.move, outside] at fed
  simp only [isContinuation, Bool.and_eq_true, decide_eq_true_eq]
  omega

/-- No character begins with a continuation octet. -/
theorem not_isContinuation_of_feed?_boundary {found : List Char} {octet : UInt8} {next : Decoder}
    (fed : Decoder.feed? ⟨.boundary, found⟩ octet = some next) :
    isContinuation octet = false := by
  apply Bool.eq_false_iff.2
  intro continues
  simp only [isContinuation, Bool.and_eq_true, decide_eq_true_eq] at continues
  have refused : first octet.toNat = .refuse := by
    rw [first, if_neg (by omega), if_pos (by omega)]
  simp [Decoder.feed?, Place.move, refused] at fed

/-- The front of well-formed octets is well formed unless the cut falls inside a character, and
decodes to the front of the text. -/
theorem decode?_front {front rest : List UInt8} {octet : UInt8} {text : List Char}
    (h : decode? (front ++ octet :: rest) = some text) :
    (isContinuation octet = true ∧ decode? front = none) ∨
      (isContinuation octet = false ∧ ∃ part later, decode? front = some part ∧
        text = part ++ later) := by
  have reads := decode?_eq_some_iff.1 h
  rw [Reads, List.foldlM_append, Option.bind_eq_bind, Option.bind_eq_some_iff] at reads
  obtain ⟨⟨place, found⟩, fed, reads⟩ := reads
  obtain ⟨next, first, -⟩ := reads_cons reads
  cases place with
  | inside gathered owed low high =>
    left
    refine ⟨isContinuation_of_feed?_inside (narrow_of_foldlM fed trivial) first, ?_⟩
    rw [decode?, Decoder.fresh, fed]
    rfl
  | boundary =>
    right
    obtain ⟨later, whole, -⟩ := exists_append_of_reads reads
    refine ⟨not_isContinuation_of_feed?_boundary first, found.reverse, later, ?_, ?_⟩
    · rw [decode?, Decoder.fresh, fed]
      rfl
    · rw [← List.reverse_reverse text, whole, List.reverse_append, List.reverse_reverse]

/-- Octets of characters below U+0080 may be cut anywhere. -/
theorem take_encode_of_ascii {text : List Char} (ascii : ∀ c ∈ text, c.toNat < 128) (n : Nat) :
    (encode text).take n = encode (text.take n) := by
  have front : ∀ c ∈ text.take n, c.toNat < 128 := fun c member =>
    ascii c (List.mem_of_mem_take member)
  rw [encode_of_ascii ascii, encode_of_ascii front, List.map_take]

end SwarmChart.Text.Utf8
