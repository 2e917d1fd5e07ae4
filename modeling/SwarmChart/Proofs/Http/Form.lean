import Mathlib.Data.List.TakeWhile
import SwarmChart.Http.Query
import SwarmChart.Proofs.Http.Spelling

/-!
# Written queries

A character of a key or a value is written in a query as itself, as a plus sign if it is a space, or
octet by octet as a percent sign and two digits (`Form.Spells`). Keys and values are joined by
equals signs and pairs by ampersands; a part may be empty, and a key without a value may do without
its equals sign (`Form.Writes`). All pairs can be written (`Form.exists_writes`), and every query is
read back as the pairs that it writes, whichever way it writes them (`Form.pairs_of_writes`).
-/

set_option autoImplicit false

namespace SwarmChart.Http

/-! ## Octets that stand for themselves -/

namespace Percent

theorem decodeOctets_cons_of_ne {octet : UInt8} (plain : octet ≠ sign) (rest : List UInt8) :
    decodeOctets (octet :: rest) = octet :: decodeOctets rest := by
  match rest with
  | [] => simp [decodeOctets]
  | [last] => simp [decodeOctets]
  | high :: low :: rest => rw [decodeOctets, if_neg plain]

/-- Octets before the first percent sign stand for themselves. -/
theorem decodeOctets_append_of_not_mem {front : List UInt8} (plain : sign ∉ front)
    (rest : List UInt8) : decodeOctets (front ++ rest) = front ++ decodeOctets rest := by
  induction front with
  | nil => rfl
  | cons octet front ih =>
    rw [List.mem_cons, not_or] at plain
    rw [List.cons_append, decodeOctets_cons_of_ne (Ne.symm plain.1), ih plain.2, List.cons_append]

/-- No other character than the percent sign has its octet. -/
theorem sign_not_mem_utf8EncodeChar {c : Char} (other : c ≠ '%') :
    sign ∉ String.utf8EncodeChar c := by
  intro member
  by_cases ascii : c.toNat < 128
  · rw [Text.Utf8.utf8EncodeChar_of_ascii ascii, List.mem_singleton] at member
    have number : (37 : Nat) = c.toNat := by
      have same := congrArg UInt8.toNat member
      rwa [Text.Utf8.toNat_ofNat (by omega)] at same
    apply other
    rw [← Char.ofNat_toNat c, ← number]
  · have large := Text.Utf8.le_of_mem_utf8EncodeChar (Nat.not_lt.1 ascii) member
    exact absurd large (by decide)

end Percent

/-! ## Separators -/

theorem splitFirst_of_not_mem {separator : Char} {text : List Char} (absent : separator ∉ text) :
    splitFirst separator text = (text, []) := by
  have others : ∀ c ∈ text, decide (c ≠ separator) = true := by
    intro c member
    rw [decide_eq_true_eq]
    rintro rfl
    exact absent member
  rw [splitFirst, List.takeWhile_eq_self_iff.2 others, List.dropWhile_eq_nil_iff.2 others]
  rfl

theorem splitOn_append {separator : Char} {front : List Char} (absent : separator ∉ front)
    (rest : List Char) :
    splitOn separator (front ++ separator :: rest) = front :: splitOn separator rest := by
  induction front with
  | nil =>
    rw [List.nil_append, splitOn]
    exact if_pos rfl
  | cons c front ih =>
    rw [List.mem_cons, not_or] at absent
    rw [List.cons_append, splitOn, if_neg (Ne.symm absent.1), ih absent.2]

theorem splitOn_of_not_mem {separator : Char} {text : List Char} (absent : separator ∉ text) :
    splitOn separator text = [text] := by
  induction text with
  | nil => rfl
  | cons c text ih =>
    rw [List.mem_cons, not_or] at absent
    rw [splitOn, if_neg (Ne.symm absent.1), ih absent.2]

namespace Form

/-- The two sides of a pair. -/
inductive Side where
  | key
  | value

/-- The characters that do not stand for themselves on a side. An equals sign ends a key, but in a
value it is a character like any other. -/
def Side.marks : Side → List Char
  | key => ['%', '+', '&', '#', '=']
  | value => ['%', '+', '&', '#']

/-- The text spells the word, with no mark of its side standing for itself. -/
inductive Spells (side : Side) : List Char → List Char → Prop
  | nil : Spells side [] []
  | plain {c : Char} {text word : List Char} (free : c ∉ side.marks)
      (others : Spells side text word) : Spells side (c :: text) (c :: word)
  | space {text word : List Char} (others : Spells side text word) :
      Spells side ('+' :: text) (' ' :: word)
  | encoded {c : Char} {digits text word : List Char}
      (first : Percent.Spells digits (String.utf8EncodeChar c))
      (others : Spells side text word) : Spells side (digits ++ text) (c :: word)

/-- The part of a query writes the pairs: one, or none if it is empty. -/
inductive WritesPart : List Char → List (String × String) → Prop
  | nothing : WritesPart [] []
  | key {text : List Char} {key : String} (spells : Spells .key text key.toList)
      (some_character : text ≠ []) : WritesPart text [(key, "")]
  | pair {front behind : List Char} {key value : String} (spellsKey : Spells .key front key.toList)
      (spellsValue : Spells .value behind value.toList) :
      WritesPart (front ++ '=' :: behind) [(key, value)]

/-- The query writes the pairs. -/
inductive Writes : List Char → List (String × String) → Prop
  | last {part : List Char} {given : List (String × String)} (writes : WritesPart part given) :
      Writes part given
  | more {part query : List Char} {given others : List (String × String)}
      (first : WritesPart part given) (rest : Writes query others) :
      Writes (part ++ '&' :: query) (given ++ others)

/-! ## Words -/

section Words

variable {side : Side} {text word : List Char}

/-- A word without marks spells itself. -/
theorem spells_self (free : ∀ c ∈ word, c ∉ side.marks) : Spells side word word := by
  induction word with
  | nil => exact .nil
  | cons c word ih =>
    rw [List.forall_mem_cons] at free
    exact .plain free.1 (ih free.2)

/-- Every word can be spelled without any mark of its own. -/
theorem spells_encode (side : Side) (word : List Char) :
    Spells side (Percent.encode word) word := by
  induction word with
  | nil => exact .nil
  | cons c word ih =>
    rw [Percent.encode, Text.Utf8.encode, List.flatMap_cons, List.flatMap_append]
    exact .encoded (Percent.spells_flatMap_encodeOctet _) ih

/-- No plus sign is among the signs and digits of an encoded character. -/
theorem map_space_of_spells {digits : List Char} {octets : List UInt8}
    (h : Percent.Spells digits octets) :
    (digits.map fun c => if c = '+' then ' ' else c) = digits := by
  have stays : ∀ c ∈ digits, (if c = '+' then ' ' else c) = id c := by
    intro c member
    apply if_neg
    rintro rfl
    exact absurd (Percent.sign_or_digit_of_mem_spells h member) (by decide)
  rw [List.map_congr_left stays, List.map_id]

/-- However a word is spelled, its octets are the same once decoded. -/
theorem decodeOctets_of_spells (h : Spells side text word) :
    Percent.decodeOctets (Text.Utf8.encode (text.map fun c => if c = '+' then ' ' else c)) =
      Text.Utf8.encode word := by
  -- Plus signs are replaced first, and none of them is left in a code or in a plain character.
  induction h with
  | nil => rfl
  | @plain c text word free others ih =>
    have notSign : c ≠ '%' := by
      rintro rfl
      cases side <;> exact free (by decide)
    have notPlus : c ≠ '+' := by
      rintro rfl
      cases side <;> exact free (by decide)
    rw [List.map_cons, if_neg notPlus, Text.Utf8.encode, List.flatMap_cons,
      Percent.decodeOctets_append_of_not_mem (Percent.sign_not_mem_utf8EncodeChar notSign),
      ← Text.Utf8.encode, ih]
    rfl
  | @space text word others ih =>
    rw [List.map_cons, if_pos rfl, Text.Utf8.encode, List.flatMap_cons,
      Percent.decodeOctets_append_of_not_mem (Percent.sign_not_mem_utf8EncodeChar (by decide)),
      ← Text.Utf8.encode, ih]
    rfl
  | @encoded c digits text word first others ih =>
    rw [List.map_append, map_space_of_spells first, Text.Utf8.encode_append,
      Percent.decodeOctets_append_of_spells first, ih]
    rfl

/-- A word is read back however it is spelled. -/
theorem decodeForm_of_spells (h : Spells side text word) : Percent.decodeForm text = word := by
  rw [Percent.decodeForm, decodeOctets_of_spells h, Text.Utf8.decodeLossy_encode]

/-- A mark that is no part of a code does not occur in a spelling. -/
theorem not_mem_of_spells {mark : Char} (isMark : mark ∈ side.marks)
    (noCode : mark ≠ '+' ∧ mark ≠ '%' ∧ Text.hexDigit? mark = none) (h : Spells side text word) :
    mark ∉ text := by
  intro member
  induction h with
  | nil => cases member
  | plain free others ih =>
    rcases List.mem_cons.1 member with rfl | member
    · exact free isMark
    · exact ih member
  | space others ih =>
    rcases List.mem_cons.1 member with rfl | member
    · exact noCode.1 rfl
    · exact ih member
  | encoded first others ih =>
    rcases List.mem_append.1 member with member | member
    · rcases Percent.sign_or_digit_of_mem_spells first member with rfl | digit
      · exact noCode.2.1 rfl
      · rw [noCode.2.2] at digit
        cases digit
    · exact ih member

/-- The first equals sign of a pair is the one behind its key. -/
theorem equals_not_mem_of_spells (h : Spells .key text word) : '=' ∉ text :=
  not_mem_of_spells (by decide) (by decide) h

/-- Neither what ends a pair nor what ends a query occurs in a spelling. -/
theorem ends_not_mem_of_spells (h : Spells side text word) : '&' ∉ text ∧ '#' ∉ text := by
  cases side with
  | key =>
    exact ⟨not_mem_of_spells (by decide) (by decide) h, not_mem_of_spells (by decide) (by decide) h⟩
  | value =>
    exact ⟨not_mem_of_spells (by decide) (by decide) h, not_mem_of_spells (by decide) (by decide) h⟩

end Words

/-! ## Pairs -/

variable {part query : List Char} {given : List (String × String)}

/-- There are no pairs that cannot be written. -/
theorem exists_writes (given : List (String × String)) : ∃ query, Writes query given := by
  induction given with
  | nil => exact ⟨[], .last .nothing⟩
  | cons pair given ih =>
    obtain ⟨query, writes⟩ := ih
    exact ⟨_, .more (.pair (spells_encode .key pair.1.toList) (spells_encode .value pair.2.toList))
      writes⟩

/-- A part is read back as the pairs that it writes. -/
theorem pairs_of_writesPart (h : WritesPart part given) :
    (if part.isEmpty then [] else [pair part]) = given := by
  cases h with
  | nothing => rfl
  | @key _ key spells some_character =>
    rw [if_neg (by simpa using some_character), pair,
      splitFirst_of_not_mem (equals_not_mem_of_spells spells)]
    dsimp only
    rw [decodeForm_of_spells spells, String.ofList_toList]
    rfl
  | @pair front behind key value spellsKey spellsValue =>
    rw [if_neg (by simp), Http.pair, splitFirst_append (equals_not_mem_of_spells spellsKey)]
    dsimp only
    rw [decodeForm_of_spells spellsKey, decodeForm_of_spells spellsValue, String.ofList_toList,
      String.ofList_toList]

theorem ends_not_mem_of_writesPart (h : WritesPart part given) : '&' ∉ part ∧ '#' ∉ part := by
  cases h with
  | nothing => exact ⟨List.not_mem_nil, List.not_mem_nil⟩
  | key spells some_character => exact ends_not_mem_of_spells spells
  | pair spellsKey spellsValue =>
    have ofKey := ends_not_mem_of_spells spellsKey
    have ofValue := ends_not_mem_of_spells spellsValue
    simp [ofKey, ofValue]

/-- A query is read back as the pairs that it writes. -/
theorem pairs_of_writes (h : Writes query given) : pairs query = given := by
  induction h with
  | @last part given writes =>
    obtain ⟨whole, -⟩ := ends_not_mem_of_writesPart writes
    rw [pairs, splitOn_of_not_mem whole, ← pairs_of_writesPart writes]
    cases part <;> rfl
  | @more part query given others first rest ih =>
    obtain ⟨whole, -⟩ := ends_not_mem_of_writesPart first
    rw [pairs, splitOn_append whole, ← pairs_of_writesPart first, ← ih, pairs]
    cases part <;> rfl

/-- What a query writes does not end before it. -/
theorem fragment_not_mem_of_writes (h : Writes query given) : '#' ∉ query := by
  induction h with
  | last writes => exact (ends_not_mem_of_writesPart writes).2
  | more first rest ih =>
    have ofPart := (ends_not_mem_of_writesPart first).2
    simp [ofPart, ih]

end Form

end SwarmChart.Http
