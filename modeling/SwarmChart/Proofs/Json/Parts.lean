import Mathlib.Data.List.Basic
import SwarmChart.Json.Writer
import SwarmChart.Proofs.Json.Arranged
import SwarmChart.Proofs.Json.Cut

/-!
# The parts of a written value

A written value is a row of marks, words, numbers and strings (`Json.parts`), and white space may
stand anywhere between them (`Json.Spaced`). Each part is one token, and the text with all its white
space is cut into the tokens of the parts (`Token.list_of_spaced`). What has to be watched is the
end of a number, which a digit, a point or an exponent behind it would move: in a value there is
always a mark behind a number, or white space, or the end of the text.
-/

set_option autoImplicit false

namespace SwarmChart.Json

mutual

/-- The marks, words, numbers and strings of a written value. -/
def parts : Json → List (List Char)
  | .null => [writeChars .null]
  | .bool value => [writeChars (.bool value)]
  | .int n => [writeInt n]
  | .float x => [writeFloat x]
  | .str text => [writeString text]
  | .arr items => ['['] :: (partsOfItems items ++ [[']']])
  | .obj members => ['\x7b'] :: (partsOfMembers members ++ [['\x7d']])

/-- The parts of the items of an array and the commas between them. -/
def partsOfItems : List Json → List (List Char)
  | [] => []
  | [item] => item.parts
  | item :: rest => item.parts ++ [','] :: partsOfItems rest

/-- The parts of the members of an object and the commas between them. -/
def partsOfMembers : List (String × Json) → List (List Char)
  | [] => []
  | [(key, value)] => writeString key :: [':'] :: value.parts
  | (key, value) :: rest =>
    writeString key :: [':'] :: (value.parts ++ [','] :: partsOfMembers rest)

end

/-- The text is made of the parts in their order, with white space between and around them. -/
inductive Spaced : List (List Char) → List Char → Prop where
  | ends {spaces : List Char} (white : ∀ s ∈ spaces, Token.isSpace s = true) : Spaced [] spaces
  | goes {spaces part text : List Char} {parts : List (List Char)}
      (white : ∀ s ∈ spaces, Token.isSpace s = true) (later : Spaced parts text) :
      Spaced (part :: parts) (spaces ++ (part ++ text))

mutual

/-- The parts with nothing between them are the written value. -/
theorem flatten_parts : ∀ value : Json, value.parts.flatten = writeChars value
  | .null => rfl
  | .bool _ => List.append_nil _
  | .int n => List.append_nil _
  | .float x => List.append_nil _
  | .str text => List.append_nil _
  | .arr items => by
    rw [parts, List.flatten_cons, List.flatten_append, flatten_partsOfItems items, writeChars]
    rfl
  | .obj members => by
    rw [parts, List.flatten_cons, List.flatten_append, flatten_partsOfMembers members, writeChars]
    rfl

theorem flatten_partsOfItems : ∀ items : List Json, (partsOfItems items).flatten = writeItems items
  | [] => rfl
  | [item] => flatten_parts item
  | item :: next :: rest => by
    rw [partsOfItems, List.flatten_append, List.flatten_cons, flatten_parts item,
      flatten_partsOfItems (next :: rest)]
    · rfl
    · exact nofun

theorem flatten_partsOfMembers :
    ∀ members : List (String × Json), (partsOfMembers members).flatten = writeMembers members
  | [] => rfl
  | [(key, value)] => by
    rw [partsOfMembers, List.flatten_cons, List.flatten_cons, flatten_parts value, writeMembers]
    rfl
  | (key, value) :: next :: rest => by
    rw [partsOfMembers, List.flatten_cons, List.flatten_cons, List.flatten_append,
      List.flatten_cons, flatten_parts value, flatten_partsOfMembers (next :: rest)]
    · exact (List.append_assoc (writeString key) (':' :: value.writeChars)
        (',' :: writeMembers (next :: rest))).symm
    · exact nofun

end

/-- Parts may follow one another with no white space between them. -/
theorem spaced_flatten (parts : List (List Char)) : Spaced parts parts.flatten := by
  induction parts with
  | nil => exact .ends nofun
  | cons part parts ih => exact @Spaced.goes [] part parts.flatten parts nofun ih

/-- The written value is one of the texts made of its parts. -/
theorem spaced_writeChars (value : Json) : Spaced value.parts (writeChars value) := by
  rw [← flatten_parts]
  exact spaced_flatten value.parts

/-! ## What follows a number -/

/-- A number would go on with the character. -/
def extendsNumber (c : Char) : Bool := c.isDigit || c = '.' || c = 'e' || c = 'E'

/-- A number in front of the text ends there. -/
def StopsNumber (text : List Char) : Prop := ∀ c ∈ text.head?, extendsNumber c = false

/-- The first of the parts, if there is one, is a mark with which no number goes on. -/
def MarkFirst (parts : List (List Char)) : Prop :=
  ∀ part ∈ parts.head?, ∃ c, part = [c] ∧ extendsNumber c = false

theorem extendsNumber_of_isSpace {c : Char} (h : Token.isSpace c = true) :
    extendsNumber c = false := by
  rcases Token.isSpace_iff.1 h with rfl | rfl | rfl | rfl <;> rfl

/-- A number in front of a mark ends there, also where white space comes first. -/
theorem stopsNumber_of_spaced {parts : List (List Char)} {text : List Char}
    (mark : MarkFirst parts) (spaced : Spaced parts text) : StopsNumber text := by
  intro c first
  cases spaced with
  | ends white => exact extendsNumber_of_isSpace (white c (List.mem_of_mem_head? first))
  | @goes spaces part text parts white later =>
    obtain ⟨d, rfl, stops⟩ := mark part rfl
    cases spaces with
    | nil =>
      cases first
      exact stops
    | cons space spaces =>
      cases first
      exact extendsNumber_of_isSpace (white c List.mem_cons_self)

/-! ## Single parts -/

namespace Token

/-- In front of whatever ends a number, the part is cut off as the token. -/
def IsCut (part : List Char) (token : Token) : Prop :=
  ∀ spaces rest, (∀ s ∈ spaces, isSpace s = true) → StopsNumber rest →
    next? (spaces ++ (part ++ rest)) = some (token, rest)

variable {c : Char} {part : List Char} {token : Token}

theorem list_of_isCut (cut : IsCut part token) : list part = [token] := by
  have alone := cut [] [] nofun nofun
  rw [List.nil_append, List.append_nil] at alone
  rw [list_of_next?_some alone, list_of_next?_none rfl]

theorem isSpace_of_mark? (mark : mark? c = some token) : isSpace c = false := by
  rcases mark?_eq_some mark with ⟨rfl, -⟩ | ⟨rfl, -⟩ | ⟨rfl, -⟩ | ⟨rfl, -⟩ | ⟨rfl, -⟩ | ⟨rfl, -⟩
  all_goals rfl

theorem next?_mark (mark : mark? c = some token) {spaces : List Char}
    (white : ∀ s ∈ spaces, isSpace s = true) (rest : List Char) :
    next? (spaces ++ c :: rest) = some (token, rest) := by
  rw [next?_append white (isSpace_of_mark? mark), beginning, mark]

/-- A mark is cut off whatever follows it. -/
theorem isCut_mark (mark : mark? c = some token) : IsCut [c] token :=
  fun _ rest white _ => next?_mark mark white rest

theorem isCut_word {value : Json} {letters : List Char} (solid : isSpace c = false)
    (begins : ∀ rest, beginning c rest = wordToken value letters rest) :
    IsCut (c :: letters) (.word (.ok value)) := by
  intro spaces rest white _
  rw [List.cons_append, next?_append white solid, begins, wordToken, behind_append]

theorem isCut_null : IsCut (writeChars .null) (.word (.ok .null)) :=
  isCut_word rfl fun _ => rfl

theorem isCut_bool (value : Bool) :
    IsCut (writeChars (.bool value)) (.word (.ok (.bool value))) := by
  cases value with
  | true => exact isCut_word rfl fun _ => rfl
  | false => exact isCut_word rfl fun _ => rfl

/-- A written string is cut off whatever follows it. -/
theorem isCut_writeString (text : String) :
    IsCut (writeString text) (.string ⟨text.toList.map StringText.pieceOf, none⟩) := by
  intro spaces rest white _
  have scanned := StringText.scan_writeString text rest
  have quote : writeString text = '"' :: (writeString text).tail := rfl
  have begins : ∀ later, beginning '"' later =
      (.string (StringText.scan later).1, (StringText.scan later).2) := fun _ => rfl
  rw [quote, List.cons_append, next?_append white rfl, begins, scanned]

end Token

/-! ## Whole numbers -/

namespace Numeral

open Decimal (digits run run_append digits_ne_nil isDigit_of_mem_digits)

/-- The parts of a written whole number. -/
def ofInt (n : Int) : Numeral := ⟨n < 0, digits n.natAbs, none, none⟩

/-- Only zero is written with a zero at its front. -/
theorem eq_zero_of_head?_digits {n : Nat} (h : (digits n).head? = some '0') : n = 0 := by
  induction n using Nat.strongRecOn with
  | ind n ih =>
    rcases Nat.lt_or_ge n 10 with single | more
    · rw [digits, Nat.toDigits_of_lt_base single, List.head?_cons, Option.some.injEq] at h
      exact Nat.digitChar_eq_zero.1 h
    · have split : digits n = digits (n / 10) ++ [(n % 10).digitChar] :=
        Nat.toDigits_of_base_le (by decide) more
      rw [split, List.head?_append_of_ne_nil _ (digits_ne_nil (n / 10))] at h
      have zero := ih (n / 10) (by omega) h
      omega

/-- No whole number is written with a zero in front. -/
theorem digits_ne_zero_cons (n : Nat) (c : Char) (later : List Char) :
    digits n ≠ '0' :: c :: later := by
  intro same
  have zero : n = 0 := eq_zero_of_head?_digits (by rw [same, List.head?_cons])
  rw [zero] at same
  cases same

variable {rest : List Char}

theorem isDigit_of_stopsNumber (stops : StopsNumber rest) :
    ∀ c ∈ rest.head?, c.isDigit = false := by
  intro c first
  have none := stops c first
  simp only [extendsNumber, Bool.or_eq_false_iff] at none
  exact none.1.1.1

/-- The digits of a whole number are scanned up to where it stops. -/
theorem scanWhole_digits (n : Nat) (stops : StopsNumber rest) :
    scanWhole (digits n ++ rest) = .ok (digits n, rest) := by
  have front : run (digits n ++ rest) = digits n :=
    run_append (fun _ => isDigit_of_mem_digits) (isDigit_of_stopsNumber stops)
  rw [scanWhole_eq_ok_iff, front]
  exact ⟨⟨digits_ne_nil n, digits_ne_zero_cons n⟩, rfl, List.drop_left.symm⟩

theorem scanFraction_of_stopsNumber (stops : StopsNumber rest) :
    scanFraction rest = .ok (none, rest) := by
  unfold scanFraction
  split
  · exact absurd (stops '.' rfl) (by decide)
  · rfl

theorem scanExponent_of_stopsNumber (stops : StopsNumber rest) :
    scanExponent rest = .ok (none, rest) := by
  unfold scanExponent
  split
  · next mark later =>
    have noMark : ¬(mark = 'e' ∨ mark = 'E') := by
      rintro (rfl | rfl)
      · exact absurd (stops 'e' rfl) (by decide)
      · exact absurd (stops 'E' rfl) (by decide)
    exact if_neg noMark
  · rfl

/-- A number begins with a digit or a minus sign. -/
theorem exists_writeInt_eq_cons (n : Int) :
    ∃ c later, writeInt n = c :: later ∧ (c = '-' ∨ c.isDigit = true) := by
  unfold writeInt
  split
  · exact ⟨'-', _, rfl, Or.inl rfl⟩
  · obtain ⟨c, later, front⟩ := List.exists_cons_of_ne_nil (digits_ne_nil n.natAbs)
    have first : c ∈ digits n.natAbs := by
      rw [front]
      exact List.mem_cons_self
    exact ⟨c, later, front, Or.inr (isDigit_of_mem_digits first)⟩

theorem splitMinus_digits (n : Nat) (rest : List Char) :
    splitMinus (digits n ++ rest) = (false, digits n ++ rest) := by
  unfold splitMinus
  split
  · next later same =>
    -- No digit is a minus sign.
    have minus : '-' ∈ (digits n).head? := by
      rw [← List.head?_append_of_ne_nil _ (digits_ne_nil n), same]
      rfl
    exact absurd (isDigit_of_mem_digits (List.mem_of_mem_head? minus)) (by decide)
  · rfl

/-- A written whole number is scanned into its parts. -/
theorem scan_writeInt (n : Int) (stops : StopsNumber rest) :
    scan (writeInt n ++ rest) = .ok (ofInt n, rest) := by
  have signed : splitMinus (writeInt n ++ rest) = (decide (n < 0), digits n.natAbs ++ rest) := by
    unfold writeInt
    split
    · next negative =>
      rw [decide_eq_true negative]
      rfl
    · next positive => rw [splitMinus_digits, decide_eq_false positive]
  simp only [scan, signed, scanWhole_digits _ stops, scanFraction_of_stopsNumber stops,
    scanExponent_of_stopsNumber stops, bind, Except.bind]
  rfl

/-- The parts of a whole number of 64 bits have that number as their value. -/
theorem value_ofInt {n : Int} (least : -9223372036854775808 ≤ n)
    (below : n < 18446744073709551616) : (ofInt n).value = .ok (.int n) := by
  have size : Decimal.value (digits n.natAbs) = n.natAbs := Nat.ofDigitChars_ten_toDigits
  have whole : (ofInt n).isWhole = true := by
    rcases Int.lt_or_le n 0 with negative | positive
    · simp [isWhole, ofInt, size, negative, signedLimit]
      omega
    · have notNegative : ¬n < 0 := by omega
      simp [isWhole, ofInt, size, notNegative, wordLimit]
      omega
  rw [value, if_pos whole]
  simp only [ofInt, size, decide_eq_true_eq]
  congr 2
  split <;> omega

end Numeral

namespace Token

variable {c : Char}

theorem ne_of_begins_number (h : c = '-' ∨ c.isDigit = true) {other : Char}
    (notMinus : other ≠ '-') (notDigit : other.isDigit = false) : c ≠ other := by
  rintro rfl
  rcases h with minus | digit
  · exact notMinus minus
  · exact absurd digit (by simp [notDigit])

theorem isSpace_of_begins_number (h : c = '-' ∨ c.isDigit = true) : isSpace c = false := by
  cases space : isSpace c with
  | false => rfl
  | true =>
    rcases isSpace_iff.1 space with same | same | same | same
    all_goals exact absurd same (ne_of_begins_number h (by decide) (by decide))

/-- A minus and a digit begin numbers and nothing else. -/
theorem beginning_of_begins_number (h : c = '-' ∨ c.isDigit = true) (rest : List Char) :
    beginning c rest = numberToken (c :: rest) := by
  have ne {other : Char} : other ≠ '-' → other.isDigit = false → c ≠ other := ne_of_begins_number h
  have noMark : mark? c = none := by
    unfold mark?
    rw [if_neg (ne (by decide) rfl), if_neg (ne (by decide) rfl), if_neg (ne (by decide) rfl),
      if_neg (ne (by decide) rfl), if_neg (ne (by decide) rfl), if_neg (ne (by decide) rfl)]
  have noWord : word? c = none := by
    unfold word?
    rw [if_neg (ne (by decide) rfl), if_neg (ne (by decide) rfl), if_neg (ne (by decide) rfl)]
  simp only [beginning, noMark, noWord]
  rw [if_neg (ne (by decide) rfl), if_pos h]

/-- A written whole number is cut off before whatever ends a number. -/
theorem isCut_writeInt (n : Int) : IsCut (writeInt n) (.number (.ok (Numeral.ofInt n))) := by
  intro spaces rest white stops
  obtain ⟨c, later, front, number⟩ := Numeral.exists_writeInt_eq_cons n
  have scanned := Numeral.scan_writeInt n stops
  rw [front, List.cons_append] at scanned ⊢
  rw [next?_append white (isSpace_of_begins_number number), beginning_of_begins_number number,
    numberToken, scanned]

/-! ## All parts -/

/-- The tokens of the parts, each of them on its own. -/
def ofParts (parts : List (List Char)) : List Token := parts.flatMap list

/-- In front of whatever ends a number, a text made of the parts is cut into their tokens. -/
def AreCut (parts : List (List Char)) : Prop :=
  ∀ later text, MarkFirst later → Spaced (parts ++ later) text →
    ∃ rest, Spaced later rest ∧ list text = ofParts parts ++ list rest

variable {part : List Char} {parts front back : List (List Char)} {token : Token}

theorem ofParts_cons (cut : IsCut part token) (parts : List (List Char)) :
    ofParts (part :: parts) = token :: ofParts parts := by
  rw [ofParts, List.flatMap_cons, list_of_isCut cut]
  rfl

theorem ofParts_append (front back : List (List Char)) :
    ofParts (front ++ back) = ofParts front ++ ofParts back := List.flatMap_append

theorem areCut_nil : AreCut [] := fun _ text _ spaced => ⟨text, spaced, rfl⟩

theorem areCut_singleton (cut : IsCut part token) : AreCut [part] := by
  intro later text mark spaced
  cases spaced with
  | @goes spaces _ rest _ white laterSpaced =>
    refine ⟨rest, laterSpaced, ?_⟩
    rw [list_of_next?_some (cut spaces rest white (stopsNumber_of_spaced mark laterSpaced)),
      ofParts_cons cut]
    rfl

/-- Behind a mark any part may follow. -/
theorem areCut_mark_cons (mark : mark? c = some token) (areCut : AreCut parts) :
    AreCut ([c] :: parts) := by
  intro later text first spaced
  cases spaced with
  | @goes spaces _ others _ white othersSpaced =>
    obtain ⟨rest, restSpaced, whole⟩ := areCut later others first othersSpaced
    refine ⟨rest, restSpaced, ?_⟩
    have cut : next? (spaces ++ ([c] ++ others)) = some (token, others) :=
      next?_mark mark white others
    rw [list_of_next?_some cut, whole, ofParts_cons (isCut_mark mark), List.cons_append]

/-- In front of a mark any part may stand. -/
theorem areCut_append_mark (areCutFront : AreCut front) (ends : extendsNumber c = false)
    (areCutBack : AreCut ([c] :: back)) : AreCut (front ++ [c] :: back) := by
  intro later text first spaced
  rw [List.append_assoc] at spaced
  -- If the front ends in a number, the mark ends that number.
  have mark : MarkFirst ([c] :: back ++ later) := by
    rintro part ⟨⟩
    exact ⟨c, rfl, ends⟩
  obtain ⟨middle, middleSpaced, frontCut⟩ := areCutFront _ text mark spaced
  obtain ⟨rest, restSpaced, backCut⟩ := areCutBack later middle first middleSpaced
  refine ⟨rest, restSpaced, ?_⟩
  rw [frontCut, backCut, ofParts_append, List.append_assoc]

/-- Items that are cut into their tokens are so with commas between them. -/
theorem areCut_partsOfItems {items : List Json} (each : ∀ item ∈ items, AreCut item.parts) :
    AreCut (partsOfItems items) := by
  induction items with
  | nil => exact areCut_nil
  | cons item rest ih =>
    obtain ⟨own, others⟩ := List.forall_mem_cons.1 each
    cases rest with
    | nil => exact own
    | cons next rest => exact areCut_append_mark own rfl (areCut_mark_cons rfl (ih others))

/-- Members whose values are cut into their tokens are so with their keys and the marks between
them. -/
theorem areCut_partsOfMembers {members : List (String × Json)}
    (each : ∀ member ∈ members, AreCut member.2.parts) : AreCut (partsOfMembers members) := by
  have keyCut (key : String) : AreCut [writeString key] := areCut_singleton (isCut_writeString key)
  induction members with
  | nil => exact areCut_nil
  | cons member rest ih =>
    obtain ⟨key, value⟩ := member
    obtain ⟨own, others⟩ := List.forall_mem_cons.1 each
    cases rest with
    | nil => exact areCut_append_mark (keyCut key) rfl (areCut_mark_cons rfl own)
    | cons next rest =>
      have behind : AreCut (value.parts ++ [','] :: partsOfMembers (next :: rest)) :=
        areCut_append_mark own rfl (areCut_mark_cons rfl (ih others))
      exact areCut_append_mark (keyCut key) rfl (areCut_mark_cons rfl behind)

/-- Every plain value is cut into the tokens of its parts. -/
theorem areCut_parts {room : Nat} {value : Json} (plain : Plain room value) :
    AreCut value.parts := by
  induction plain with
  | null => exact areCut_singleton isCut_null
  | bool value => exact areCut_singleton (isCut_bool value)
  | int => exact areCut_singleton (isCut_writeInt _)
  | str text => exact areCut_singleton (isCut_writeString text)
  | arr each ih =>
    exact areCut_mark_cons rfl
      (areCut_append_mark (areCut_partsOfItems ih) rfl (areCut_mark_cons rfl areCut_nil))
  | obj distinct each ih =>
    exact areCut_mark_cons rfl
      (areCut_append_mark (areCut_partsOfMembers ih) rfl (areCut_mark_cons rfl areCut_nil))

/-- White space between the parts makes no difference to the tokens. -/
theorem list_of_spaced {room : Nat} {value : Json} {text : List Char} (plain : Plain room value)
    (spaced : Spaced value.parts text) : list text = ofParts value.parts := by
  -- Behind the last part there is only white space.
  rw [← List.append_nil value.parts] at spaced
  obtain ⟨rest, restSpaced, whole⟩ := areCut_parts plain [] text nofun spaced
  cases restSpaced with
  | ends white =>
    rw [whole, list_of_next?_none (next?_of_forall_isSpace white), List.append_nil]

end Token

end SwarmChart.Json
