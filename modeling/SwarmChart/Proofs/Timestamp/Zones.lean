import SwarmChart.Proofs.Timestamp.RoundTrip

/-!
# Zones shift the instant and nothing else

A text in full (`FullText`) writes every number of a timestamp at its whole width and perhaps a
fraction. Both notations read the same fields from it (`Zoned.fields_full`, `Bare.fields_full`), so
a zone behind it moves the seconds by the offset and leaves the fraction and a leap second alone
(`readChars_full_append`). Where the notation with a zone reads fields, the one without reads the
same or none (`Bare.fields_of_zoned`); what is left for the zone then stops it, so no text is read
in both (`Zoned.read_eq_none_or`). White space around a text is never looked at
(`Text.trim_surrounded`). The main statement, `Timestamp.read_zones`, has all of this.
-/

set_option autoImplicit false

namespace SwarmChart

/-! ## Numbers of a fixed width -/

/-- Exactly `width` decimal digits. -/
structure Decimal.FixedDigits (width : Nat) where
  chars : List Char
  length_eq : chars.length = width
  isDigit : ∀ c ∈ chars, c.isDigit = true

/-- The number that the digits write. -/
def Decimal.FixedDigits.value {width : Nat} (digits : FixedDigits width) : Nat :=
  Decimal.value digits.chars

namespace Text

/-! ## White space around a text -/

/-- White space in front is taken away with all that follows it. -/
theorem trimStart_append_of_blank {before : List Char} (blank : isBlankText before = true)
    (text : List Char) : trimStart (before ++ text) = trimStart text :=
  List.dropWhile_append_of_pos (List.all_eq_true.1 blank)

theorem trimStart_of_blank {text : List Char} (blank : isBlankText text = true) :
    trimStart text = [] := by
  have front := trimStart_append_of_blank blank []
  rwa [List.append_nil] at front

/-- White space behind is taken away with all that is before it. -/
theorem trimEnd_append_of_blank {after : List Char} (blank : isBlankText after = true)
    (text : List Char) : trimEnd (text ++ after) = trimEnd text := by
  have reversed : isBlankText after.reverse = true := by rwa [isBlankText, List.all_reverse]
  have front := trimStart_append_of_blank reversed text.reverse
  rw [trimEnd, List.reverse_append, ← trimStart, front]
  rfl

/-- White space on both sides of a text is taken off with the text's own. -/
theorem trim_surrounded {before after : List Char} (blankBefore : isBlankText before = true)
    (blankAfter : isBlankText after = true) (text : List Char) :
    trim (before ++ (text ++ after)) = trim text := by
  rw [trim, trim, trimStart_append_of_blank blankBefore]
  -- A text of white space only is taken off with what is behind it.
  by_cases blank : isBlankText text = true
  · rw [trimStart_append_of_blank blank, trimStart_of_blank blank, trimStart_of_blank blankAfter]
  · have front : trimStart (text ++ after) = trimStart text ++ after := by
      rw [trimStart, List.dropWhile_append, if_neg]
      · rfl
      · intro empty
        apply blank
        rw [List.isEmpty_iff, List.dropWhile_eq_nil_iff] at empty
        exact List.all_eq_true.2 empty
    rw [front, trimEnd_append_of_blank blankAfter]

/-! ## Readers on digits -/

namespace Reader

theorem fixedNumber_digits {width : Nat} (digits : Decimal.FixedDigits width)
    (rest : List Char) : fixedNumber width (digits.chars ++ rest) = some (digits.value, rest) :=
  fixedNumber_append digits.length_eq digits.isDigit rest

end Reader

end Text

namespace Timestamp

open Text.Reader (literal fixedNumber)

/-! ## Texts in full -/

/-- A text of the shape `dddd-dd-ddTdd:dd:dd`, perhaps with a fraction behind it. -/
structure FullText where
  year : Decimal.FixedDigits 4
  month : Decimal.FixedDigits 2
  day : Decimal.FixedDigits 2
  hour : Decimal.FixedDigits 2
  minute : Decimal.FixedDigits 2
  second : Decimal.FixedDigits 2
  /-- The digits behind the point. Without any there is no point either. -/
  fraction : List Char
  fraction_isDigit : ∀ c ∈ fraction, c.isDigit = true

namespace FullText

/-- The fraction with its point. -/
def pointed (full : FullText) : List Char :=
  match full.fraction with
  | [] => []
  | digits => '.' :: digits

/-- The characters of the text. -/
def chars (full : FullText) : List Char :=
  full.year.chars ++ '-' :: full.month.chars ++ '-' :: full.day.chars
    ++ 'T' :: full.hour.chars ++ ':' :: full.minute.chars ++ ':' :: full.second.chars
    ++ full.pointed

/-- The text. -/
def text (full : FullText) : String := String.ofList full.chars

/-- The fields that the numbers of the text give. -/
def fields (full : FullText) : Fields :=
  ⟨⟨full.year.value, full.month.value, full.day.value⟩, full.hour.value, full.minute.value,
    full.second.value, nanosOfFraction full.fraction⟩

end FullText

/-- The three ways to write the sign of an offset. -/
inductive OffsetSign where
  | plus
  | hyphen
  /-- The sign U+2212. -/
  | minus
  deriving DecidableEq, Repr

/-- The character of the sign. -/
def OffsetSign.char : OffsetSign → Char
  | plus => '+'
  | hyphen => '-'
  | minus => '\u2212'

/-- An offset from universal time of less than a day, in hours and minutes. -/
structure Offset where
  sign : OffsetSign
  hours : Decimal.FixedDigits 2
  minutes : Decimal.FixedDigits 2
  minutes_lt : minutes.value < 60
  size_lt : hours.value * 3600 + minutes.value * 60 < 86400

namespace Offset

/-- The characters of the offset: sign, hours, a colon, minutes. -/
def chars (offset : Offset) : List Char :=
  offset.sign.char :: offset.hours.chars ++ ':' :: offset.minutes.chars

/-- The text of the offset. -/
def text (offset : Offset) : String := String.ofList offset.chars

/-- The seconds of the offset, without its sign. -/
def size (offset : Offset) : Nat := offset.hours.value * 3600 + offset.minutes.value * 60

/-- The seconds by which the zone is ahead of universal time. -/
def ahead (offset : Offset) : Int :=
  match offset.sign with
  | .plus => offset.size
  | .hyphen | .minus => -offset.size

end Offset

/-- The instant of universal time at which a clock that is so many seconds ahead shows `shown`. -/
def unshifted (ahead : Int) (shown : Instant) : Instant := ⟨shown.seconds - ahead, shown.nanos⟩

/-! ## Fields of a text in full -/

/-- What may follow a text in full without being taken for more of its fraction. -/
def EndsFraction (rest : List Char) : Prop := ∀ c ∈ rest.head?, c.isDigit = false ∧ c ≠ '.'

theorem endsFraction_nil : EndsFraction [] := by
  rintro _ ⟨⟩

/-- The fraction of a full text is read up to where it ends. -/
theorem fraction_pointed (full : FullText) {rest : List Char} (ends : EndsFraction rest) :
    fraction (full.pointed ++ rest) = some (nanosOfFraction full.fraction, rest) := by
  have noDigit : ∀ c ∈ rest.head?, c.isDigit = false := fun c first => (ends c first).1
  rw [FullText.pointed]
  cases found : full.fraction with
  | nil =>
    rw [List.nil_append]
    unfold fraction
    split
    · exact absurd rfl (ends '.' rfl).2
    · rfl
  | cons first others =>
    have all : Decimal.run (first :: others ++ rest) = first :: others := by
      rw [← found]
      exact Decimal.run_append full.fraction_isDigit noDigit
    simp only [List.cons_append] at all
    simp only [List.cons_append, fraction, all]
    exact congrArg (fun behind => some (nanosOfFraction (first :: others), behind)) List.drop_left

/-- The fields of a full text are read by the notation with a zone. -/
theorem Zoned.fields_full (full : FullText) {rest : List Char} (ends : EndsFraction rest) :
    Zoned.fields (full.chars ++ rest) = some (full.fields, rest) := by
  simp only [Zoned.fields, FullText.chars, List.append_assoc, List.cons_append,
    Text.Reader.fixedNumber_digits, Text.Reader.literal_self, separator_capital,
    fraction_pointed full ends, Option.bind_eq_bind, Option.bind_some]
  rfl

namespace Bare

variable {text rest : List Char}

/-- The fields of a full text are read by the notation without a zone. -/
theorem fields_full (full : FullText) (ends : EndsFraction rest) :
    Bare.fields (full.chars ++ rest) = some (full.fields, rest) := by
  simp only [Bare.fields, FullText.chars, List.append_assoc, List.cons_append,
    Text.Reader.trimStart_of_fixedNumber (by decide) (Text.Reader.fixedNumber_digits full.year _),
    signedYear_of_fixedNumber (Text.Reader.fixedNumber_digits full.year _),
    field_of_fixedNumber (Text.Reader.fixedNumber_digits _ _), Text.Reader.literal_self,
    fraction_pointed full ends, Option.bind_eq_bind, Option.bind_some]
  rfl

/-- Only a capital T may stand between date and time of day in both notations. -/
theorem literal_of_separator (h : Zoned.separator text = some ((), rest)) :
    literal 'T' text = some ((), rest) ∨ literal 'T' text = none := by
  cases text with
  | nil => exact Or.inr rfl
  | cons c tail =>
    by_cases capital : c = 'T'
    · subst capital
      left
      rwa [Zoned.separator_capital] at h
    · right
      exact if_neg capital

/-- Where the notation with a zone reads fields, this one reads the same or none. -/
theorem fields_of_zoned {fields : Fields} (h : Zoned.fields text = some (fields, rest)) :
    Bare.fields text = some (fields, rest) ∨ Bare.fields text = none := by
  unfold Zoned.fields at h
  simp only [Option.bind_eq_bind, Option.bind_eq_some_iff, Prod.exists] at h
  obtain ⟨year, _, readYear, _, _, firstHyphen, month, _, readMonth, _, _, secondHyphen, day, _,
    readDay, _, _, mark, hour, _, readHour, _, _, firstColon, minute, _, readMinute, _, _,
    secondColon, second, _, readSecond, nanos, _, readFraction, done⟩ := h
  cases done
  have noBlank := Text.Reader.trimStart_of_fixedNumber (by decide) readYear
  simp only [Bare.fields, noBlank, signedYear_of_fixedNumber readYear, firstHyphen,
    field_of_fixedNumber readMonth, secondHyphen, field_of_fixedNumber readDay,
    Option.bind_eq_bind, Option.bind_some]
  -- Up to the time of day both have read the same, and from there on only behind a capital T.
  rcases literal_of_separator mark with capital | other
  · left
    simp only [capital, field_of_fixedNumber readHour, firstColon,
      field_of_fixedNumber readMinute, secondColon, field_of_fixedNumber readSecond, readFraction,
      Option.bind_some]
  · right
    rw [other]
    rfl

/-- A text is read if nothing is left of it behind its fields. -/
theorem read_of_fields {fields : Fields} (h : Bare.fields text = some (fields, rest)) :
    Bare.read text = if rest.isEmpty then fields.instant? else none := by
  rw [Bare.read, h]
  rfl

end Bare

/-! ## Zones -/

namespace Zoned

theorem ne_nil_of_zone {text rest : List Char} {ahead : Int}
    (h : zone text = some (ahead, rest)) : text ≠ [] := by
  rintro rfl
  cases h

/-- A zone begins with a letter or a sign. -/
theorem endsFraction_of_zone {text rest : List Char} {ahead : Int}
    (h : zone text = some (ahead, rest)) : EndsFraction text := by
  cases text with
  | nil => exact endsFraction_nil
  | cons c tail =>
    have begins : c = 'Z' ∨ c = 'z' ∨ c = '+' ∨ c = '-' ∨ c = '\u2212' := by
      by_contra other
      simp only [not_or] at other
      simp [zone, other] at h
    rintro _ ⟨⟩
    rcases begins with rfl | rfl | rfl | rfl | rfl
    all_goals decide

/-- Fields with a zone behind them give the instant shifted by that zone. -/
theorem read_of_fields {text behind : List Char} {fields : Fields} {ahead : Int}
    (readFields : Zoned.fields text = some (fields, behind))
    (readZone : zone behind = some (ahead, [])) :
    Zoned.read text = fields.instant?.map (unshifted ahead) := by
  simp only [Zoned.read, readFields, readZone, Option.bind_eq_bind, Option.bind_some]
  cases fields.instant? with
  | none => rfl
  | some shown => rfl

/-- No text is read in both notations. -/
theorem read_eq_none_or (text : List Char) : Zoned.read text = none ∨ Bare.read text = none := by
  cases found : Zoned.read text with
  | none => exact Or.inl rfl
  | some instant =>
    right
    unfold Zoned.read at found
    simp only [Option.bind_eq_bind, Option.bind_eq_some_iff, Prod.exists] at found
    obtain ⟨fields, behind, readFields, ahead, _, readZone, -⟩ := found
    -- The zone, which is never empty, is left over in the other notation.
    rcases Bare.fields_of_zoned readFields with same | none
    · rw [Bare.read_of_fields same, if_neg]
      simpa using ne_nil_of_zone readZone
    · rw [Bare.read, none]
      rfl

end Zoned

/-- An offset is read as so many seconds ahead. -/
theorem zone_offset (offset : Offset) : Zoned.zone offset.chars = some (offset.ahead, []) := by
  have size : Zoned.offsetSize (offset.hours.chars ++ ':' :: offset.minutes.chars) =
      some (offset.size, []) := by
    have minutes := Text.Reader.fixedNumber_digits offset.minutes []
    rw [List.append_nil] at minutes
    have below : offset.hours.value < 24 ∧ offset.minutes.value < 60 := by
      have size_lt := offset.size_lt
      exact ⟨by omega, offset.minutes_lt⟩
    simp only [Zoned.offsetSize, Text.Reader.fixedNumber_digits, Text.Reader.literal_self, minutes,
      if_pos below, Option.bind_eq_bind, Option.bind_some]
    rfl
  rw [Offset.chars, Offset.ahead, List.cons_append]
  cases offset.sign with
  | plus => simp [Zoned.zone, OffsetSign.char, size]
  | hyphen => simp [Zoned.zone, OffsetSign.char, size]
  | minus => simp [Zoned.zone, OffsetSign.char, size]

/-! ## Reading with and without a zone -/

/-- A text is read with a zone if that can be, else without one. -/
theorem readChars_eq_or (text : List Char) :
    readChars text = (Zoned.read (Text.trim text)).or (Bare.read (Text.trim text)) := by
  rw [readChars]
  cases Zoned.read (Text.trim text) with
  | none => rfl
  | some instant => rfl

/-- Either notation may be tried first. -/
theorem readChars_eq_or_swapped (text : List Char) :
    readChars text = (Bare.read (Text.trim text)).or (Zoned.read (Text.trim text)) := by
  rw [readChars_eq_or]
  rcases Zoned.read_eq_none_or (Text.trim text) with none | none
  · rw [none, Option.none_or, Option.or_none]
  · rw [none, Option.none_or, Option.or_none]

/-- A mark with digits behind it has no white space. -/
theorem not_isBlank_of_mem_marked {mark c : Char} {digits : List Char}
    (noBlank : Text.isBlank mark = false) (isDigit : ∀ c ∈ digits, c.isDigit = true)
    (member : c ∈ mark :: digits) : Text.isBlank c = false := by
  rcases List.mem_cons.1 member with rfl | member
  · exact noBlank
  · exact Text.not_isBlank_of_isDigit (isDigit c member)

theorem not_isBlank_of_mem_full {full : FullText} {c : Char} (member : c ∈ full.chars) :
    Text.isBlank c = false := by
  simp only [FullText.chars, List.mem_append] at member
  rcases member with (((((year | month) | day) | hour) | minute) | second) | pointed
  · exact Text.not_isBlank_of_isDigit (full.year.isDigit c year)
  · exact not_isBlank_of_mem_marked rfl full.month.isDigit month
  · exact not_isBlank_of_mem_marked rfl full.day.isDigit day
  · exact not_isBlank_of_mem_marked rfl full.hour.isDigit hour
  · exact not_isBlank_of_mem_marked rfl full.minute.isDigit minute
  · exact not_isBlank_of_mem_marked rfl full.second.isDigit second
  · unfold FullText.pointed at pointed
    split at pointed
    · cases pointed
    · exact not_isBlank_of_mem_marked rfl full.fraction_isDigit pointed

theorem not_isBlank_of_mem_offset {offset : Offset} {c : Char} (member : c ∈ offset.chars) :
    Text.isBlank c = false := by
  simp only [Offset.chars, List.mem_append] at member
  rcases member with hours | minutes
  · apply not_isBlank_of_mem_marked _ offset.hours.isDigit hours
    cases offset.sign with
    | plus => rfl
    | hyphen => rfl
    | minus => rfl
  · exact not_isBlank_of_mem_marked rfl offset.minutes.isDigit minutes

/-- A full text without a zone is universal time. -/
theorem readChars_full (full : FullText) : readChars full.chars = full.fields.instant? := by
  have untouched : Text.trim full.chars = full.chars :=
    Text.trim_of_forall_not_isBlank fun _ => not_isBlank_of_mem_full
  have readFields := Bare.fields_full full endsFraction_nil
  have noZone := Zoned.fields_full full endsFraction_nil
  rw [List.append_nil] at readFields noZone
  have zoned : Zoned.read full.chars = none := by
    rw [Zoned.read, noZone]
    rfl
  rw [readChars_eq_or, untouched, zoned, Option.none_or, Bare.read_of_fields readFields]
  rfl

/-- A zone behind a text in full shifts what the text says. -/
theorem readChars_full_append (full : FullText) {zone : List Char} {ahead : Int}
    (readZone : Zoned.zone zone = some (ahead, []))
    (noBlank : ∀ c ∈ zone, Text.isBlank c = false) :
    readChars (full.chars ++ zone) = (readChars full.chars).map (unshifted ahead) := by
  have untouched : Text.trim (full.chars ++ zone) = full.chars ++ zone := by
    apply Text.trim_of_forall_not_isBlank
    intro c member
    rcases List.mem_append.1 member with inFull | inZone
    · exact not_isBlank_of_mem_full inFull
    · exact noBlank c inZone
  have ends := Zoned.endsFraction_of_zone readZone
  -- The zone is left over in the notation without one, whether or not the fields name an instant.
  have bare : Bare.read (full.chars ++ zone) = none := by
    rw [Bare.read_of_fields (Bare.fields_full full ends), if_neg]
    simpa using Zoned.ne_nil_of_zone readZone
  rw [readChars_eq_or, untouched, bare, Option.or_none, readChars_full,
    Zoned.read_of_fields (Zoned.fields_full full ends) readZone]

/-- The letter for universal time changes nothing. -/
theorem readChars_full_letter (full : FullText) {letter : Char}
    (isLetter : letter = 'Z' ∨ letter = 'z') :
    readChars (full.chars ++ [letter]) = readChars full.chars := by
  have readZone : Zoned.zone [letter] = some (0, []) := if_pos isLetter
  have noBlank : ∀ c ∈ [letter], Text.isBlank c = false := by
    intro c member
    rw [List.mem_singleton] at member
    subst member
    rcases isLetter with rfl | rfl
    · rfl
    · rfl
  have still : unshifted 0 = id := by
    funext shown
    rw [unshifted, Int.sub_zero]
    rfl
  rw [readChars_full_append full readZone noBlank, still, Option.map_id]
  rfl

/-- A text in full says the instant that its numbers name. An offset behind it succeeds exactly when
the text alone does and only takes the offset off the seconds, and the letter of universal time
changes nothing. White space around any text does not change what is read, and no text is read in
both notations, so it does not matter which one is tried first. -/
theorem read_zones (full : FullText) (offset : Offset) (text before after : String)
    (blankBefore : Text.isBlankText before.toList = true)
    (blankAfter : Text.isBlankText after.toList = true) :
    read full.text = full.fields.instant? ∧
      read (full.text ++ offset.text) =
        (read full.text).map (fun shown => ⟨shown.seconds - offset.ahead, shown.nanos⟩) ∧
      read (full.text ++ "Z") = read full.text ∧
      read (full.text ++ "z") = read full.text ∧
      read (before ++ (text ++ after)) = read text ∧
      (Zoned.read text.toList = none ∨ Bare.read text.toList = none) ∧
      read text =
        (Bare.read (Text.trim text.toList)).or (Zoned.read (Text.trim text.toList)) := by
  have shift := readChars_full_append full (zone_offset offset) fun _ => not_isBlank_of_mem_offset
  simp only [read, FullText.text, Offset.text, String.toList_append, String.toList_ofList]
  refine ⟨readChars_full full, shift, readChars_full_letter full (Or.inl rfl),
    readChars_full_letter full (Or.inr rfl), ?_, Zoned.read_eq_none_or _,
    readChars_eq_or_swapped _⟩
  rw [readChars, Text.trim_surrounded blankBefore blankAfter]
  rfl

/-- A leap second of the year's last evening, on a clock three hours behind. -/
def lastEvening : FullText where
  year := ⟨['2', '0', '1', '6'], rfl, List.all_eq_true.1 rfl⟩
  month := ⟨['1', '2'], rfl, List.all_eq_true.1 rfl⟩
  day := ⟨['3', '1'], rfl, List.all_eq_true.1 rfl⟩
  hour := ⟨['2', '0'], rfl, List.all_eq_true.1 rfl⟩
  minute := ⟨['5', '9'], rfl, List.all_eq_true.1 rfl⟩
  second := ⟨['6', '0'], rfl, List.all_eq_true.1 rfl⟩
  fraction := ['5']
  fraction_isDigit := List.all_eq_true.1 rfl

/-- Three hours behind universal time. -/
def threeHoursBehind : Offset where
  sign := .minus
  hours := ⟨['0', '3'], rfl, List.all_eq_true.1 rfl⟩
  minutes := ⟨['0', '0'], rfl, List.all_eq_true.1 rfl⟩
  minutes_lt := by decide
  size_lt := by decide

/-- The offset moves the evening to the end of the year and stays inside the leap second. -/
theorem read_zones_into_new_year :
    (Text.isBlankText "\u3000".toList = true ∧ Text.isBlankText "\n".toList = true) ∧
      read "2016-12-31T20:59:60.5" = some ⟨1483217999, 1500000000⟩ ∧
      read "2016-12-31T20:59:60.5\u221203:00" = some ⟨1483228799, 1500000000⟩ ∧
      read ("\u3000" ++ ("2016-12-31T23:59:60.5Z" ++ "\n")) = read "2016-12-31T23:59:60.5Z" := by
  have blank : Text.isBlankText "\u3000".toList = true ∧ Text.isBlankText "\n".toList = true := by
    decide
  obtain ⟨alone, shifted, -, -, surrounded, -⟩ :=
    read_zones lastEvening threeHoursBehind "2016-12-31T23:59:60.5Z" "\u3000" "\n" blank.1 blank.2
  have named : lastEvening.fields.instant? = some ⟨1483217999, 1500000000⟩ := by decide
  rw [named] at alone
  rw [alone] at shifted
  exact ⟨blank, alone, shifted, surrounded⟩

end Timestamp

end SwarmChart
