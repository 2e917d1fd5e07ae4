import SwarmChart.Proofs.Timestamp.Held
import SwarmChart.Timestamp.Fields.Lemmas

/-!
# Printed timestamps are read back

The timestamp of an instant is read as that instant (`Timestamp.read_write`), whatever sign and
width its year has, whatever its fraction, and inside leap seconds too. The fields are read back one
by one by the notation without a zone (`Bare.fields_writeFields`); the notation with one, which is
tried first, finds no zone behind them (`Zoned.read_writeFields`).
-/

set_option autoImplicit false

namespace SwarmChart

/-! ## Digits -/

namespace Decimal

theorem padded_ne_nil (width n : Nat) : padded width n ≠ [] :=
  List.append_ne_nil_of_right_ne_nil _ (digits_ne_nil n)

/-- A number that fits its width is written in that width. -/
theorem length_padded {width n : Nat} (positive : 0 < width) (fits : n < tenTo width) :
    (padded width n).length = width := by
  have short : (digits n).length ≤ width :=
    (Nat.length_toDigits_le_iff (by decide) positive).2 fits
  rw [padded, List.length_append, List.length_replicate]
  omega

/-- Digits are taken whole at their own width. -/
theorem leading_append {width : Nat} {digits : List Char} (length : digits.length = width)
    (isDigit : ∀ c ∈ digits, c.isDigit = true) (rest : List Char) :
    leading width (digits ++ rest) = digits := by
  rw [leading, List.take_left' length, List.takeWhile_eq_self_iff]
  exact isDigit

/-- The digits of a number are taken whole where no digit follows. -/
theorem run_padded (width n : Nat) {rest : List Char}
    (stop : ∀ c ∈ rest.head?, c.isDigit = false) :
    run (padded width n ++ rest) = padded width n :=
  run_append (fun _ => isDigit_of_mem_padded) stop

end Decimal

/-! ## White space -/

namespace Text

theorem not_isBlank_of_isDigit {c : Char} (h : c.isDigit = true) : isBlank c = false := by
  have bounds := Char.isDigit_iff_toNat.1 h
  have zero : '0'.toNat = 48 := rfl
  have nine : '9'.toNat = 57 := rfl
  simp only [isBlank, isBlankCode, Bool.or_eq_false_iff, Bool.and_eq_false_iff,
    decide_eq_false_iff_not,
    beq_eq_false_iff_ne, ne_eq]
  omega

theorem trimStart_of_head? {text : List Char} (h : ∀ c ∈ text.head?, isBlank c = false) :
    trimStart text = text := by
  cases text with
  | nil => rfl
  | cons c rest => rw [trimStart, List.dropWhile_cons_of_neg (by simp [h c rfl])]

theorem trim_of_forall_not_isBlank {text : List Char} (h : ∀ c ∈ text, isBlank c = false) :
    trim text = text := by
  have front : trimStart text = text :=
    trimStart_of_head? fun c first => h c (List.mem_of_head? first)
  have back : trimStart text.reverse = text.reverse :=
    trimStart_of_head? fun c last => h c (List.mem_reverse.1 (List.mem_of_head? last))
  rw [trim, front, trimEnd, ← trimStart, back, List.reverse_reverse]

namespace Reader

theorem literal_self (c : Char) (rest : List Char) : literal c (c :: rest) = some ((), rest) :=
  if_pos rfl

variable {width n : Nat} {text rest : List Char}

theorem fixedNumber_append {digits : List Char} (length : digits.length = width)
    (isDigit : ∀ c ∈ digits, c.isDigit = true) (rest : List Char) :
    fixedNumber width (digits ++ rest) = some (Decimal.value digits, rest) := by
  have front := Decimal.leading_append length isDigit rest
  rw [fixedNumber, front, if_pos length, List.drop_left' length]

/-- A number written in a width is read back in that width. -/
theorem fixedNumber_padded (positive : 0 < width) (fits : n < Decimal.tenTo width)
    (rest : List Char) : fixedNumber width (Decimal.padded width n ++ rest) = some (n, rest) := by
  have length := Decimal.length_padded positive fits
  rw [fixedNumber_append length fun _ => Decimal.isDigit_of_mem_padded, Decimal.value_padded]

/-- A number in full width has as many digits in front. -/
theorem length_leading_of_fixedNumber (h : fixedNumber width text = some (n, rest)) :
    (Decimal.leading width text).length = width := by
  simp only [fixedNumber] at h
  split at h
  · next full => exact full
  · cases h

theorem leading_ne_nil_of_fixedNumber (positive : 0 < width)
    (h : fixedNumber width text = some (n, rest)) : Decimal.leading width text ≠ [] := by
  intro none
  have full := length_leading_of_fixedNumber h
  rw [none] at full
  exact Nat.ne_of_lt positive full

/-- A number in full width is a number of at most that width. -/
theorem shortNumber_of_fixedNumber (positive : 0 < width)
    (h : fixedNumber width text = some (n, rest)) : shortNumber width text = some (n, rest) := by
  have full := length_leading_of_fixedNumber h
  rw [shortNumber]
  split
  · next none => exact absurd none (leading_ne_nil_of_fixedNumber positive h)
  · rw [← h, fixedNumber, if_pos full, full]

theorem exists_digit_of_fixedNumber (positive : 0 < width)
    (h : fixedNumber width text = some (n, rest)) :
    ∃ c tail, text = c :: tail ∧ c.isDigit = true := by
  obtain ⟨c, others, front⟩ :=
    List.exists_cons_of_ne_nil (leading_ne_nil_of_fixedNumber positive h)
  have digit : c.isDigit = true := by
    apply List.mem_takeWhile_imp (l := text.take width)
    rw [← Decimal.leading, front]
    exact List.mem_cons_self
  have inFront : c :: others <+: text := by
    rw [← front]
    exact (List.takeWhile_prefix _).trans (List.take_prefix _ _)
  obtain ⟨tail, parts⟩ := inFront
  exact ⟨c, others ++ tail, parts.symm, digit⟩

theorem trimStart_of_fixedNumber (positive : 0 < width)
    (h : fixedNumber width text = some (n, rest)) : trimStart text = text := by
  obtain ⟨c, tail, rfl, digit⟩ := exists_digit_of_fixedNumber positive h
  apply trimStart_of_head?
  rintro _ ⟨⟩
  exact not_isBlank_of_isDigit digit

/-- A number of any length is read back where no digit follows. -/
theorem longNumber_padded {rest : List Char} (stop : ∀ c ∈ rest.head?, c.isDigit = false) :
    longNumber (Decimal.padded width n ++ rest) = some (n, rest) := by
  rw [longNumber, Decimal.run_padded width n stop]
  split
  · next none => exact absurd none (Decimal.padded_ne_nil width n)
  · rw [Decimal.value_padded, List.drop_left]

end Reader

end Text

namespace Timestamp

/-! ## Fractions -/

/-- Digits behind the point count from the left. -/
theorem fraction_padded {width n : Nat} (positive : 0 < width) (narrow : width ≤ 9)
    (fits : n < Decimal.tenTo width) :
    fraction ('.' :: Decimal.padded width n) = some (n * Decimal.tenTo (9 - width), []) := by
  have length := Decimal.length_padded positive fits
  have front : Decimal.run (Decimal.padded width n) = Decimal.padded width n := by
    rw [Decimal.run, List.takeWhile_eq_self_iff]
    intro c member
    exact Decimal.isDigit_of_mem_padded member
  have nanos : nanosOfFraction (Decimal.padded width n) = n * Decimal.tenTo (9 - width) := by
    rw [nanosOfFraction, length, List.take_of_length_le (by omega), Decimal.value_padded]
  simp only [fraction, front]
  split
  · next none => exact absurd none (Decimal.padded_ne_nil width n)
  · rw [nanos, List.drop_length]

/-- A fraction is read back in whichever of the four widths it was written. -/
theorem fraction_writeFraction {nanos : Nat} (below : nanos < nanosPerSecond) :
    fraction (writeFraction nanos) = some (nanos, []) := by
  have three : Decimal.tenTo 3 = 1000 := rfl
  have six : Decimal.tenTo 6 = 1000000 := rfl
  have nine : Decimal.tenTo 9 = 1000000000 := rfl
  have second : nanosPerSecond = 1000000000 := rfl
  -- The fewest groups of three digits that lose nothing are written.
  unfold writeFraction
  split
  · next zero =>
    rw [zero]
    rfl
  split
  · next millis =>
    have whole : nanos / 1000000 * 1000000 = nanos := by omega
    rw [fraction_padded (by decide) (by decide) (by omega), six, whole]
  split
  · next micros =>
    have whole : nanos / 1000 * 1000 = nanos := by omega
    rw [fraction_padded (by decide) (by decide) (by omega), three, whole]
  · rw [fraction_padded (by decide) (by decide) (by omega), Nat.sub_self]
    exact congrArg (fun n => some (n, [])) (Nat.mul_one nanos)

/-! ## Fields -/

/-- The fields can be written in their widths. -/
structure Fields.Fit (fields : Fields) : Prop where
  month : fields.date.month < 100
  day : fields.date.day < 100
  hour : fields.hour < 100
  minute : fields.minute < 100
  second : fields.second < 100
  nanos : fields.nanos < nanosPerSecond

theorem getD_monthLengths_le (leap : Bool) (month : Nat) :
    (monthLengths leap).getD month 0 ≤ 31 := by
  have each : ∀ length ∈ monthLengths leap, length ≤ 31 := by cases leap <;> decide
  rw [List.getD_eq_getElem?_getD]
  cases found : (monthLengths leap)[month]? with
  | none => exact Nat.zero_le 31
  | some length => exact each length (List.mem_of_getElem? found)

/-- Valid fields have the widths in which they are written. -/
theorem Fields.fit_of_isValid {fields : Fields} (valid : fields.isValid = true)
    (below : fields.nanos < nanosPerSecond) : fields.Fit := by
  simp only [isValid, Date.isValid, Bool.and_eq_true, decide_eq_true_eq] at valid
  obtain ⟨⟨⟨⟨⟨⟨⟨-, month⟩, -⟩, day⟩, -⟩, hour⟩, minute⟩, second⟩ := valid
  have longest := getD_monthLengths_le (isLeapYear fields.date.year) (fields.date.month - 1)
  exact ⟨by omega, by omega, by omega, by omega, by omega, below⟩

/-- A number begins with a digit. -/
theorem exists_padded_eq_cons (width n : Nat) :
    ∃ c rest, Decimal.padded width n = c :: rest ∧ c.isDigit = true := by
  obtain ⟨c, rest, h⟩ := List.exists_cons_of_ne_nil (Decimal.padded_ne_nil width n)
  refine ⟨c, rest, h, ?_⟩
  apply Decimal.isDigit_of_mem_padded
  rw [h]
  exact List.mem_cons_self

theorem natAbs_lt_of_fourDigits {year : Int} (fourDigits : 0 ≤ year ∧ year ≤ 9999) :
    year.natAbs < Decimal.tenTo 4 := by
  have limit : Decimal.tenTo 4 = 10000 := rfl
  omega

/-! ## The notation without a zone -/

namespace Bare

theorem field_of_fixedNumber {n : Nat} {text rest : List Char}
    (h : Text.Reader.fixedNumber 2 text = some (n, rest)) : field text = some (n, rest) := by
  rw [field, Text.Reader.trimStart_of_fixedNumber (by decide) h]
  exact Text.Reader.shortNumber_of_fixedNumber (by decide) h

theorem field_padded {n : Nat} (fits : n < 100) (rest : List Char) :
    field (Decimal.padded 2 n ++ rest) = some (n, rest) :=
  field_of_fixedNumber (Text.Reader.fixedNumber_padded (by decide) fits rest)

/-- A year without a sign has four digits at most. -/
theorem signedYear_of_isDigit {c : Char} (digit : c.isDigit = true) (rest : List Char) :
    signedYear (c :: rest) =
      (Text.Reader.shortNumber 4 (c :: rest)).map fun (year, rest) => (year, rest) := by
  unfold signedYear
  split
  · next minus =>
    cases minus
    exact absurd digit (by decide)
  · next plus =>
    cases plus
    exact absurd digit (by decide)
  · rfl

/-- A year of four digits needs no sign. -/
theorem signedYear_of_fixedNumber {n : Nat} {text rest : List Char}
    (h : Text.Reader.fixedNumber 4 text = some (n, rest)) :
    signedYear text = some ((n : Int), rest) := by
  obtain ⟨c, tail, rfl, digit⟩ := Text.Reader.exists_digit_of_fixedNumber (by decide) h
  rw [signedYear_of_isDigit digit, Text.Reader.shortNumber_of_fixedNumber (by decide) h]
  rfl

theorem trimStart_writeYear (year : Int) (rest : List Char) :
    Text.trimStart (writeYear year ++ rest) = writeYear year ++ rest := by
  apply Text.trimStart_of_head?
  unfold writeYear
  split
  · obtain ⟨c, others, h, digit⟩ := exists_padded_eq_cons 4 year.natAbs
    rw [h]
    rintro _ ⟨⟩
    exact Text.not_isBlank_of_isDigit digit
  · split
    · rintro _ ⟨⟩
      decide
    · rintro _ ⟨⟩
      decide

/-- A year is read back with its sign, whatever its number of digits. -/
theorem signedYear_writeYear (year : Int) (rest : List Char) :
    signedYear (writeYear year ++ '-' :: rest) = some (year, '-' :: rest) := by
  have stop : ∀ c ∈ ('-' :: rest).head?, c.isDigit = false := by
    rintro _ ⟨⟩
    decide
  unfold writeYear
  split
  · next fourDigits =>
    have fits := natAbs_lt_of_fourDigits fourDigits
    have size : (year.natAbs : Int) = year := by omega
    rw [signedYear_of_fixedNumber (Text.Reader.fixedNumber_padded (by decide) fits _), size]
  · next signed =>
    split
    · next negative =>
      have size : -(year.natAbs : Int) = year := by omega
      rw [List.cons_append, signedYear, Text.Reader.longNumber_padded stop, Option.map_some]
      dsimp only
      rw [size]
    · next positive =>
      have size : (year.natAbs : Int) = year := by omega
      rw [List.cons_append, signedYear, Text.Reader.longNumber_padded stop, Option.map_some]
      dsimp only
      rw [size]

/-- Fields are read back from their text without a zone. -/
theorem fields_writeFields {fields : Fields} (fit : fields.Fit) :
    Bare.fields (writeFields fields) = some (fields, []) := by
  simp only [Bare.fields, writeFields, List.append_assoc, List.cons_append, trimStart_writeYear,
    signedYear_writeYear, Text.Reader.literal_self, field_padded fit.month, field_padded fit.day,
    field_padded fit.hour, field_padded fit.minute, field_padded fit.second,
    fraction_writeFraction fit.nanos, Option.bind_eq_bind, Option.bind_some]

theorem read_writeFields {fields : Fields} (fit : fields.Fit) :
    Bare.read (writeFields fields) = fields.instant? := by
  rw [Bare.read, fields_writeFields fit]
  rfl

end Bare

/-! ## The notation with a zone -/

namespace Zoned

theorem separator_capital (rest : List Char) : separator ('T' :: rest) = some ((), rest) := by
  simp [separator]

/-- A year of four digits and all the fields behind it are read back in this notation too. -/
theorem fields_writeFields {fields : Fields} (fit : fields.Fit)
    (fourDigits : 0 ≤ fields.date.year ∧ fields.date.year ≤ 9999) :
    Zoned.fields (writeFields fields) = some (fields, []) := by
  have fits := natAbs_lt_of_fourDigits fourDigits
  have size : (fields.date.year.natAbs : Int) = fields.date.year := by omega
  have two : 0 < 2 := by decide
  simp only [Zoned.fields, writeFields, writeYear, if_pos fourDigits, List.append_assoc,
    List.cons_append, Text.Reader.literal_self, separator_capital,
    Text.Reader.fixedNumber_padded (by decide) fits,
    Text.Reader.fixedNumber_padded two fit.month, Text.Reader.fixedNumber_padded two fit.day,
    Text.Reader.fixedNumber_padded two fit.hour, Text.Reader.fixedNumber_padded two fit.minute,
    Text.Reader.fixedNumber_padded two fit.second, fraction_writeFraction fit.nanos,
    Option.bind_eq_bind, Option.bind_some, size]

/-- A sign is no digit of a year. -/
theorem fields_of_signed {c : Char} (sign : c.isDigit = false) (rest : List Char) :
    Zoned.fields (c :: rest) = none := by
  have noDigit : Decimal.leading 4 (c :: rest) = [] := by
    rw [Decimal.leading, List.take_succ_cons, List.takeWhile_cons_of_neg (by simp [sign])]
  simp [Zoned.fields, Text.Reader.fixedNumber, noDigit]

/-- Behind a printed timestamp there is no zone. -/
theorem read_writeFields {fields : Fields} (fit : fields.Fit) :
    Zoned.read (writeFields fields) = none := by
  -- A year of four digits is read here too, but then no zone follows; any other year has a sign.
  by_cases fourDigits : 0 ≤ fields.date.year ∧ fields.date.year ≤ 9999
  · rw [Zoned.read, fields_writeFields fit fourDigits]
    rfl
  · have signed : Zoned.fields (writeFields fields) = none := by
      rw [writeFields, writeYear, if_neg fourDigits]
      split
      · exact fields_of_signed (by decide) _
      · exact fields_of_signed (by decide) _
    rw [Zoned.read, signed]
    rfl

end Zoned

/-! ## Both notations -/

/-- The characters of a timestamp that are no digits. -/
def marks : List Char := ['-', '+', 'T', ':', '.']

theorem isDigit_or_mem_marks_of_writeYear {year : Int} {c : Char} (member : c ∈ writeYear year) :
    c.isDigit = true ∨ c ∈ marks := by
  unfold writeYear at member
  split at member
  · exact Or.inl (Decimal.isDigit_of_mem_padded member)
  · rcases List.mem_cons.1 member with rfl | member
    · right
      split <;> decide
    · exact Or.inl (Decimal.isDigit_of_mem_padded member)

theorem isDigit_or_mem_marks_of_writeFraction {nanos : Nat} {c : Char}
    (member : c ∈ writeFraction nanos) : c.isDigit = true ∨ c ∈ marks := by
  have padded : ∀ width n, c ∈ '.' :: Decimal.padded width n → c.isDigit = true ∨ c ∈ marks := by
    intro width n member
    rcases List.mem_cons.1 member with rfl | member
    · exact Or.inr (by decide)
    · exact Or.inl (Decimal.isDigit_of_mem_padded member)
  unfold writeFraction at member
  split at member
  · cases member
  split at member
  · exact padded 3 _ member
  split at member
  · exact padded 6 _ member
  · exact padded 9 _ member

/-- A timestamp is made of digits and marks. -/
theorem isDigit_or_mem_marks {fields : Fields} {c : Char} (member : c ∈ writeFields fields) :
    c.isDigit = true ∨ c ∈ marks := by
  have mark : ∀ {first : Char} {width n : Nat}, first ∈ marks →
      c ∈ first :: Decimal.padded width n → c.isDigit = true ∨ c ∈ marks := by
    intro first width n isMark member
    rcases List.mem_cons.1 member with rfl | member
    · exact Or.inr isMark
    · exact Or.inl (Decimal.isDigit_of_mem_padded member)
  simp only [writeFields, List.mem_append] at member
  rcases member with (((((year | month) | day) | hour) | minute) | second) | fraction
  · exact isDigit_or_mem_marks_of_writeYear year
  · exact mark (by decide) month
  · exact mark (by decide) day
  · exact mark (by decide) hour
  · exact mark (by decide) minute
  · exact mark (by decide) second
  · exact isDigit_or_mem_marks_of_writeFraction fraction

/-- There is no white space in a timestamp that was written. -/
theorem not_isBlank_of_mem_writeFields {fields : Fields} {c : Char}
    (member : c ∈ writeFields fields) : Text.isBlank c = false := by
  have noBlank : ∀ mark ∈ marks, Text.isBlank mark = false := by
    simp only [marks, List.forall_mem_cons, List.not_mem_nil, false_implies, implies_true, and_true]
    exact ⟨rfl, rfl, rfl, rfl, rfl⟩
  rcases isDigit_or_mem_marks member with digit | isMark
  · exact Text.not_isBlank_of_isDigit digit
  · exact noBlank c isMark

/-- A timestamp that was written is not taken for one with a zone. -/
theorem readChars_writeFields {fields : Fields} (fit : fields.Fit) :
    readChars (writeFields fields) = fields.instant? := by
  -- The first notation fails on every printed timestamp, so the second one decides.
  have untouched : Text.trim (writeFields fields) = writeFields fields := by
    apply Text.trim_of_forall_not_isBlank
    intro c member
    exact not_isBlank_of_mem_writeFields member
  simp only [readChars, untouched, Zoned.read_writeFields fit, Bare.read_writeFields fit]

/-- The timestamp of an instant says that instant, if a leap second stands at the end of its
minute. -/
theorem read_write {instant : Instant} (held : instant.Held)
    (leap : nanosPerSecond ≤ instant.nanos → instant.seconds % 60 = 59) :
    read (write instant) = some instant := by
  have valid := Fields.isValid_ofInstant held.inRange held.bound
  have below : (Fields.ofInstant instant).nanos < nanosPerSecond := Nat.mod_lt _ (by decide)
  rw [read, write, String.toList_ofList, writeChars,
    readChars_writeFields (Fields.fit_of_isValid valid below)]
  exact Fields.instant?_ofInstant held.inRange held.bound leap

/-- The end of a leap second before the year zero. -/
theorem read_write_before_year_zero :
    write ⟨-62167219201, 1999999999⟩ = "-0001-12-31T23:59:60.999999999" ∧
      read (write ⟨-62167219201, 1999999999⟩) = some ⟨-62167219201, 1999999999⟩ :=
  ⟨by decide, read_write ⟨by decide, by decide⟩ fun _ => by decide⟩

end Timestamp

end SwarmChart
