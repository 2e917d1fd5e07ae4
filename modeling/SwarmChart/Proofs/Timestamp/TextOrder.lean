import SwarmChart.Proofs.Text.Utf8
import SwarmChart.Proofs.Timestamp.RoundTrip

/-!
# Timestamps sort like instants

For years of four digits the timestamps of two instants, compared octet by octet, stand in the order
of the instants (`Timestamp.lt_iff_octets_lt`). Three orders are shown to be one: the texts
compare as the numbers of their fields do, from the year down (`writeFields_lt_iff`); the numbers
compare as the instants do (`numbers_ofInstant_lt_iff`), since the day count is in step with the
dates (`Date.before_of_dayNumber_lt`) and second 60 is the last of its minute; and a timestamp has
ASCII characters only, so octets compare as characters do (`Text.Utf8.encode_lt_encode_iff`).

A number in a fixed width sorts by its value (`Decimal.padded_lt_padded_iff`). The fraction has no
fixed width, but it lacks zeros only, and no digit sorts before a zero
(`Decimal.lt_of_append_zeros`).
-/

set_option autoImplicit false

namespace SwarmChart

/-! ## Texts -/

namespace Text

variable {a b x y : List Char}

theorem lt_iff_toNat_lt (c d : Char) : c < d ↔ c.toNat < d.toNat :=
  Char.lt_def.trans UInt32.lt_iff_toNat_lt

/-- Fronts of one length are compared before what stands behind them. -/
theorem append_lt_append_iff (same : a.length = b.length) :
    a ++ x < b ++ y ↔ a < b ∨ a = b ∧ x < y := by
  induction a generalizing b with
  | nil =>
    cases b with
    | nil => simp
    | cons d b => cases same
  | cons c a ih =>
    cases b with
    | nil => cases same
    | cons d b =>
      rw [List.cons_append, List.cons_append, List.cons_lt_cons_iff, List.cons_lt_cons_iff,
        ih (Nat.succ.inj same), List.cons.injEq]
      tauto

/-- What keeps the order of two values in either direction is in step with it. -/
theorem lt_iff_of_keeps {α β : Type} [LT α] [LT β] [Std.Trichotomous (· < · : α → α → Prop)]
    [Std.Asymm (· < · : β → β → Prop)] {f : α → List β} {v w : α}
    (onwards : v < w → f v < f w) (backwards : w < v → f w < f v) : f v < f w ↔ v < w := by
  refine ⟨?_, onwards⟩
  intro lists
  rcases Std.lt_trichotomy v w with less | rfl | more
  · exact less
  · exact absurd lists (List.lt_asymm lists)
  · exact absurd lists (List.lt_asymm (backwards more))

namespace Utf8

/-- Texts of seven bits are ordered as their octets are. -/
theorem encode_lt_encode_iff (asciiA : ∀ c ∈ a, c.toNat < 128) (asciiB : ∀ c ∈ b, c.toNat < 128) :
    encode a < encode b ↔ a < b := by
  rw [encode_of_ascii asciiA, encode_of_ascii asciiB]
  induction a generalizing b with
  | nil =>
    cases b with
    | nil => simp
    | cons d b => simp
  | cons c a ih =>
    cases b with
    | nil => simp
    | cons d b =>
      obtain ⟨c_lt, insideA⟩ := List.forall_mem_cons.1 asciiA
      obtain ⟨d_lt, insideB⟩ := List.forall_mem_cons.1 asciiB
      have others := ih insideA insideB
      -- Below U+0080 the octet of a character says which one it is.
      have sameOctet : UInt8.ofNat c.toNat = UInt8.ofNat d.toNat ↔ c = d := by
        rw [← UInt8.toNat_inj, toNat_ofNat (by omega), toNat_ofNat (by omega), Char.toNat_inj]
      rw [List.map_cons, List.map_cons, List.cons_lt_cons_iff, List.cons_lt_cons_iff, others,
        sameOctet, UInt8.lt_iff_toNat_lt, toNat_ofNat (by omega), toNat_ofNat (by omega),
        lt_iff_toNat_lt]

end Utf8

end Text

/-! ## Numbers -/

namespace Decimal

variable {a b : List Char} {width m n : Nat}

theorem value_cons (c : Char) (rest : List Char) :
    value (c :: rest) = (c.toNat - '0'.toNat) * tenTo rest.length + value rest := by
  induction rest using List.reverseRecOn with
  | nil =>
    have one := value_append_singleton [] c
    have none : value [] = 0 := rfl
    have unit : tenTo ([] : List Char).length = 1 := rfl
    rw [List.nil_append] at one
    rw [one, none, unit]
    omega
  | append_singleton front d ih =>
    rw [← List.cons_append, value_append_singleton, value_append_singleton, ih, List.length_append,
      List.length_singleton, tenTo_succ, Nat.mul_add, Nat.add_assoc, Nat.mul_left_comm,
      Nat.mul_comm 10 (tenTo _)]

/-- A leading digit decides before all the others together. -/
theorem mul_add_lt_iff {unit c d v w : Nat} (v_lt : v < unit) (w_lt : w < unit) :
    c * unit + v < d * unit + w ↔ c < d ∨ c = d ∧ v < w := by
  rcases Nat.lt_trichotomy c d with less | rfl | more
  · have above := Nat.mul_le_mul_right unit (Nat.succ_le_of_lt less)
    rw [Nat.succ_mul] at above
    omega
  · omega
  · have below := Nat.mul_le_mul_right unit (Nat.succ_le_of_lt more)
    rw [Nat.succ_mul] at below
    omega

/-- Runs of digits of one length sort like the numbers they write. -/
theorem lt_iff_value_lt (same : a.length = b.length) (digitsA : ∀ c ∈ a, c.isDigit = true)
    (digitsB : ∀ c ∈ b, c.isDigit = true) : a < b ↔ value a < value b := by
  induction a generalizing b with
  | nil =>
    cases b with
    | nil => simp
    | cons d b => cases same
  | cons c a ih =>
    cases b with
    | nil => cases same
    | cons d b =>
      have length : a.length = b.length := Nat.succ.inj same
      obtain ⟨digitC, insideA⟩ := List.forall_mem_cons.1 digitsA
      obtain ⟨digitD, insideB⟩ := List.forall_mem_cons.1 digitsB
      have boundsC := Char.isDigit_iff_toNat.1 digitC
      have boundsD := Char.isDigit_iff_toNat.1 digitD
      have below := value_lt insideB
      rw [← length] at below
      rw [List.cons_lt_cons_iff, ih length insideA insideB, value_cons, value_cons, ← length,
        mul_add_lt_iff (value_lt insideA) below, Text.lt_iff_toNat_lt, ← Char.toNat_inj]
      omega

/-- In one width every number has one text. -/
theorem eq_of_value_eq (same : a.length = b.length) (digitsA : ∀ c ∈ a, c.isDigit = true)
    (digitsB : ∀ c ∈ b, c.isDigit = true) (values : value a = value b) : a = b := by
  apply List.le_antisymm
  · exact fun less => absurd ((lt_iff_value_lt same.symm digitsB digitsA).1 less) (by omega)
  · exact fun less => absurd ((lt_iff_value_lt same digitsA digitsB).1 less) (by omega)

theorem length_padded_eq (positive : 0 < width) (fitsM : m < tenTo width)
    (fitsN : n < tenTo width) : (padded width m).length = (padded width n).length := by
  rw [length_padded positive fitsM, length_padded positive fitsN]

/-- In one width numbers are ordered as their texts are. -/
theorem padded_lt_padded_iff (positive : 0 < width) (fitsM : m < tenTo width)
    (fitsN : n < tenTo width) : padded width m < padded width n ↔ m < n := by
  have same := length_padded_eq positive fitsM fitsN
  rw [lt_iff_value_lt same (fun _ => isDigit_of_mem_padded) (fun _ => isDigit_of_mem_padded),
    value_padded, value_padded]

/-- A number in front of a text decides the order before what stands behind it. -/
theorem padded_append_lt_iff (positive : 0 < width) (fitsM : m < tenTo width)
    (fitsN : n < tenTo width) (x y : List Char) :
    padded width m ++ x < padded width n ++ y ↔ m < n ∨ m = n ∧ x < y := by
  have same := length_padded_eq positive fitsM fitsN
  have equal : padded width m = padded width n ↔ m = n := by
    constructor
    · intro h
      rw [← value_padded width m, h, value_padded]
    · rintro rfl
      rfl
  rw [Text.append_lt_append_iff same, padded_lt_padded_iff positive fitsM fitsN, equal]

/-- Zeros may be written behind a number instead of counting them. -/
theorem padded_append_zeros (positive : 0 < width) (fits : n < tenTo width) (zeros : Nat) :
    padded (width + zeros) (n * tenTo zeros) = padded width n ++ List.replicate zeros '0' := by
  have below : n * tenTo zeros < tenTo (width + zeros) := by
    rw [tenTo_add]
    exact Nat.mul_lt_mul_of_pos_right fits (tenTo_pos zeros)
  apply eq_of_value_eq
  · rw [length_padded (Nat.add_pos_left positive zeros) below, List.length_append,
      length_padded positive fits, List.length_replicate]
  · exact fun _ => isDigit_of_mem_padded
  · intro c member
    rcases List.mem_append.1 member with number | zero
    · exact isDigit_of_mem_padded number
    · rw [List.eq_of_mem_replicate zero]
      rfl
  · have number : value (padded width n) = n := value_padded width n
    rw [value] at number
    rw [value_padded, value, Nat.ofDigitChars_append, Nat.ofDigitChars_replicate_zero, number,
      Nat.mul_comm]
    rfl

/-- Zeros at the end do not matter for the order, as no digit sorts before them. -/
theorem lt_of_append_zeros {zerosA zerosB : Nat} (digitsA : ∀ c ∈ a, c.isDigit = true)
    (same : a.length + zerosA = b.length + zerosB)
    (h : a ++ List.replicate zerosA '0' < b ++ List.replicate zerosB '0') : a < b := by
  induction a generalizing b zerosB with
  | nil =>
    cases b with
    | nil =>
      have zeros : zerosA = zerosB := by simpa using same
      rw [zeros] at h
      exact absurd h (List.lt_irrefl _)
    | cons d b => exact List.nil_lt_cons d b
  | cons c a ih =>
    obtain ⟨digit, insideA⟩ := List.forall_mem_cons.1 digitsA
    cases b with
    | nil =>
      -- The digits behind a longer front are compared with zeros, and none is less.
      obtain ⟨zeros, rfl⟩ : ∃ zeros, zerosB = zeros + 1 := by
        refine ⟨a.length + zerosA, ?_⟩
        rw [List.length_cons, List.length_nil] at same
        omega
      have bounds := Char.isDigit_iff_toNat.1 digit
      rw [List.nil_append, List.replicate_succ, List.cons_append, List.cons_lt_cons_iff,
        Text.lt_iff_toNat_lt] at h
      rcases h with less | ⟨-, behind⟩
      · omega
      · have rest : a.length + zerosA = ([] : List Char).length + zeros := by
          rw [List.length_cons, List.length_nil] at same
          rw [List.length_nil]
          omega
        exact absurd (ih insideA rest behind) (List.not_lt_nil a)
    | cons d b =>
      rw [List.cons_append, List.cons_append, List.cons_lt_cons_iff] at h
      rw [List.cons_lt_cons_iff]
      rcases h with less | ⟨equal, behind⟩
      · exact Or.inl less
      · have rest : a.length + zerosA = b.length + zerosB := by
          rw [List.length_cons, List.length_cons] at same
          omega
        exact Or.inr ⟨equal, ih insideA rest behind⟩

end Decimal

/-! ## Dates -/

namespace Date

/-- The days before a month are behind every day of an earlier month. -/
theorem daysBeforeMonth_add_le_of_lt : ∀ leap : Bool, ∀ later < 12, ∀ sooner < later,
    daysBeforeMonth leap (sooner + 1) + (monthLengths leap).getD sooner 0 ≤
      daysBeforeMonth leap (later + 1) := by
  decide

/-- The earlier of two dates is known from the first field in which they differ. -/
theorem before_of_dayNumber_lt {d e : Date} (validD : d.isValid = true) (validE : e.isValid = true)
    (h : d.dayNumber < e.dayNumber) :
    d.year < e.year ∨ d.year = e.year ∧ (d.month < e.month ∨ d.month = e.month ∧ d.day < e.day) := by
  rcases Int.lt_trichotomy d.year e.year with sooner | sameYear | later
  · exact Or.inl sooner
  · refine Or.inr ⟨sameYear, ?_⟩
    simp only [dayNumber, sameYear] at h
    -- In one year the days before the months are counted alike, so only the months matter.
    rcases Nat.lt_trichotomy d.month e.month with sooner | sameMonth | later
    · exact Or.inl sooner
    · refine Or.inr ⟨sameMonth, ?_⟩
      rw [sameMonth] at h
      omega
    · simp only [isValid, Bool.and_eq_true, decide_eq_true_eq] at validD validE
      have months := daysBeforeMonth_add_le_of_lt (isLeapYear e.year) (d.month - 1) (by omega)
        (e.month - 1) (by omega)
      rw [Nat.sub_add_cancel validD.1.1.1, Nat.sub_add_cancel validE.1.1.1] at months
      omega
  · have least := (dayNumber_of_isValid validD).1
    have most := (dayNumber_of_isValid validE).2
    have years : daysBeforeYear (e.year + 1) ≤ daysBeforeYear d.year := daysBeforeYear_mono later
    omega

end Date

namespace Timestamp

open Decimal (padded tenTo)

/-! ## Fractions -/

variable {m n : Nat}

/-- A printed fraction is the nanoseconds in nine digits without some of their last zeros. -/
theorem exists_writeFraction (positive : 0 < n) (below : n < nanosPerSecond) :
    ∃ front zeros, writeFraction n = '.' :: front ∧
      padded 9 n = front ++ List.replicate zeros '0' ∧ ∀ c ∈ front, c.isDigit = true := by
  have three : tenTo 3 = 1000 := rfl
  have six : tenTo 6 = 1000000 := rfl
  have second : nanosPerSecond = 1000000000 := rfl
  unfold writeFraction
  rw [if_neg (Nat.ne_of_gt positive)]
  split
  · next millis =>
    have whole : n / 1000000 * tenTo 6 = n := by
      rw [six]
      omega
    refine ⟨padded 3 (n / 1000000), 6, rfl, ?_, fun _ => Decimal.isDigit_of_mem_padded⟩
    rw [← Decimal.padded_append_zeros (by decide) (by omega), whole]
  split
  · next micros =>
    have whole : n / 1000 * tenTo 3 = n := by
      rw [three]
      omega
    refine ⟨padded 6 (n / 1000), 3, rfl, ?_, fun _ => Decimal.isDigit_of_mem_padded⟩
    rw [← Decimal.padded_append_zeros (by decide) (by omega), whole]
  · exact ⟨padded 9 n, 0, rfl, (List.append_nil _).symm, fun _ => Decimal.isDigit_of_mem_padded⟩

/-- A smaller fraction has a smaller text, also where the two have different widths. -/
theorem writeFraction_lt (less : m < n) (below : n < nanosPerSecond) :
    writeFraction m < writeFraction n := by
  obtain ⟨frontN, zerosN, textN, ninesN, -⟩ := exists_writeFraction (Nat.zero_lt_of_lt less) below
  rw [textN]
  -- No fraction at all comes before every fraction; otherwise the points cancel.
  rcases Nat.eq_zero_or_pos m with rfl | positive
  · exact List.nil_lt_cons _ _
  · have belowM : m < nanosPerSecond := Nat.lt_trans less below
    obtain ⟨frontM, zerosM, textM, ninesM, digitsM⟩ := exists_writeFraction positive belowM
    have nines : padded 9 m < padded 9 n :=
      (Decimal.padded_lt_padded_iff (by decide) belowM below).2 less
    have same := Decimal.length_padded_eq (show 0 < 9 by decide) belowM below
    rw [ninesM, ninesN] at nines same
    rw [textM, List.cons_lt_cons_self]
    apply Decimal.lt_of_append_zeros digitsM _ nines
    simpa using same

/-- Fractions are ordered as their texts are. -/
theorem writeFraction_lt_iff (belowM : m < nanosPerSecond) (belowN : n < nanosPerSecond) :
    writeFraction m < writeFraction n ↔ m < n :=
  Text.lt_iff_of_keeps (fun less => writeFraction_lt less belowN)
    (fun more => writeFraction_lt more belowM)

/-! ## Fields -/

/-- The numbers of a timestamp, from the year down to the nanoseconds. -/
def Fields.numbers (fields : Fields) : List Nat :=
  [fields.date.year.natAbs, fields.date.month, fields.date.day, fields.hour, fields.minute,
    fields.second, fields.nanos]

/-- A year that is written with four digits and no sign. -/
def Fields.HasFourDigits (fields : Fields) : Prop :=
  0 ≤ fields.date.year ∧ fields.date.year ≤ 9999

instance (fields : Fields) : Decidable fields.HasFourDigits :=
  inferInstanceAs (Decidable (0 ≤ fields.date.year ∧ fields.date.year ≤ 9999))

theorem Fields.HasFourDigits.writeYear_eq {fields : Fields} (fourDigits : fields.HasFourDigits) :
    writeYear fields.date.year = padded 4 fields.date.year.natAbs :=
  if_pos fourDigits

/-- The texts of timestamps sort as their numbers do. -/
theorem writeFields_lt_iff {f g : Fields} (fitF : f.Fit) (fitG : g.Fit) (yearF : f.HasFourDigits)
    (yearG : g.HasFourDigits) : writeFields f < writeFields g ↔ f.numbers < g.numbers := by
  have two : 0 < 2 := by decide
  simp only [writeFields, yearF.writeYear_eq, yearG.writeYear_eq, List.append_assoc,
    List.cons_append, List.cons_lt_cons_self,
    Decimal.padded_append_lt_iff (by decide) (natAbs_lt_of_fourDigits yearF)
      (natAbs_lt_of_fourDigits yearG),
    Decimal.padded_append_lt_iff two fitF.month fitG.month,
    Decimal.padded_append_lt_iff two fitF.day fitG.day,
    Decimal.padded_append_lt_iff two fitF.hour fitG.hour,
    Decimal.padded_append_lt_iff two fitF.minute fitG.minute,
    Decimal.padded_append_lt_iff two fitF.second fitG.second,
    writeFraction_lt_iff fitF.nanos fitG.nanos]
  simp only [Fields.numbers, List.cons_lt_cons_iff, List.not_lt_nil, and_false, or_false]

/-! ## Instants -/

/-- The instant lies in a year of four digits, and if it lies in a leap second then this stands at
the end of a minute. -/
structure FourDigitYear (instant : Instant) : Prop where
  year : (Fields.ofInstant instant).HasFourDigits
  bound : instant.nanos < 2 * nanosPerSecond
  leap : nanosPerSecond ≤ instant.nanos → instant.seconds % 60 = 59

variable {a b : Instant}

theorem FourDigitYear.fit (h : FourDigitYear a) : (Fields.ofInstant a).Fit := by
  have valid : (Date.ofDayNumber a.day).isValid = true := Date.isValid_ofDayNumber a.day
  have held : a.inRange = true := by
    have range : (Date.ofDayNumber a.day).inRange = true := by
      obtain ⟨least, most⟩ := h.year
      have low : Date.first.year ≤ 0 := by decide
      have high : 9999 ≤ Date.last.year := by decide
      simp only [Date.inRange, Bool.and_eq_true, decide_eq_true_eq]
      exact ⟨Int.le_trans low least, Int.le_trans most high⟩
    obtain ⟨first, last⟩ := Date.dayNumber_of_inRange valid range
    rw [Date.dayNumber_ofDayNumber] at first last
    simp only [Instant.inRange, Bool.and_eq_true, decide_eq_true_eq]
    exact ⟨first, last⟩
  apply Fields.fit_of_isValid (Fields.isValid_ofInstant held h.bound)
  exact Nat.mod_lt _ (by decide)

/-- The later of two seconds of a day is known from the first of hour, minute and second in which
they differ. -/
theorem clock_lt {s t : Nat} (less : s < t) :
    s / 3600 < t / 3600 ∨ s / 3600 = t / 3600 ∧
      (s / 60 % 60 < t / 60 % 60 ∨ s / 60 % 60 = t / 60 % 60 ∧ s % 60 < t % 60) := by
  omega

/-- The numbers of a later instant are greater in the first place in which they differ. -/
theorem numbers_ofInstant_lt (ha : FourDigitYear a) (hb : FourDigitYear b) (less : a < b) :
    (Fields.ofInstant a).numbers < (Fields.ofInstant b).numbers := by
  have dayA : (a.secondOfDay : Int) = a.seconds % 86400 := a.secondOfDay_eq
  have dayB : (b.secondOfDay : Int) = b.seconds % 86400 := b.secondOfDay_eq
  have days : a.day ≤ b.day := by
    rw [Instant.lt_iff] at less
    simp only [Instant.day, Instant.secondsPerDay]
    omega
  simp only [Fields.numbers, List.cons_lt_cons_iff, List.not_lt_nil, and_false, or_false]
  rcases Int.lt_or_eq_of_le days with sooner | sameDay
  -- On different days the dates decide; their years have one width, so no sign comes in.
  · have numbers : (Date.ofDayNumber a.day).dayNumber < (Date.ofDayNumber b.day).dayNumber := by
      rwa [Date.dayNumber_ofDayNumber, Date.dayNumber_ofDayNumber]
    have before := Date.before_of_dayNumber_lt (Date.isValid_ofDayNumber _)
      (Date.isValid_ofDayNumber _) numbers
    obtain ⟨leastA, -⟩ := ha.year
    obtain ⟨leastB, -⟩ := hb.year
    simp only [Fields.ofInstant] at leastA leastB ⊢
    omega
  · -- On one day the time of day decides. Second 60 is reached only from second 59.
    have boundA := ha.bound
    have boundB := hb.bound
    have leapA := ha.leap
    have leapB := hb.leap
    have order : a.secondOfDay < b.secondOfDay ∨
        a.secondOfDay = b.secondOfDay ∧ a.nanos < b.nanos := by
      rw [Instant.lt_iff] at less
      simp only [Instant.day, Instant.secondsPerDay] at sameDay
      omega
    simp only [nanosPerSecond] at boundA boundB leapA leapB
    simp only [Fields.ofInstant, nanosPerSecond, sameDay, Nat.lt_irrefl, true_and, false_or]
    rcases order with sooner | ⟨sameSecond, less⟩
    · have clock := clock_lt sooner
      omega
    · simp only [sameSecond, Nat.lt_irrefl, true_and, false_or]
      omega

/-- Instants are ordered as their fields are, from the year to the nanosecond. -/
theorem numbers_ofInstant_lt_iff (ha : FourDigitYear a) (hb : FourDigitYear b) :
    (Fields.ofInstant a).numbers < (Fields.ofInstant b).numbers ↔ a < b :=
  Text.lt_iff_of_keeps (f := fun instant => (Fields.ofInstant instant).numbers)
    (numbers_ofInstant_lt ha hb) (numbers_ofInstant_lt hb ha)

/-! ## Timestamps -/

theorem toNat_lt_of_mem_writeFields {fields : Fields} {c : Char}
    (member : c ∈ writeFields fields) : c.toNat < 128 := by
  rcases isDigit_or_mem_marks member with digit | mark
  · have bounds := Char.isDigit_iff_toNat.1 digit
    have nine : '9'.toNat = 57 := rfl
    omega
  · have ascii : marks.all (fun mark => decide (mark.toNat < 128)) = true := rfl
    exact of_decide_eq_true (List.all_eq_true.1 ascii c mark)

/-- The octets of a timestamp. Lists of them are ordered by the first octet in which they differ, and
a front before the whole. -/
def octets (instant : Instant) : List UInt8 := Text.Utf8.encode (write instant).toList

/-- Instants of four-digit years are ordered as the octets of their texts are. -/
theorem octets_lt_octets_iff (ha : FourDigitYear a) (hb : FourDigitYear b) :
    octets a < octets b ↔ a < b := by
  simp only [octets, write, String.toList_ofList, writeChars]
  rw [Text.Utf8.encode_lt_encode_iff (fun _ => toNat_lt_of_mem_writeFields)
    (fun _ => toNat_lt_of_mem_writeFields), writeFields_lt_iff ha.fit hb.fit ha.year hb.year,
    numbers_ofInstant_lt_iff ha hb]

/-- Timestamps of years of four digits, compared octet by octet, sort like the instants they say,
and those of different instants differ. -/
theorem lt_iff_octets_lt (ha : FourDigitYear a) (hb : FourDigitYear b) :
    (a < b ↔ octets a < octets b) ∧ (write a = write b ↔ a = b) := by
  refine ⟨(octets_lt_octets_iff ha hb).symm, ?_, congrArg write⟩
  intro texts
  have same : octets a = octets b := by rw [octets, octets, texts]
  rcases Std.lt_trichotomy a b with less | equal | more
  · rw [← octets_lt_octets_iff ha hb, same] at less
    exact absurd less (List.lt_irrefl _)
  · exact equal
  · rw [← octets_lt_octets_iff hb ha, same] at more
    exact absurd more (List.lt_irrefl _)

/-- A timestamp inside a leap second comes before one that it is the front of, and both before the
new year. -/
theorem octets_lt_at_new_year :
    write ⟨1483228799, 1500000000⟩ = "2016-12-31T23:59:60.500" ∧
      write ⟨1483228799, 1500000001⟩ = "2016-12-31T23:59:60.500000001" ∧
      write ⟨1483228800, 0⟩ = "2017-01-01T00:00:00" ∧
      octets ⟨1483228799, 1500000000⟩ < octets ⟨1483228799, 1500000001⟩ ∧
      octets ⟨1483228799, 1500000001⟩ < octets ⟨1483228800, 0⟩ := by
  have inLeap : FourDigitYear ⟨1483228799, 1500000000⟩ :=
    ⟨by decide, by decide, fun _ => by decide⟩
  have justAfter : FourDigitYear ⟨1483228799, 1500000001⟩ :=
    ⟨by decide, by decide, fun _ => by decide⟩
  have newYear : FourDigitYear ⟨1483228800, 0⟩ :=
    ⟨by decide, by decide, fun large => absurd large (by decide)⟩
  exact ⟨by decide, by decide, by decide, (lt_iff_octets_lt inLeap justAfter).1.1 (by decide),
    (lt_iff_octets_lt justAfter newYear).1.1 (by decide)⟩

end Timestamp

end SwarmChart
