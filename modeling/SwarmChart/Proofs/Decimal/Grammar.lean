import SwarmChart.Decimal.Numeral

/-!
# The grammar of numbers given by a user

Which texts write a number, and which number each of them writes, is said here as a relation
(`WritesNumber`): behind an optional sign, one of three words in any mixture of cases, or digits
with an optional point among or around them and an optional exponent. The reader accepts the texts
that write a number and no others, and what it reads is the number written
(`readNumeral_eq_some_iff`).
-/

set_option autoImplicit false

namespace SwarmChart.Decimal

/-- What may stand in front of a number. Only behind a minus is the number negative. -/
inductive Sign : Bool → List Char → Prop
  | absent : Sign false []
  | plus : Sign false ['+']
  | minus : Sign true ['-']

/-- The text consists of digits before and behind an optional point, and of one digit at least. -/
inductive Pointed : List Char → List Char → List Char → Prop
  | whole {whole : List Char} (inside : ∀ c ∈ whole, c.isDigit = true) (someDigit : whole ≠ []) :
      Pointed whole whole []
  | point {whole fraction : List Char} (inside : ∀ c ∈ whole, c.isDigit = true)
      (behind : ∀ c ∈ fraction, c.isDigit = true) (someDigit : ¬ (whole = [] ∧ fraction = [])) :
      Pointed (whole ++ '.' :: fraction) whole fraction

/-- The text writes an exponent; an exponent left out is zero. -/
inductive WritesExponent : List Char → Int → Prop
  | absent : WritesExponent [] 0
  | given {mark : Char} {negative : Bool} {sign digits : List Char}
      (isMark : mark = 'e' ∨ mark = 'E') (signed : Sign negative sign) (someDigit : digits ≠ [])
      (inside : ∀ c ∈ digits, c.isDigit = true) :
      WritesExponent (mark :: (sign ++ digits))
        (if negative then -(value digits : Int) else value digits)

/-- The text is the word in any mixture of cases. -/
def IsWord (word : String) (text : List Char) : Prop := String.ofList (text.map Char.toLower) = word

/-- The text writes the number. -/
inductive WritesNumber : List Char → Float → Prop
  | infinite {negative : Bool} {sign text : List Char} (signed : Sign negative sign)
      (isWord : IsWord "inf" text ∨ IsWord "infinity" text) :
      WritesNumber (sign ++ text) (infinity negative)
  | missing {negative : Bool} {sign text : List Char} (signed : Sign negative sign)
      (isWord : IsWord "nan" text) : WritesNumber (sign ++ text) notANumber
  | digits {negative : Bool} {sign front tail whole fraction : List Char} {exponent : Int}
      (signed : Sign negative sign) (pointed : Pointed front whole fraction)
      (scaled : WritesExponent tail exponent) :
      WritesNumber (sign ++ (front ++ tail))
        (ofScaled negative (value (whole ++ fraction)) (exponent - fraction.length))

/-! ## Signs -/

/-- The character is no sign. -/
def NoSign (c : Char) : Prop := c ≠ '-' ∧ c ≠ '+'

theorem noSign_of_isDigit {c : Char} (digit : c.isDigit = true) : NoSign c := by
  constructor <;> rintro rfl <;> cases digit

/-- A sign is split off a text that begins with no other. -/
theorem splitSign_append {negative : Bool} {sign text : List Char} (signed : Sign negative sign)
    (unsigned : ∀ c ∈ text.head?, NoSign c) : splitSign (sign ++ text) = (negative, text) := by
  cases signed with
  | plus => rfl
  | minus => rfl
  | absent =>
    match text with
    | [] => rfl
    | c :: text =>
      have noSign : NoSign c := unsigned c rfl
      rw [List.nil_append, splitSign.eq_3]
      · exact fun rest same => noSign.1 (List.cons.inj same).1
      · exact fun rest same => noSign.2 (List.cons.inj same).1

/-- What is split off a text is a sign. -/
theorem exists_sign_of_splitSign (text : List Char) :
    ∃ sign, Sign (splitSign text).1 sign ∧ text = sign ++ (splitSign text).2 := by
  unfold splitSign
  split
  · exact ⟨['-'], .minus, rfl⟩
  · exact ⟨['+'], .plus, rfl⟩
  · exact ⟨[], .absent, rfl⟩

/-! ## Exponents -/

/-- Every exponent that is written is read. -/
theorem exponent?_of_writesExponent {text : List Char} {exponent : Int}
    (h : WritesExponent text exponent) : exponent? text = some exponent := by
  cases h with
  | absent => rfl
  | @given mark negative sign digits isMark signed someDigit inside =>
    have unsigned : ∀ c ∈ digits.head?, NoSign c := fun c first =>
      noSign_of_isDigit (inside c (List.mem_of_mem_head? first))
    have all : digits.all Char.isDigit = true := List.all_eq_true.2 inside
    rw [exponent?, splitSign_append signed unsigned]
    exact if_pos ⟨isMark, someDigit, all⟩

/-- Whatever is read as an exponent writes it. -/
theorem writesExponent_of_exponent? {text : List Char} {exponent : Int}
    (h : exponent? text = some exponent) : WritesExponent text exponent := by
  match text with
  | [] =>
    cases h
    exact .absent
  | mark :: text =>
    obtain ⟨sign, signed, split⟩ := exists_sign_of_splitSign text
    dsimp only [exponent?] at h
    split at h
    · next wanted =>
      obtain ⟨isMark, someDigit, all⟩ := wanted
      cases h
      have given := WritesExponent.given isMark signed someDigit (List.all_eq_true.1 all)
      rwa [← split] at given
    · cases h

/-- An exponent begins with its mark, so neither with a digit nor with a point. -/
theorem head?_of_writesExponent {text : List Char} {exponent : Int}
    (h : WritesExponent text exponent) : ∀ c ∈ text.head?, c.isDigit = false ∧ c ≠ '.' := by
  intro c first
  cases h with
  | absent => cases first
  | given isMark =>
    cases first
    rcases isMark with rfl | rfl <;> exact ⟨rfl, by decide⟩

/-! ## Digits -/

section Digits

variable {negative : Bool} {text front tail whole fraction : List Char} {exponent : Int}

/-- Digits with an exponent behind them are read as the number that they write. -/
theorem readDigits_append (pointed : Pointed front whole fraction)
    (scaled : WritesExponent tail exponent) :
    readDigits negative (front ++ tail) =
      some (ofScaled negative (value (whole ++ fraction)) (exponent - fraction.length)) := by
  have stop := head?_of_writesExponent scaled
  have read := exponent?_of_writesExponent scaled
  cases pointed with
  | whole inside someDigit =>
    have taken : run (front ++ tail) = front := run_append inside fun c first => (stop c first).1
    unfold readDigits
    simp only [taken, List.drop_left]
    match tail with
    | [] => simp [someDigit, read]
    | c :: tail =>
      have noPoint : c ≠ '.' := (stop c rfl).2
      simp [noPoint, someDigit, read]
  | point inside behind someDigit =>
    have point : ∀ c ∈ ('.' :: (fraction ++ tail)).head?, c.isDigit = false := by
      rintro _ ⟨⟩
      rfl
    have taken : run (whole ++ '.' :: (fraction ++ tail)) = whole := run_append inside point
    have takenBehind : run (fraction ++ tail) = fraction :=
      run_append behind fun c first => (stop c first).1
    rw [List.append_assoc, List.cons_append]
    unfold readDigits
    simp only [taken, takenBehind, List.drop_left, if_neg someDigit, read, Option.map_some]

/-- What is read as digits consists of them and an exponent. -/
theorem exists_parts_of_readDigits {x : Float} (h : readDigits negative text = some x) :
    ∃ front tail whole fraction exponent, text = front ++ tail ∧ Pointed front whole fraction ∧
      WritesExponent tail exponent ∧
        x = ofScaled negative (value (whole ++ fraction)) (exponent - fraction.length) := by
  have inside : ∀ c ∈ run text, c.isDigit = true := fun _ => isDigit_of_mem_run
  have parts := run_append_drop text
  unfold readDigits at h
  dsimp only at h
  split at h
  -- Behind a point there may be no digit if there was one before it.
  · next after behind =>
    split at h
    · cases h
    next someDigit =>
    obtain ⟨exponent, read, rfl⟩ := Option.map_eq_some_iff.1 h
    refine ⟨run text ++ '.' :: run after, after.drop (run after).length, run text, run after,
      exponent, ?_, .point inside (fun _ => isDigit_of_mem_run) someDigit,
      writesExponent_of_exponent? read, rfl⟩
    rw [List.append_assoc, List.cons_append, run_append_drop, ← behind, parts]
  · split at h
    · cases h
    next someDigit =>
    obtain ⟨exponent, read, rfl⟩ := Option.map_eq_some_iff.1 h
    have someWhole : run text ≠ [] := fun none => someDigit ⟨none, rfl⟩
    refine ⟨run text, text.drop (run text).length, run text, [], exponent, parts.symm,
      .whole inside someWhole, writesExponent_of_exponent? read, ?_⟩
    rw [List.append_nil]

/-- A number written in digits begins with one of them or with a point. -/
theorem head?_of_pointed (pointed : Pointed front whole fraction) (tail : List Char) :
    ∃ c ∈ (front ++ tail).head?, c.isDigit = true ∨ c = '.' := by
  cases pointed with
  | whole inside someDigit =>
    obtain ⟨c, rest, rfl⟩ := List.exists_cons_of_ne_nil someDigit
    exact ⟨c, rfl, Or.inl (inside c List.mem_cons_self)⟩
  | point inside behind someDigit =>
    match whole with
    | [] => exact ⟨'.', rfl, Or.inr rfl⟩
    | c :: rest => exact ⟨c, rfl, Or.inl (inside c List.mem_cons_self)⟩

end Digits

/-! ## Words -/

theorem toLower_of_isDigit {c : Char} (digit : c.isDigit = true) : c.toLower = c := by
  have noCapital : ¬ ('A'.val ≤ c.val ∧ c.val ≤ 'Z'.val) := by
    simp only [Char.isDigit, Bool.and_eq_true, decide_eq_true_eq] at digit
    rintro ⟨capital, -⟩
    exact absurd (UInt32.le_trans capital digit.2) (by decide)
  exact dif_neg noCapital

section Words

variable {word : String} {text : List Char} {c : Char} (isWord : IsWord word text)
  (initial : word.toList.head? = some 'i' ∨ word.toList.head? = some 'n')

include isWord initial

/-- All the words begin with one of two letters. -/
theorem initial_of_isWord (first : c ∈ text.head?) : c.toLower = 'i' ∨ c.toLower = 'n' := by
  have lower : word.toList.head? = some c.toLower := by
    rw [← isWord, String.toList_ofList, List.head?_map, first, Option.map_some]
  rw [lower, Option.some.injEq, Option.some.injEq] at initial
  exact initial

theorem noSign_of_isWord : ∀ c ∈ text.head?, NoSign c := by
  intro c first
  have letter := initial_of_isWord isWord initial first
  constructor <;> rintro rfl <;> exact absurd letter (by decide)

/-- No word begins like a number written in digits. -/
theorem not_digit_of_isWord (first : c ∈ text.head?) : ¬ (c.isDigit = true ∨ c = '.') := by
  have letter := initial_of_isWord isWord initial first
  rintro (digit | rfl)
  · rw [toLower_of_isDigit digit] at letter
    rcases letter with rfl | rfl <;> cases digit
  · exact absurd letter (by decide)

end Words

/-! ## Numbers -/

/-- Every number that is written is read. -/
theorem readNumeral_of_writesNumber {text : List Char} {x : Float} (h : WritesNumber text x) :
    readNumeral text = some x := by
  cases h with
  | infinite signed isWord =>
    have unsigned := isWord.elim (noSign_of_isWord · (Or.inl rfl)) (noSign_of_isWord · (Or.inl rfl))
    rw [readNumeral, splitSign_append signed unsigned]
    exact if_pos isWord
  | missing signed isWord =>
    rw [readNumeral, splitSign_append signed (noSign_of_isWord isWord (Or.inr rfl))]
    dsimp only
    rw [isWord]
    rfl
  | @digits negative sign front tail whole fraction exponent signed pointed scaled =>
    -- A digit or a point comes first, so neither a sign nor one of the words is read instead.
    obtain ⟨c, first, begins⟩ := head?_of_pointed pointed tail
    have unsigned : ∀ c ∈ (front ++ tail).head?, NoSign c := by
      intro d sameFirst
      cases first.symm.trans sameFirst
      rcases begins with digit | rfl
      · exact noSign_of_isDigit digit
      · constructor <;> decide
    have noInf : ¬ IsWord "inf" (front ++ tail) := fun isWord =>
      not_digit_of_isWord isWord (Or.inl rfl) first begins
    have noInfinity : ¬ IsWord "infinity" (front ++ tail) := fun isWord =>
      not_digit_of_isWord isWord (Or.inl rfl) first begins
    have noNan : ¬ IsWord "nan" (front ++ tail) := fun isWord =>
      not_digit_of_isWord isWord (Or.inr rfl) first begins
    rw [readNumeral, splitSign_append signed unsigned]
    exact (if_neg (not_or.2 ⟨noInf, noInfinity⟩)).trans
      ((if_neg noNan).trans (readDigits_append pointed scaled))

/-- Whatever is read as a number writes it. -/
theorem writesNumber_of_readNumeral {text : List Char} {x : Float}
    (h : readNumeral text = some x) : WritesNumber text x := by
  obtain ⟨sign, signed, split⟩ := exists_sign_of_splitSign text
  rw [split]
  dsimp only [readNumeral] at h
  split at h
  · next isWord =>
    cases h
    exact .infinite signed isWord
  split at h
  · next isWord =>
    cases h
    exact .missing signed isWord
  · obtain ⟨front, tail, whole, fraction, exponent, parts, pointed, scaled, rfl⟩ :=
      exists_parts_of_readDigits h
    rw [parts]
    exact .digits signed pointed scaled

/-- A text is read as a number exactly if it writes that number. -/
theorem readNumeral_eq_some_iff {text : List Char} {x : Float} :
    readNumeral text = some x ↔ WritesNumber text x :=
  ⟨writesNumber_of_readNumeral, readNumeral_of_writesNumber⟩

end SwarmChart.Decimal
