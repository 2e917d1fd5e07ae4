/-!
# Decimal digits of whole numbers

Writing a whole number in ten digits, with zeros in front up to a least width, and reading a run
of digits back. `value_padded` says that reading undoes writing at every width. A run of `n` digits
counts in units below `tenTo n`.
-/

set_option autoImplicit false

namespace SwarmChart.Decimal

/-- A power of ten. -/
def tenTo (exponent : Nat) : Nat := Nat.pow 10 exponent

/-- The digits of a number without leading zeros; zero is one digit. -/
def digits (n : Nat) : List Char := Nat.toDigits 10 n

/-- The digits of a number with zeros in front of it up to a least width. -/
def padded (width n : Nat) : List Char := List.replicate (width - (digits n).length) '0' ++ digits n

/-- The number that a run of digits writes; leading zeros change nothing. -/
def value (run : List Char) : Nat := Nat.ofDigitChars 10 run 0

/-- The digits at the start of a text, at most `width` of them. -/
def leading (width : Nat) (text : List Char) : List Char := (text.take width).takeWhile Char.isDigit

/-- All the digits at the start of a text. -/
def run (text : List Char) : List Char := text.takeWhile Char.isDigit

/-- Reading undoes writing at every width. -/
theorem value_padded (width n : Nat) : value (padded width n) = n := by
  simp [value, padded, digits, Nat.ofDigitChars_append, Nat.ofDigitChars_replicate_zero,
    Nat.ofDigitChars_ten_toDigits]

theorem digits_ne_nil (n : Nat) : digits n ≠ [] := Nat.toDigits_ne_nil

theorem isDigit_of_mem_digits {n : Nat} {c : Char} (h : c ∈ digits n) : c.isDigit = true :=
  Nat.isDigit_of_mem_toDigits (by decide) (by decide) h

theorem isDigit_of_mem_padded {width n : Nat} {c : Char} (h : c ∈ padded width n) :
    c.isDigit = true := by
  rcases List.mem_append.1 h with h | h
  · rw [List.eq_of_mem_replicate h]
    rfl
  · exact isDigit_of_mem_digits h

/-! ## Runs of digits -/

/-- Digits are taken whole where no digit follows. -/
theorem run_append {digits rest : List Char} (inside : ∀ c ∈ digits, c.isDigit = true)
    (stop : ∀ c ∈ rest.head?, c.isDigit = false) : run (digits ++ rest) = digits := by
  rw [run, List.takeWhile_append_of_pos inside]
  cases rest with
  | nil => rw [List.takeWhile_nil, List.append_nil]
  | cons c rest =>
    have notDigit : ¬ c.isDigit = true := by simp [stop c rfl]
    rw [List.takeWhile_cons_of_neg notDigit, List.append_nil]

theorem isDigit_of_mem_run {text : List Char} {c : Char} (h : c ∈ run text) : c.isDigit = true :=
  List.all_eq_true.1 List.all_takeWhile c h

/-- What is behind the digits at the start of a text begins where they end. -/
theorem drop_run (text : List Char) :
    text.drop (run text).length = text.dropWhile Char.isDigit := by
  have parts : run text ++ text.dropWhile Char.isDigit = text := List.takeWhile_append_dropWhile
  calc
    text.drop (run text).length
        = (run text ++ text.dropWhile Char.isDigit).drop (run text).length := by rw [parts]
    _ = text.dropWhile Char.isDigit := List.drop_left

/-- A text is its run of digits and what is behind it. -/
theorem run_append_drop (text : List Char) : run text ++ text.drop (run text).length = text := by
  rw [drop_run]
  exact List.takeWhile_append_dropWhile

/-- A run of digits is the same wherever the same character follows it. -/
theorem run_append_of_head? {text tail : List Char}
    (same : tail.head? = (text.drop (run text).length).head?) :
    run (run text ++ tail) = run text := by
  apply run_append
  · exact fun _ => isDigit_of_mem_run
  · intro c first
    rw [same, drop_run, Option.mem_def] at first
    have stop := List.head?_dropWhile_not Char.isDigit text
    rw [first] at stop
    exact stop

end SwarmChart.Decimal
