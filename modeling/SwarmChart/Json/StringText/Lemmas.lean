import SwarmChart.Json.StringText
import SwarmChart.Json.Writer

/-!
# Reading a string that was written

A written text is scanned up to its closing quote whatever follows (`scan_writeString`), into one
piece for each of its characters (`pieceOf`), and those pieces are joined to the text again
(`assemble_map_pieceOf`).
-/

set_option autoImplicit false

namespace SwarmChart.Json.StringText

/-! ## Single steps of the scan -/

/-- A character that needs no escape is taken as it stands. -/
theorem scanFrom_plain {c : Char} (found : List Piece) (rest : List Char) (quote : c ≠ '"')
    (backslash : c ≠ '\\') (control : ¬c.toNat < 0x20) :
    scanFrom found (c :: rest) = scanFrom (.char c :: found) rest := by
  rw [scanFrom]
  · rw [if_neg control]
  all_goals simp_all

/-- An escape of one letter stands for its character. -/
theorem scanFrom_short {c mark : Char} (found : List Piece) (rest : List Char)
    (h : shortEscape? mark = some c) :
    scanFrom found ('\\' :: mark :: rest) = scanFrom (.char c :: found) rest := by
  have unnumbered : mark ≠ 'u' := by
    rintro rfl
    simp [shortEscape?] at h
  rw [scanFrom]
  · rw [h]
  all_goals simp_all

/-- An escape of four digits stands for its code unit. -/
theorem scanFrom_unit {n : Nat} {a b c d : Char} (found : List Piece) (rest : List Char)
    (h : unit? a b c d = some n) :
    scanFrom found ('\\' :: 'u' :: a :: b :: c :: d :: rest)
      = scanFrom (.unit n :: found) rest := by
  rw [scanFrom]
  rw [h]

/-! ## Written characters -/

/-- The piece in which a character is written: a control character without a short escape is
written by its number. -/
def pieceOf (c : Char) : Piece :=
  if c.toNat < 0x20 ∧ c ≠ '\x08' ∧ c ≠ '\x0c' ∧ c ≠ '\n' ∧ c ≠ '\r' ∧ c ≠ '\t' then
    .unit c.toNat
  else .char c

/-- The digits of a control character number it. -/
theorem unit?_of_control {n : Nat} (control : n < 0x20) :
    unit? '0' '0' (n / 16).digitChar (n % 16).digitChar = some n := by
  have zero : Text.hexDigit? '0' = some 0 := rfl
  have high := Text.hexDigit?_digitChar (n / 16) (by omega)
  have low := Text.hexDigit?_digitChar (n % 16) (by omega)
  simp only [unit?, zero, high, low, Option.bind_eq_bind, Option.bind_some, Option.some.injEq]
  omega

/-- Whichever way a character is written, it is taken as one piece. -/
theorem scanFrom_writeChar (c : Char) (found : List Piece) (rest : List Char) :
    scanFrom found (writeChar c ++ rest) = scanFrom (pieceOf c :: found) rest := by
  unfold writeChar
  -- The seven short escapes come first.
  iterate 7
    split
    next h =>
      subst h
      exact scanFrom_short found rest rfl
  split
  · next control =>
    have numbered : pieceOf c = .unit c.toNat := if_pos (by simp_all)
    rw [numbered]
    exact scanFrom_unit found rest (unit?_of_control control)
  · next control =>
    have plain : pieceOf c = .char c := if_neg (by simp_all)
    rw [plain]
    exact scanFrom_plain found rest (by assumption) (by assumption) control

/-- A written text is taken up to its closing quote, one piece for each character. -/
theorem scanFrom_flatMap_writeChar (text : List Char) (found : List Piece) (rest : List Char) :
    scanFrom found (text.flatMap writeChar ++ '"' :: rest)
      = (⟨found.reverse ++ text.map pieceOf, none⟩, rest) := by
  induction text generalizing found with
  | nil => simp [scanFrom]
  | cons c text ih =>
    rw [List.flatMap_cons, List.append_assoc, scanFrom_writeChar, ih, List.reverse_cons,
      List.append_assoc, List.map_cons]
    rfl

/-- Behind its opening quote a written text is scanned up to its closing quote. -/
theorem scan_writeString (text : String) (rest : List Char) :
    scan ((writeString text).tail ++ rest) = (⟨text.toList.map pieceOf, none⟩, rest) := by
  rw [scan, writeString, List.tail_cons, List.append_assoc]
  exact scanFrom_flatMap_writeChar text.toList [] rest

/-! ## Joining pieces -/

theorem assembleFrom_unit {n : Nat} (joined : List Char) (rest : List Piece) (h : n < 0xD800) :
    assembleFrom joined none (.unit n :: rest)
      = assembleFrom (Char.ofNat n :: joined) none rest := by
  have leading : isLeading n = false := by
    simp [isLeading]
    omega
  have trailing : isTrailing n = false := by
    simp [isTrailing]
    omega
  match rest with
  | [] => simp [assembleFrom, leading, trailing]
  | .char c :: rest => simp [assembleFrom, leading, trailing]
  | .unit next :: rest =>
    rw [assembleFrom]
    simp [leading, trailing]

theorem assembleFrom_pieceOf (joined : List Char) (c : Char) (rest : List Piece) :
    assembleFrom joined none (pieceOf c :: rest) = assembleFrom (c :: joined) none rest := by
  unfold pieceOf
  split
  · next control => rw [assembleFrom_unit joined rest (by omega), Char.ofNat_toNat]
  · rw [assembleFrom]

theorem assembleFrom_map_pieceOf (joined text : List Char) :
    assembleFrom joined none (text.map pieceOf) = .ok (joined.reverse ++ text) := by
  induction text generalizing joined with
  | nil => rw [List.map_nil, assembleFrom, List.append_nil]
  | cons c text ih =>
    rw [List.map_cons, assembleFrom_pieceOf, ih, List.reverse_cons, List.append_assoc]
    rfl

/-- The pieces of a text are put together as that text. -/
theorem assemble_map_pieceOf (text : String) :
    assemble ⟨text.toList.map pieceOf, none⟩ = .ok text := by
  rw [assemble, assembleFrom_map_pieceOf, List.reverse_nil, List.nil_append, Except.map,
    String.ofList_toList]

end SwarmChart.Json.StringText
