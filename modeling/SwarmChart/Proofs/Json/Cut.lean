import Mathlib.Data.List.TakeWhile
import SwarmChart.Json.Token
import SwarmChart.Json.StringText.Lemmas
import SwarmChart.Proofs.Json.Nesting

/-!
# Tokens and what follows them

A token that is written correctly is cut off a text by its own characters and the one that follows
them (`Token.next?_local`), so it is cut off alike wherever the same character follows. A bracket
that ends a container is a token whatever follows it (`Token.next?_close`). Both theorems say as
well where a token leads among the containers of the text.
-/

set_option autoImplicit false

namespace SwarmChart.Json

/-! ## Quiet characters -/

/-- Outside strings the character neither opens nor closes anything. -/
def IsQuiet (c : Char) : Prop := ∀ depth, (Nesting.outside depth).step c.toNat = .outside depth

theorem isQuiet_of_isDigit {c : Char} (h : c.isDigit = true) : IsQuiet c := by
  have bounds := Char.isDigit_iff_toNat.1 h
  have zero : '0'.toNat = 48 := rfl
  have nine : '9'.toNat = 57 := rfl
  intro depth
  simp only [Nesting.step]
  rw [if_neg (by omega), if_neg (by omega), if_neg (by omega)]

theorem Token.isSpace_iff {c : Char} :
    isSpace c = true ↔ c = ' ' ∨ c = '\t' ∨ c = '\n' ∨ c = '\r' := by
  simp only [isSpace, Bool.or_eq_true, decide_eq_true_eq, or_assoc]

theorem isQuiet_of_isSpace {c : Char} (h : Token.isSpace c = true) : IsQuiet c := by
  rcases Token.isSpace_iff.1 h with rfl | rfl | rfl | rfl <;> exact fun _ => rfl

theorem pass_of_quiet {text : List Char} (h : ∀ c ∈ text, IsQuiet c) (depth : Nat) :
    (Nesting.outside depth).pass text = .outside depth := by
  induction text with
  | nil => rfl
  | cons c rest ih =>
    rw [Nesting.pass_cons, h c List.mem_cons_self depth]
    exact ih fun other member => h other (List.mem_cons_of_mem c member)

/-! ## Local scans -/

variable {α β : Type}

/-- A scan that takes nothing but quiet characters off a text, and goes by them and the character
that follows them alone. -/
def Local (scan : List Char → Except Fault (α × List Char)) : Prop :=
  ∀ text value rest, scan text = .ok (value, rest) →
    ∃ used, text = used ++ rest ∧ (∀ c ∈ used, IsQuiet c) ∧
      ∀ tail, tail.head? = rest.head? → scan (used ++ tail) = .ok (value, tail)

/-- One local scan after the other is a local scan. -/
theorem Local.bind {first : List Char → Except Fault (α × List Char)}
    {second : α → List Char → Except Fault (β × List Char)} (isLocal : Local first)
    (areLocal : ∀ value, Local (second value)) :
    Local fun text => first text >>= fun taken => second taken.1 taken.2 := by
  intro text value rest h
  dsimp only at h ⊢
  cases found : first text with
  | error fault =>
    rw [found] at h
    cases h
  | ok taken =>
    obtain ⟨held, middle⟩ := taken
    rw [found] at h
    obtain ⟨front, rfl, quiet, alike⟩ := isLocal _ _ _ found
    obtain ⟨back, rfl, quietToo, alikeToo⟩ := areLocal _ _ _ _ h
    refine ⟨front ++ back, (List.append_assoc ..).symm, ?_, ?_⟩
    · intro c member
      rcases List.mem_append.1 member with member | member
      · exact quiet c member
      · exact quietToo c member
    · intro tail same
      -- The first scan sees the beginning of what the second one takes, or of the tail.
      have between : (back ++ tail).head? = (back ++ rest).head? := by
        rw [List.head?_append, List.head?_append, same]
      rw [List.append_assoc, alike _ between]
      exact alikeToo tail same

theorem local_ok (value : α) : Local fun text => .ok (value, text) := by
  rintro text _ _ ⟨⟩
  exact ⟨[], rfl, fun _ member => absurd member List.not_mem_nil, fun _ _ => rfl⟩

/-- A scan is local if it is so behind each of its marks and takes nothing where none of them is. -/
theorem local_of_marks {scan : List Char → Except Fault (α × List Char)} (marks : List Char)
    (absent : α) (marked : ∀ c ∈ marks, IsQuiet c ∧ Local fun text => scan (c :: text))
    (unmarked : ∀ text : List Char, (∀ c ∈ marks, text.head? ≠ some c) →
      scan text = .ok (absent, text)) : Local scan := by
  intro text value rest h
  by_cases bare : ∀ c ∈ marks, text.head? ≠ some c
  · -- Nothing is taken, so the tail begins like the text, without a mark.
    rw [unmarked text bare] at h
    cases h
    refine ⟨[], rfl, fun _ member => absurd member List.not_mem_nil, ?_⟩
    intro tail same
    exact unmarked tail (same ▸ bare)
  · obtain ⟨c, isMark, first⟩ : ∃ c ∈ marks, text.head? = some c := by simpa using bare
    obtain ⟨later, rfl⟩ := List.head?_eq_some_iff.1 first
    obtain ⟨quiet, isLocal⟩ := marked c isMark
    obtain ⟨used, rfl, others, alike⟩ := isLocal _ _ _ h
    refine ⟨c :: used, rfl, ?_, alike⟩
    intro d member
    rcases List.mem_cons.1 member with rfl | member
    · exact quiet
    · exact others d member

namespace Numeral

open Decimal (run run_append_drop run_append_of_head? isDigit_of_mem_run)

theorem isQuiet_of_mem_run {text : List Char} {c : Char} (h : c ∈ run text) : IsQuiet c :=
  isQuiet_of_isDigit (isDigit_of_mem_run h)

/-- A scan of the digits that a text begins with. -/
def scanDigits (value : List Char → α) (text : List Char) : Except Fault (α × List Char) :=
  match run text with
  | [] => .error (noDigit text)
  | digits => .ok (value digits, text.drop digits.length)

/-- A scan of digits takes all that there are, and there must be one. -/
theorem scanDigits_eq_ok_iff {value : List Char → α} {text rest : List Char} {result : α} :
    scanDigits value text = .ok (result, rest) ↔
      run text ≠ [] ∧ result = value (run text) ∧ rest = text.drop (run text).length := by
  unfold scanDigits
  split
  · next none => simp [none]
  · next _ some_digit =>
    have nonempty : run text ≠ [] := some_digit
    simp [nonempty, eq_comm]

theorem local_scanDigits (value : List Char → α) : Local (scanDigits value) := by
  intro text result rest h
  obtain ⟨nonempty, rfl, rfl⟩ := scanDigits_eq_ok_iff.1 h
  refine ⟨run text, (run_append_drop text).symm, fun c => isQuiet_of_mem_run, ?_⟩
  intro tail same
  have front := run_append_of_head? same
  rw [scanDigits_eq_ok_iff, front]
  exact ⟨nonempty, rfl, List.drop_left.symm⟩

/-- A whole number takes all digits that there are, without a zero in front of others. -/
theorem scanWhole_eq_ok_iff {text digits rest : List Char} :
    scanWhole text = .ok (digits, rest) ↔
      (run text ≠ [] ∧ ∀ c later, run text ≠ '0' :: c :: later) ∧
        digits = run text ∧ rest = text.drop (run text).length := by
  unfold scanWhole
  split
  · next none => simp [none]
  · next leading => simp [leading]
  · next some_digit single =>
    have nonempty : run text ≠ [] := some_digit
    have sole : ∀ c later, run text ≠ '0' :: c :: later := single
    simp [nonempty, sole, eq_comm]

theorem local_scanWhole : Local scanWhole := by
  intro text digits rest h
  obtain ⟨wellFormed, rfl, rfl⟩ := scanWhole_eq_ok_iff.1 h
  refine ⟨run text, (run_append_drop text).symm, fun c => isQuiet_of_mem_run, ?_⟩
  intro tail same
  have front := run_append_of_head? same
  rw [scanWhole_eq_ok_iff, front]
  exact ⟨wellFormed, rfl, List.drop_left.symm⟩

theorem local_splitMinus : Local fun text => .ok (splitMinus text) := by
  apply local_of_marks ['-'] false
  · intro c member
    rw [List.mem_singleton.1 member]
    exact ⟨fun _ => rfl, local_ok true⟩
  · intro text unmarked
    have noMinus := unmarked '-' List.mem_cons_self
    unfold splitMinus
    split
    · exact absurd rfl noMinus
    · rfl

theorem local_splitSign : Local fun text => .ok (Decimal.splitSign text) := by
  apply local_of_marks ['-', '+'] false
  · intro c member
    simp only [List.mem_cons, List.not_mem_nil, or_false] at member
    rcases member with rfl | rfl
    · exact ⟨fun _ => rfl, local_ok true⟩
    · exact ⟨fun _ => rfl, local_ok false⟩
  · intro text unmarked
    have noMinus := unmarked '-' (by decide)
    have noPlus := unmarked '+' (by decide)
    unfold Decimal.splitSign
    split
    · exact absurd rfl noMinus
    · exact absurd rfl noPlus
    · rfl

theorem local_scanFraction : Local scanFraction := by
  apply local_of_marks ['.'] none
  · intro c member
    rw [List.mem_singleton.1 member]
    exact ⟨fun _ => rfl, local_scanDigits some⟩
  · intro text unmarked
    have noPoint := unmarked '.' List.mem_cons_self
    unfold scanFraction
    split
    · exact absurd rfl noPoint
    · rfl

theorem local_scanExponent : Local scanExponent := by
  -- Behind the mark comes a sign and then digits, both scanned locally.
  have behindMark : Local fun text =>
      (.ok (Decimal.splitSign text) : Except Fault _) >>= fun sign => scanDigits (fun digits =>
        some (if sign.1 then -(Decimal.value digits : Int) else Decimal.value digits)) sign.2 :=
    local_splitSign.bind fun negative => local_scanDigits fun digits =>
      some (if negative then -(Decimal.value digits : Int) else Decimal.value digits)
  apply local_of_marks ['e', 'E'] none
  · intro c member
    simp only [List.mem_cons, List.not_mem_nil, or_false] at member
    rcases member with rfl | rfl
    · exact ⟨fun _ => rfl, behindMark⟩
    · exact ⟨fun _ => rfl, behindMark⟩
  · intro text unmarked
    cases text with
    | nil => rfl
    | cons mark later =>
      have noMark : ¬(mark = 'e' ∨ mark = 'E') := by
        rintro (rfl | rfl)
        · exact unmarked 'e' (by decide) rfl
        · exact unmarked 'E' (by decide) rfl
      exact if_neg noMark

/-- A number is cut off locally: all of it is quiet, and what follows it ends it. -/
theorem local_scan : Local scan := by
  -- The scan is the row of its four parts.
  have parts : Local fun text => (.ok (splitMinus text) : Except Fault _) >>= fun minus =>
      scanWhole minus.2 >>= fun whole => scanFraction whole.2 >>= fun fraction =>
      scanExponent fraction.2 >>= fun exponent =>
      .ok (Numeral.mk minus.1 whole.1 fraction.1 exponent.1, exponent.2) :=
    local_splitMinus.bind fun negative => local_scanWhole.bind fun whole =>
      local_scanFraction.bind fun fraction => local_scanExponent.bind fun exponent =>
        local_ok _
  exact parts

end Numeral

/-! ## Strings -/

namespace StringText

/-- A character that is neither a quote nor the mark of an escape leaves one inside a string. -/
theorem step_inside {c : Char} (quote : c ≠ '"') (backslash : c ≠ '\\') (depth : Nat) :
    (Nesting.inside depth).step c.toNat = .inside depth := by
  have noQuote : c.toNat ≠ 0x22 := fun same => quote (Char.toNat_inj.1 same)
  have noBackslash : c.toNat ≠ 0x5C := fun same => backslash (Char.toNat_inj.1 same)
  simp only [Nesting.step]
  rw [if_neg noQuote, if_neg noBackslash]

/-- No hexadecimal digit ends a string or begins an escape. -/
theorem ne_of_hexDigit? {c : Char} {value : Nat} (h : Text.hexDigit? c = some value) :
    c ≠ '"' ∧ c ≠ '\\' := by
  constructor
  · rintro rfl
    cases h
  · rintro rfl
    cases h

theorem hexDigit?_of_unit? {a b c d : Char} {value : Nat} (h : unit? a b c d = some value) :
    ∃ p q r s, Text.hexDigit? a = some p ∧ Text.hexDigit? b = some q ∧
      Text.hexDigit? c = some r ∧ Text.hexDigit? d = some s := by
  simp only [unit?, Option.bind_eq_bind, Option.bind_eq_some_iff] at h
  obtain ⟨p, first, q, second, r, third, s, fourth, -⟩ := h
  exact ⟨p, q, r, s, first, second, third, fourth⟩

/-- A string that is closed ends with its closing quote, whatever follows. -/
theorem exists_of_scanFrom (found : List Piece) (text : List Char) {rest : List Char}
    {written : Written} (h : scanFrom found text = (written, rest))
    (closed : written.fault = none) :
    ∃ used, text = used ++ rest ∧ (∀ tail, scanFrom found (used ++ tail) = (written, tail)) ∧
      ∀ depth, (Nesting.inside depth).pass used = .outside depth := by
  fun_induction scanFrom found text with
  | case1 found =>
    cases h
    cases closed
  | case2 found text =>
    cases h
    refine ⟨['"'], rfl, fun tail => by rw [List.singleton_append, scanFrom], ?_⟩
    exact fun depth => rfl
  | case3 found =>
    cases h
    cases closed
  | case4 found a b c d text value unit ih =>
    -- A numbered unit: none of its digits is a quote or a mark of an escape.
    obtain ⟨used, rfl, alike, passed⟩ := ih h
    refine ⟨'\\' :: 'u' :: a :: b :: c :: d :: used, rfl, ?_, ?_⟩
    · intro tail
      exact (scanFrom_unit found (used ++ tail) unit).trans (alike tail)
    · obtain ⟨p, q, r, s, first, second, third, fourth⟩ := hexDigit?_of_unit? unit
      have plain : ∀ {digit value}, Text.hexDigit? digit = some value → ∀ depth,
          (Nesting.inside depth).step digit.toNat = .inside depth := fun isDigit =>
        step_inside (ne_of_hexDigit? isDigit).1 (ne_of_hexDigit? isDigit).2
      have mark : ∀ depth, ((Nesting.inside depth).step '\\'.toNat).step 'u'.toNat =
          .inside depth := fun _ => rfl
      intro depth
      simp only [Nesting.pass_cons, mark, plain first, plain second, plain third, plain fourth]
      exact passed depth
  | case5 found a b c d text none =>
    cases h
    cases closed
  | case6 found text =>
    cases h
    cases closed
  | case7 found mark text _ _ c short ih =>
    -- A short escape: its second character may be a quote, which then does not end the string.
    obtain ⟨used, rfl, alike, passed⟩ := ih h
    refine ⟨'\\' :: mark :: used, rfl, ?_, ?_⟩
    · intro tail
      exact (scanFrom_short found (used ++ tail) short).trans (alike tail)
    · intro depth
      exact passed depth
  | case8 found =>
    cases h
    cases closed
  | case9 found =>
    cases h
    cases closed
  | case10 found c text quote bare _ _ escape control ih =>
    -- A character that stands for itself.
    have backslash : c ≠ '\\' := by
      intro isMark
      cases text with
      | nil => exact bare isMark rfl
      | cons mark later => exact escape mark later isMark rfl
    obtain ⟨used, rfl, alike, passed⟩ := ih h
    refine ⟨c :: used, rfl, ?_, ?_⟩
    · intro tail
      exact (scanFrom_plain found (used ++ tail) quote backslash control).trans (alike tail)
    · intro depth
      rw [Nesting.pass_cons, step_inside quote backslash]
      exact passed depth

end StringText

/-! ## Tokens -/

namespace Token

/-- The token is written correctly and leads from one number of open containers to another. -/
inductive Moves : Token → Nat → Nat → Prop where
  | openArray {depth : Nat} : Moves .openArray depth (depth + 1)
  | openObject {depth : Nat} : Moves .openObject depth (depth + 1)
  | closeArray {depth : Nat} : Moves .closeArray (depth + 1) depth
  | closeObject {depth : Nat} : Moves .closeObject (depth + 1) depth
  | colon {depth : Nat} : Moves .colon depth depth
  | comma {depth : Nat} : Moves .comma depth depth
  | word {value : Json} {depth : Nat} : Moves (.word (.ok value)) depth depth
  | number {numeral : Numeral} {depth : Nat} : Moves (.number (.ok numeral)) depth depth
  | string {pieces : List StringText.Piece} {depth : Nat} :
      Moves (.string ⟨pieces, none⟩) depth depth

/-- One container more around everything makes no difference. -/
theorem Moves.succ {token : Token} {before after : Nat} (h : token.Moves before after) :
    token.Moves (before + 1) (after + 1) := by
  cases h <;> constructor

theorem of_behind {letters text rest : List Char} (h : behind letters text = .ok rest) :
    text = letters ++ rest := by
  fun_induction behind letters text with
  | case1 text =>
    cases h
    rfl
  | case2 => cases h
  | case3 letters c text ih => rw [ih h, List.cons_append]
  | case4 => cases h

theorem behind_append (letters tail : List Char) : behind letters (letters ++ tail) = .ok tail := by
  induction letters with
  | nil => rfl
  | cons c letters ih => rw [List.cons_append, behind, if_pos rfl, ih]

/-! ## One token -/

/-- A text whose first character between tokens is `c` begins with the token of `c`. -/
theorem next?_append {spaces : List Char} (white : ∀ s ∈ spaces, isSpace s = true) {c : Char}
    (solid : isSpace c = false) (rest : List Char) :
    next? (spaces ++ c :: rest) = some (beginning c rest) := by
  have front : (spaces ++ c :: rest).dropWhile isSpace = c :: rest := by
    rw [List.dropWhile_append_of_pos white, List.dropWhile_cons_of_neg (by simp [solid])]
  rw [next?, front]

/-- The next token begins with the first character that is no white space. -/
theorem exists_of_next? {text rest : List Char} {token : Token}
    (h : next? text = some (token, rest)) :
    ∃ spaces c later, text = spaces ++ c :: later ∧ (∀ s ∈ spaces, isSpace s = true) ∧
      isSpace c = false ∧ beginning c later = (token, rest) := by
  have parts : text.takeWhile isSpace ++ text.dropWhile isSpace = text :=
    List.takeWhile_append_dropWhile
  have stop := List.head?_dropWhile_not isSpace text
  unfold next? at h
  split at h
  · cases h
  · next c later found =>
    rw [found] at parts stop
    exact ⟨text.takeWhile isSpace, c, later, parts.symm, fun _ => List.mem_takeWhile_imp, stop,
      Option.some.inj h⟩

theorem forall_isSpace_of_next? {text : List Char} (h : next? text = none) :
    ∀ s ∈ text, isSpace s = true := by
  unfold next? at h
  split at h
  · next none => exact List.dropWhile_eq_nil_iff.1 none
  · cases h

theorem next?_of_forall_isSpace {text : List Char} (h : ∀ s ∈ text, isSpace s = true) :
    next? text = none := by
  rw [next?, List.dropWhile_eq_nil_iff.2 h]

/-- The ways in which a token begins. -/
inductive BeginsBy (c : Char) : Prop where
  | mark {token : Token} (sign : mark? c = some token)
      (takes : ∀ text, beginning c text = (token, text))
  | word {value : Json} {letters : List Char} (spelled : word? c = some (value, letters))
      (takes : ∀ text, beginning c text = wordToken value letters text)
  | quote (isQuote : c = '"') (takes : ∀ text,
      beginning c text = (string (StringText.scan text).1, (StringText.scan text).2))
  | number (takes : ∀ text, beginning c text = numberToken (c :: text))
  | stray (takes : ∀ text, beginning c text = (.stray, []))

theorem beginsBy (c : Char) : BeginsBy c := by
  cases mark : mark? c with
  | some token => exact .mark mark fun text => by rw [beginning, mark]
  | none =>
    cases word : word? c with
    | some spelled => exact .word word fun text => by simp only [beginning, mark, word]
    | none =>
      by_cases quote : c = '"'
      · exact .quote quote fun text => by simp only [beginning, mark, word, if_pos quote]
      by_cases digit : c = '-' ∨ c.isDigit = true
      · exact .number fun text => by
          simp only [beginning, mark, word, if_neg quote, if_pos digit]
      · exact .stray fun text => by
          simp only [beginning, mark, word, if_neg quote, if_neg digit]

theorem mark?_eq_some {c : Char} {token : Token} (h : mark? c = some token) :
    (c = '[' ∧ token = .openArray) ∨ (c = ']' ∧ token = .closeArray) ∨
      (c = '\x7b' ∧ token = .openObject) ∨ (c = '\x7d' ∧ token = .closeObject) ∨
      (c = ':' ∧ token = .colon) ∨ (c = ',' ∧ token = .comma) := by
  unfold mark? at h
  repeat' split at h
  all_goals
    cases h
    try simp_all

theorem isQuiet_of_word? {c : Char} {value : Json} {letters : List Char}
    (h : word? c = some (value, letters)) : ∀ d ∈ c :: letters, IsQuiet d := by
  have known : c :: letters = ['n', 'u', 'l', 'l'] ∨ c :: letters = ['t', 'r', 'u', 'e'] ∨
      c :: letters = ['f', 'a', 'l', 's', 'e'] := by
    unfold word? at h
    repeat' split at h
    all_goals
      cases h
      try simp_all
  rcases known with known | known | known
  all_goals
    rw [known]
    simp only [List.forall_mem_cons, List.not_mem_nil, false_implies, implies_true, and_true]
  · exact ⟨fun _ => rfl, fun _ => rfl, fun _ => rfl, fun _ => rfl⟩
  · exact ⟨fun _ => rfl, fun _ => rfl, fun _ => rfl, fun _ => rfl⟩
  · exact ⟨fun _ => rfl, fun _ => rfl, fun _ => rfl, fun _ => rfl, fun _ => rfl⟩

section

variable {c : Char} {later rest : List Char} {token : Token} {before after : Nat}

/-- A bracket changes the depth as its token does, and the other marks leave it alone. -/
theorem mark_local (h : mark? c = some token) (moves : token.Moves before after)
    (goes : 0 < after) : (Nesting.outside before).step c.toNat = .outside after := by
  -- Only the last of the open containers leads out of them all.
  have closed : (if after + 1 = 1 then Nesting.behind else .outside after) = .outside after :=
    if_neg (by omega)
  rcases mark?_eq_some h with ⟨rfl, rfl⟩ | ⟨rfl, rfl⟩ | ⟨rfl, rfl⟩ | ⟨rfl, rfl⟩ | ⟨rfl, rfl⟩ |
    ⟨rfl, rfl⟩
  · cases moves
    rfl
  · cases moves
    exact closed
  · cases moves
    rfl
  · cases moves
    exact closed
  · cases moves
    rfl
  · cases moves
    rfl

/-- A word is cut off in the same way whatever follows it, and it is quiet. -/
theorem wordToken_local {value : Json} {letters : List Char}
    (word : word? c = some (value, letters)) (h : wordToken value letters later = (token, rest))
    (moves : token.Moves before after) :
    ∃ used, later = used ++ rest ∧
      (∀ tail, wordToken value letters (used ++ tail) = (token, tail)) ∧
      (Nesting.outside before).pass (c :: used) = .outside after := by
  unfold wordToken at h
  split at h
  · next found =>
    cases h
    cases moves
    refine ⟨letters, of_behind found, ?_, pass_of_quiet (isQuiet_of_word? word) _⟩
    intro tail
    rw [wordToken, behind_append]
  · cases h
    cases moves

/-- A number is cut off in the same way before the same character, and it is quiet. -/
theorem numberToken_local (h : numberToken (c :: later) = (token, rest))
    (moves : token.Moves before after) :
    ∃ used, later = used ++ rest ∧
      (∀ tail, tail.head? = rest.head? → numberToken (c :: (used ++ tail)) = (token, tail)) ∧
      (Nesting.outside before).pass (c :: used) = .outside after := by
  unfold numberToken at h
  split at h
  · next found =>
    cases h
    cases moves
    obtain ⟨used, whole, quiet, alike⟩ := Numeral.local_scan _ _ _ found
    cases used with
    | nil =>
      -- A number takes at least one character.
      have shorter := Numeral.length_of_scan found
      rw [whole] at shorter
      exact absurd shorter (Nat.lt_irrefl _)
    | cons d used =>
      cases whole
      refine ⟨used, rfl, ?_, pass_of_quiet quiet _⟩
      intro tail same
      have again := alike tail same
      rw [List.cons_append] at again
      rw [numberToken, again]
  · cases h
    cases moves

/-- A string is cut off at its closing quote whatever follows it, and the depth behind it is the one
before it. -/
theorem stringToken_local (h : (string (StringText.scan later).1, (StringText.scan later).2) =
      (token, rest)) (moves : token.Moves before after) :
    ∃ used, later = used ++ rest ∧
      (∀ tail, (string (StringText.scan (used ++ tail)).1, (StringText.scan (used ++ tail)).2) =
        (token, tail)) ∧
      (Nesting.outside before).pass ('"' :: used) = .outside after := by
  cases scanned : StringText.scan later with
  | mk written beyond =>
    rw [scanned] at h
    cases h
    cases moves
    obtain ⟨used, whole, alike, passed⟩ := StringText.exists_of_scanFrom [] later scanned rfl
    refine ⟨used, whole, ?_, passed _⟩
    intro tail
    rw [StringText.scan, alike tail]

/-- A token that is written correctly is cut off alike wherever the same character follows it. -/
theorem beginning_local (h : beginning c later = (token, rest)) (moves : token.Moves before after)
    (goes : 0 < after) :
    ∃ used, later = used ++ rest ∧
      (∀ tail, tail.head? = rest.head? → beginning c (used ++ tail) = (token, tail)) ∧
      (Nesting.outside before).pass (c :: used) = .outside after := by
  cases beginsBy c with
  | mark sign takes =>
    rw [takes] at h
    cases h
    exact ⟨[], rfl, fun tail _ => takes tail, mark_local sign moves goes⟩
  | word spelled takes =>
    rw [takes] at h
    obtain ⟨used, whole, alike, passed⟩ := wordToken_local spelled h moves
    exact ⟨used, whole, fun tail _ => (takes _).trans (alike tail), passed⟩
  | quote isQuote takes =>
    rw [takes] at h
    obtain ⟨used, whole, alike, passed⟩ := stringToken_local h moves
    exact ⟨used, whole, fun tail _ => (takes _).trans (alike tail), isQuote ▸ passed⟩
  | number takes =>
    rw [takes] at h
    obtain ⟨used, whole, alike, passed⟩ := numberToken_local h moves
    exact ⟨used, whole, fun tail same => (takes _).trans (alike tail same), passed⟩
  | stray takes =>
    rw [takes] at h
    cases h
    cases moves

/-- A bracket that ends a container is its whole token. -/
theorem mark?_of_beginning (h : beginning c later = (token, rest))
    (moves : token.Moves (after + 1) after) : mark? c = some token ∧ later = rest := by
  -- No other token comes out of a container, so `moves` rules them out once they are known.
  cases beginsBy c with
  | mark sign takes =>
    rw [takes] at h
    cases h
    exact ⟨sign, rfl⟩
  | word spelled takes =>
    rw [takes] at h
    unfold wordToken at h
    split at h
    · cases h
      cases moves
    · cases h
      cases moves
  | quote isQuote takes =>
    rw [takes] at h
    cases h
    generalize (StringText.scan later).1 = written at moves
    cases moves
  | number takes =>
    rw [takes] at h
    unfold numberToken at h
    split at h
    · cases h
      cases moves
    · cases h
      cases moves
  | stray takes =>
    rw [takes] at h
    cases h
    cases moves

variable {text : List Char}

/-- The next token goes by its own characters and the one that follows, and the depth moves along
with it. -/
theorem next?_local (h : next? text = some (token, rest)) (moves : token.Moves before after)
    (goes : 0 < after) :
    ∃ used, text = used ++ rest ∧
      (∀ tail, tail.head? = rest.head? → next? (used ++ tail) = some (token, tail)) ∧
      (Nesting.outside before).pass used = .outside after := by
  obtain ⟨spaces, c, later, rfl, white, solid, begins⟩ := exists_of_next? h
  obtain ⟨used, rfl, alike, passed⟩ := beginning_local begins moves goes
  refine ⟨spaces ++ c :: used, ?_, ?_, ?_⟩
  · rw [List.append_assoc, List.cons_append]
  · intro tail same
    rw [List.append_assoc, List.cons_append, next?_append white solid, alike tail same]
  · have still : (Nesting.outside before).pass spaces = .outside before :=
      pass_of_quiet (fun s member => isQuiet_of_isSpace (white s member)) before
    rw [Nesting.pass_append, still]
    exact passed

/-- The bracket that ends a container is a token whatever follows it. -/
theorem next?_close (h : next? text = some (token, rest)) (moves : token.Moves (after + 1) after) :
    ∃ spaces c, text = spaces ++ c :: rest ∧ (c = ']' ∨ c = '\x7d') ∧
      (∀ tail, next? (spaces ++ c :: tail) = some (token, tail)) ∧
      ∀ depth, (Nesting.outside depth).pass spaces = .outside depth := by
  obtain ⟨spaces, c, later, rfl, white, solid, begins⟩ := exists_of_next? h
  obtain ⟨mark, rfl⟩ := mark?_of_beginning begins moves
  refine ⟨spaces, c, rfl, ?_, ?_, ?_⟩
  · rcases mark?_eq_some mark with ⟨rfl, rfl⟩ | ⟨rfl, rfl⟩ | ⟨rfl, rfl⟩ | ⟨rfl, rfl⟩ | ⟨rfl, rfl⟩ |
      ⟨rfl, rfl⟩
    · cases moves
    · exact Or.inl rfl
    · cases moves
    · exact Or.inr rfl
    · cases moves
    · cases moves
  · intro tail
    rw [next?_append white solid, beginning, mark]
  · exact pass_of_quiet fun s member => isQuiet_of_isSpace (white s member)

end

/-! ## All tokens -/

theorem listFrom_of_next?_none {text : List Char} (h : next? text = none) (found : List Token) :
    listFrom found text = found.reverse := by
  rw [listFrom]
  split
  · rfl
  · next again =>
    rw [h] at again
    cases again

theorem listFrom_of_next?_some {text rest : List Char} {token : Token}
    (h : next? text = some (token, rest)) (found : List Token) :
    listFrom found text = listFrom (token :: found) rest := by
  rw [listFrom]
  split
  · next again =>
    rw [h] at again
    cases again
  · next again =>
    rw [h] at again
    cases again
    rfl

/-- The tokens found before stand in front of those that are still to come. -/
theorem listFrom_eq (found : List Token) (text : List Char) :
    listFrom found text = found.reverse ++ list text := by
  induction length : text.length using Nat.strongRecOn generalizing found text with
  | ind n ih =>
    subst length
    cases h : next? text with
    | none =>
      rw [list, listFrom_of_next?_none h, listFrom_of_next?_none h, List.reverse_nil,
        List.append_nil]
    | some cut =>
      obtain ⟨token, rest⟩ := cut
      have shorter := next?_shortens h
      rw [list, listFrom_of_next?_some h, listFrom_of_next?_some h, ih _ shorter _ _ rfl,
        ih _ shorter [token] _ rfl, List.reverse_cons, List.append_assoc]
      rfl

theorem list_of_next?_none {text : List Char} (h : next? text = none) : list text = [] :=
  listFrom_of_next?_none h []

theorem list_of_next?_some {text rest : List Char} {token : Token}
    (h : next? text = some (token, rest)) : list text = token :: list rest := by
  rw [list, listFrom_of_next?_some h, listFrom_eq]
  rfl

/-! ## Machines over tokens -/

section Machine

variable {State : Type} {step : State → Token → Except Fault State} {state next last : State}
  {token : Token} {tokens : List Token}

theorem foldlM_cons_of_ok (taken : step state token = .ok next) (tokens : List Token) :
    (token :: tokens).foldlM step state = tokens.foldlM step next := by
  rw [List.foldlM_cons, taken]
  rfl

/-- Where all tokens are taken, the first is taken and then the others. -/
theorem exists_of_foldlM_cons (h : (token :: tokens).foldlM step state = .ok last) :
    ∃ next, step state token = .ok next ∧ tokens.foldlM step next = .ok last := by
  rw [List.foldlM_cons] at h
  cases taken : step state token with
  | error fault =>
    rw [taken] at h
    cases h
  | ok next =>
    rw [taken] at h
    exact ⟨next, rfl, h⟩

end Machine

end Token

end SwarmChart.Json
