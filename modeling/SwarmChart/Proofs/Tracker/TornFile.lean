import SwarmChart.Proofs.Json.Depth
import SwarmChart.Tracker.DataFile

/-!
# Torn data files

The tracker rewrites its file over and over, so the file may be met with its end missing. Such a
file is never taken for a shorter one (`load_take`): as long as the outermost container is not
complete the file is refused, and from there on its entries are all there.

A step of the reader takes a token that is written correctly and changes the number of open
containers as that token does (`FileReader.steps_of_step`). So a text that is read to its end has
its outermost container closed by its last token, and everything behind is white space that does not
matter (`FileReader.exists_of_run_done`).
-/

set_option autoImplicit false

namespace SwarmChart

open Json (Fault Nesting Reading Token)

namespace Tracker

namespace FileReader

/-! ## Depth -/

/-- The number of containers that are open. -/
def depth : FileReader → Nat
  | start | done _ => 0
  | key .. | colonOfEntries | colonOfOther _ | entriesOfObject | behindMember _ | entriesOfList
  | behindItem _ => 1
  | insideEntries reading | insideOther _ reading | insideList reading => reading.depth + 1

/-- What a step of the reader can be: the end of the outermost container, or a step inside it. -/
inductive Steps (reader : FileReader) (token : Token) : FileReader → Prop where
  | ends {found : List Json} (outermost : reader.depth = 1) (closes : token.Moves 1 0) :
      Steps reader token (.done found)
  | goes {next : FileReader} (inside : 0 < next.depth)
      (moves : token.Moves reader.depth next.depth) : Steps reader token next

variable {reader next : FileReader} {token : Token}

/-- Reading on inside the entries moves the depth as the reader of a value does, one further in. -/
theorem steps_of_goOn {reading : Reading} {inside : Reading → FileReader}
    {behind : Json → FileReader} (h : goOn reading token inside behind = .ok next)
    (here : reader.depth = reading.depth + 1)
    (stays : ∀ reading, (inside reading).depth = reading.depth + 1)
    (leaves : ∀ value, (behind value).depth = 1) : Steps reader token next := by
  unfold goOn at h
  cases taken : reading.step token with
  | error fault =>
    rw [taken] at h
    cases h
  | ok later =>
    rw [taken] at h
    obtain ⟨moves, settled⟩ := Reading.follows_of_step taken
    -- The outermost container stands around the value that is read.
    have outer : token.Moves reader.depth (later.depth + 1) := by
      rw [here]
      exact moves.succ
    dsimp only [bind, Except.bind] at h
    split at h
    · next value complete =>
      cases h
      have none : later.depth = 0 := by rw [Reading.depth, settled value complete, List.length_nil]
      rw [none] at outer
      refine .goes ?_ ?_
      · rw [leaves]
        exact Nat.zero_lt_one
      · rw [leaves]
        exact outer
    · cases h
      refine .goes ?_ ?_
      · rw [stays]
        exact Nat.succ_pos _
      · rw [stays]
        exact outer

/-- The list of entries opens inside the outermost container. -/
theorem steps_of_beginEntries {inside : Reading → FileReader}
    (h : beginEntries inside token = .ok next) (here : reader.depth = 1)
    (stays : ∀ reading, (inside reading).depth = reading.depth + 1) : Steps reader token next := by
  unfold beginEntries at h
  split at h
  · obtain ⟨later, taken, rfl⟩ := Reading.exists_of_map h
    obtain ⟨moves, -⟩ := Reading.follows_of_step taken
    refine .goes ?_ ?_
    · rw [stays]
      exact Nat.succ_pos _
    · rw [stays, here]
      exact moves.succ
  · cases h

theorem steps_of_takeKey {found : Option (List Json)} (h : takeKey found token = .ok next)
    (here : reader.depth = 1) : Steps reader token next := by
  unfold takeKey at h
  split at h
  · next written =>
    cases taken : Reading.text .kept written with
    | error fault =>
      rw [taken] at h
      cases h
    | ok name =>
      have moves := Reading.moves_of_text taken 1
      rw [← here] at moves
      rw [taken] at h
      dsimp only [bind, Except.bind] at h
      repeat' split at h
      · cases h
      · cases h
        exact .goes Nat.zero_lt_one (here ▸ moves)
      · cases h
        exact .goes Nat.zero_lt_one (here ▸ moves)
  · cases h

/-- Every step of the reader takes a token that is written correctly and changes the depth as it
should. -/
theorem steps_of_step (h : reader.step token = .ok next) : Steps reader token next := by
  -- Within a value the steps are those of its reading; elsewhere the place asks for one mark.
  unfold step at h
  cases reader with
  | start =>
    dsimp only at h
    split at h
    · cases h
      exact .goes Nat.zero_lt_one .openObject
    · cases h
      exact .goes Nat.zero_lt_one .openArray
    · cases h
  | key empty found =>
    dsimp only at h
    split at h
    · split at h
      · cases h
        exact .ends rfl .closeObject
      · cases h
    · exact steps_of_takeKey h rfl
  | colonOfEntries =>
    dsimp only at h
    split at h
    · cases h
      exact .goes Nat.zero_lt_one .colon
    · cases h
  | colonOfOther found =>
    dsimp only at h
    split at h
    · cases h
      exact .goes Nat.zero_lt_one .colon
    · cases h
  | entriesOfObject => exact steps_of_beginEntries h rfl fun _ => rfl
  | insideEntries reading => exact steps_of_goOn h rfl (fun _ => rfl) fun _ => rfl
  | insideOther found reading => exact steps_of_goOn h rfl (fun _ => rfl) fun _ => rfl
  | behindMember found =>
    dsimp only at h
    split at h
    · cases h
      exact .goes Nat.zero_lt_one .comma
    · cases h
      exact .ends rfl .closeObject
    · cases h
  | entriesOfList =>
    dsimp only at h
    split at h
    · cases h
      exact .ends rfl .closeArray
    · exact steps_of_beginEntries h rfl fun _ => rfl
  | insideList reading => exact steps_of_goOn h rfl (fun _ => rfl) fun _ => rfl
  | behindItem found =>
    dsimp only at h
    split at h
    · cases h
      exact .ends rfl .closeArray
    · cases h
  | done found => cases h

/-! ## Runs -/

/-- Reads the tokens of a text. -/
def run (reader : FileReader) (text : List Char) : Except Fault FileReader :=
  (Token.list text).foldlM step reader

theorem run_of_next?_none {text : List Char} (h : Token.next? text = none) :
    reader.run text = .ok reader := by
  rw [run, Token.list_of_next?_none h]
  rfl

theorem run_of_next?_some {text rest : List Char} (h : Token.next? text = some (token, rest))
    (taken : reader.step token = .ok next) : reader.run text = next.run rest := by
  rw [run, Token.list_of_next?_some h]
  exact Token.foldlM_cons_of_ok taken (Token.list rest)

theorem exists_of_run {text rest : List Char} {last : FileReader} (h : reader.run text = .ok last)
    (cut : Token.next? text = some (token, rest)) :
    ∃ next, reader.step token = .ok next ∧ next.run rest = .ok last := by
  rw [run, Token.list_of_next?_some cut] at h
  exact Token.exists_of_foldlM_cons h

/-- Behind the outermost container there is nothing but white space. -/
theorem next?_of_run_done {text : List Char} {found : List Json} {last : FileReader}
    (h : (done found).run text = .ok last) : Token.next? text = none ∧ last = done found := by
  cases cut : Token.next? text with
  | none =>
    rw [run_of_next?_none cut] at h
    cases h
    exact ⟨rfl, rfl⟩
  | some pair =>
    obtain ⟨token, rest⟩ := pair
    obtain ⟨next, taken, -⟩ := exists_of_run h cut
    cases taken

/-- A text that is read to its end consists of the rest of the outermost container and white space,
and what is read does not depend on that white space. -/
theorem exists_of_run_done {text : List Char} {found : List Json}
    (h : reader.run text = .ok (done found)) (opens : ∀ found, reader ≠ done found) :
    ∃ front c space, text = front ++ c :: space ∧ (c = ']' ∨ c = '\x7d') ∧
      (Nesting.outside reader.depth).pass front = .outside 1 ∧ Token.next? space = none ∧
      ∀ more, reader.run (front ++ c :: more) = (done found).run more := by
  -- Every token shortens the text, and the reader may stand anywhere behind it.
  induction length : text.length using Nat.strongRecOn generalizing reader text with
  | ind n ih =>
    subst length
    cases cut : Token.next? text with
    | none =>
      rw [run_of_next?_none cut] at h
      cases h
      exact absurd rfl (opens found)
    | some pair =>
      obtain ⟨token, rest⟩ := pair
      obtain ⟨next, taken, later⟩ := exists_of_run h cut
      cases steps_of_step taken with
      | @ends held outermost closes =>
        -- Nothing may follow but white space, which no token begins.
        obtain ⟨white, same⟩ := next?_of_run_done later
        cases same
        obtain ⟨spaces, c, whole, bracket, alike, passed⟩ := Token.next?_close cut closes
        refine ⟨spaces, c, rest, whole, bracket, ?_, white, ?_⟩
        · rw [outermost, passed]
        · intro more
          exact run_of_next?_some (alike more) taken
      | goes inside moves =>
        have notDone : ∀ held, next ≠ done held := by
          rintro held rfl
          exact absurd inside (Nat.lt_irrefl 0)
        obtain ⟨front, c, space, whole, bracket, passed, white, same⟩ :=
          ih _ (Token.next?_shortens cut) later notDone rfl
        obtain ⟨used, behind, alike, led⟩ := Token.next?_local cut moves inside
        refine ⟨used ++ front, c, space, ?_, bracket, ?_, white, ?_⟩
        · rw [behind, whole, List.append_assoc]
        · rw [Nesting.pass_append, led, passed]
        · intro more
          -- The character behind the token still belongs to the container.
          have first : (front ++ c :: more).head? = rest.head? := by
            rw [whole, List.head?_append, List.head?_append]
            rfl
          rw [List.append_assoc, run_of_next?_some (alike _ first) taken, same]

end FileReader

/-! ## Texts -/

/-- Entries are read exactly if the text leads the reader from its start to its end. -/
theorem readEntries_eq_ok_iff {text : List Char} {entries : List Json} :
    readEntries text = .ok entries ↔ FileReader.start.run text = .ok (.done entries) := by
  unfold readEntries FileReader.run
  cases (Token.list text).foldlM FileReader.step FileReader.start with
  | error fault => exact ⟨nofun, nofun⟩
  | ok reader =>
    show reader.finish = .ok entries ↔ _
    cases reader with
    | done found => simp [FileReader.finish]
    | _ => simp [FileReader.finish]

/-- A text whose entries can be read is its outermost container and white space, and whatever part
of that white space is left has the same entries. -/
theorem exists_of_readEntries {text : List Char} {entries : List Json}
    (h : readEntries text = .ok entries) :
    ∃ front c space, text = front ++ c :: space ∧ (c = ']' ∨ c = '\x7d') ∧
      (Nesting.outside 0).pass front = .outside 1 ∧ (∀ s ∈ space, Token.isSpace s = true) ∧
      ∀ more, (∀ s ∈ more, Token.isSpace s = true) →
        readEntries (front ++ c :: more) = .ok entries := by
  obtain ⟨front, c, space, whole, bracket, passed, white, same⟩ :=
    FileReader.exists_of_run_done (readEntries_eq_ok_iff.1 h) nofun
  refine ⟨front, c, space, whole, bracket, passed, Token.forall_isSpace_of_next? white, ?_⟩
  intro more moreWhite
  rw [readEntries_eq_ok_iff, same]
  exact FileReader.run_of_next?_none (Token.next?_of_forall_isSpace moreWhite)

/-! ## Cuts -/

/-- The file is a text of nothing but white space. -/
def isBlankFile (octets : List UInt8) : Bool :=
  (Text.Utf8.decode? octets).any Text.isBlankText

/-- A cut behind so many octets falls inside a character. -/
def cutsCharacter (octets : List UInt8) (count : Nat) : Bool :=
  octets[count]?.any Text.Utf8.isContinuation

theorem toNat_of_isSpace {c : Char} (h : Token.isSpace c = true) : c.toNat < 128 := by
  rcases Token.isSpace_iff.1 h with rfl | rfl | rfl | rfl <;> decide

/-- What a file that is not blank is read to, once it is known to be a text. -/
theorem load_of_decode? {octets : List UInt8} {text : List Char}
    (decoded : Text.Utf8.decode? octets = some text) (written : Text.isBlankText text = false) :
    load (some octets) =
      match readEntries text with
      | .ok entries => .ok entries
      | .error fault => .error (.unusable fault) := by
  simp only [load, decoded, written]
  rfl

/-- An accepted file that is not blank holds a text with those entries. -/
theorem readEntries_of_load {octets : List UInt8} {entries : List Json}
    (accepted : load (some octets) = .ok entries) (written : isBlankFile octets = false) :
    ∃ text, Text.Utf8.decode? octets = some text ∧ readEntries text = .ok entries := by
  cases decoded : Text.Utf8.decode? octets with
  | none =>
    simp only [load, decoded] at accepted
    cases accepted
  | some text =>
    have visible : Text.isBlankText text = false := by
      rw [isBlankFile, decoded] at written
      exact written
    rw [load_of_decode? decoded visible] at accepted
    cases read : readEntries text with
    | error fault =>
      rw [read] at accepted
      cases accepted
    | ok found =>
      rw [read] at accepted
      cases accepted
      exact ⟨text, rfl, read⟩

theorem isBlankText_append_bracket {c : Char} (bracket : c = ']' ∨ c = '\x7d')
    (front more : List Char) : Text.isBlankText (front ++ c :: more) = false := by
  have visible : Text.isBlank c = false := by
    rcases bracket with rfl | rfl <;> rfl
  rw [Text.isBlankText, List.all_append, List.all_cons, visible, Bool.false_and, Bool.and_false]

/-- What is left of a text with its end cut off has no entries, unless the whole outermost container
is left. -/
theorem closing?_le_of_readEntries {part later : List Char} {entries : List Json} {count : Nat}
    (h : readEntries part = .ok entries)
    (ends : Json.closing? (Text.Utf8.encode (part ++ later)) = some count) :
    count ≤ (Text.Utf8.encode part).length := by
  obtain ⟨front, c, space, rfl, bracket, passed, -, -⟩ := exists_of_readEntries h
  rw [List.append_assoc, List.cons_append, Json.closing?,
    Nesting.closingFrom_encode passed bracket] at ends
  cases ends
  rw [List.append_cons front c space]
  exact Text.Utf8.length_encode_le _ _

/-- A file cut off inside its outermost container is refused. -/
theorem load_take_of_lt {text : List Char} {count n : Nat}
    (ends : Json.closing? (Text.Utf8.encode text) = some count) (short : n < count)
    (within : n < (Text.Utf8.encode text).length)
    (written : isBlankFile ((Text.Utf8.encode text).take n) = false) :
    if cutsCharacter (Text.Utf8.encode text) n then
      load (some ((Text.Utf8.encode text).take n)) = .error .notText
    else ∃ fault, load (some ((Text.Utf8.encode text).take n)) = .error (.unusable fault) := by
  generalize whole : Text.Utf8.encode text = octets at *
  have parts : octets.take n ++ octets[n] :: octets.drop (n + 1) = octets := by
    rw [← List.drop_eq_getElem_cons, List.take_append_drop]
  have decoded : Text.Utf8.decode? (octets.take n ++ octets[n] :: octets.drop (n + 1)) =
      some text := by
    rw [parts, ← whole, Text.Utf8.decode?_encode]
  have cuts : cutsCharacter octets n = Text.Utf8.isContinuation octets[n] := by
    rw [cutsCharacter, List.getElem?_eq_getElem within]
    rfl
  rw [cuts]
  rcases Text.Utf8.decode?_front decoded with ⟨continues, none⟩ |
    ⟨continues, part, later, front, rfl⟩
  · -- The first octet behind the cut goes on with a character.
    rw [if_pos continues]
    simp only [load, none]
  · have visible : Text.isBlankText part = false := by
      rw [isBlankFile, front] at written
      exact written
    rw [if_neg (by simp [continues]), load_of_decode? front visible]
    cases read : readEntries part with
    | error fault => exact ⟨fault, rfl⟩
    | ok found =>
      -- The container would end both before the cut and behind it.
      rw [← whole] at ends
      have long := closing?_le_of_readEntries read ends
      rw [Text.Utf8.encode_of_decode? front, List.length_take] at long
      omega

/-- A file cut off behind its outermost container has all its entries. -/
theorem load_take_of_le {front space : List Char} {c : Char} {entries : List Json} {n : Nat}
    (bracket : c = ']' ∨ c = '\x7d') (white : ∀ s ∈ space, Token.isSpace s = true)
    (same : ∀ more, (∀ s ∈ more, Token.isSpace s = true) →
      readEntries (front ++ c :: more) = .ok entries)
    (long : (Text.Utf8.encode (front ++ [c])).length ≤ n) :
    load (some ((Text.Utf8.encode (front ++ c :: space)).take n)) = .ok entries := by
  -- White space is of one octet each, so no character of it is cut.
  have left : (Text.Utf8.encode (front ++ c :: space)).take n = Text.Utf8.encode
      (front ++ c :: space.take (n - (Text.Utf8.encode (front ++ [c])).length)) := by
    rw [List.append_cons front c space, Text.Utf8.encode_append, List.take_append,
      List.take_of_length_le long,
      Text.Utf8.take_encode_of_ascii fun s member => toNat_of_isSpace (white s member),
      ← Text.Utf8.encode_append, ← List.append_cons]
  rw [left, load_of_decode? (Text.Utf8.decode?_encode _) (isBlankText_append_bracket bracket _ _),
    same _ fun s member => white s (List.mem_of_mem_take member)]

/-- A data file that is accepted and not blank has an outermost container. Cut off before the end
of that container it is refused, as no text where the cut falls inside a character and as unusable
elsewhere, unless what is left is blank. Cut off behind that end it has the same entries. -/
theorem load_take {octets : List UInt8} {entries : List Json}
    (accepted : load (some octets) = .ok entries) (written : isBlankFile octets = false) :
    ∃ count, Json.closing? octets = some count ∧ count ≤ octets.length ∧
      (∀ n, n < count → isBlankFile (octets.take n) = false →
        if cutsCharacter octets n then load (some (octets.take n)) = .error .notText
        else ∃ fault, load (some (octets.take n)) = .error (.unusable fault)) ∧
      ∀ n, count ≤ n → load (some (octets.take n)) = .ok entries := by
  obtain ⟨text, decoded, read⟩ := readEntries_of_load accepted written
  obtain rfl := Text.Utf8.encode_of_decode? decoded
  obtain ⟨front, c, space, rfl, bracket, passed, white, same⟩ := exists_of_readEntries read
  have ends := Nesting.closingFrom_encode passed bracket space
  have within : (Text.Utf8.encode (front ++ [c])).length ≤
      (Text.Utf8.encode (front ++ c :: space)).length := by
    rw [List.append_cons front c space]
    exact Text.Utf8.length_encode_le _ _
  refine ⟨_, ends, within, ?_, ?_⟩
  · intro n short blank
    exact load_take_of_lt ends short (Nat.lt_of_lt_of_le short within) blank
  · intro n long
    exact load_take_of_le bracket white same long

/-- A file with one entry, a letter of two octets, and the end of its line. -/
def oneEntryFile : List UInt8 := [0x5B, 0x5B, 0x22, 0xC3, 0xA9, 0x22, 0x5D, 0x5D, 0x0A]

theorem load_oneEntryFile : load (some oneEntryFile) = .ok [.str "é"] := by
  have decoded : Text.Utf8.decode? oneEntryFile =
      some ['[', '[', '"', 'é', '"', ']', ']', '\n'] := by decide
  have read : readEntries ['[', '[', '"', 'é', '"', ']', ']', '\n'] = .ok [.str "é"] := by
    rw [readEntries_eq_ok_iff]
    refine (FileReader.run_of_next?_some rfl rfl).trans ?_
    refine (FileReader.run_of_next?_some rfl rfl).trans ?_
    refine (FileReader.run_of_next?_some rfl rfl).trans ?_
    refine (FileReader.run_of_next?_some rfl rfl).trans ?_
    refine (FileReader.run_of_next?_some rfl rfl).trans ?_
    exact FileReader.run_of_next?_none rfl
  rw [load_of_decode? decoded rfl, read]

/-- Every cut of a file with one entry, a character of two octets among them. -/
theorem load_take_oneEntryFile :
    load (some oneEntryFile) = .ok [.str "é"] ∧ isBlankFile oneEntryFile = false ∧
    ∃ count, Json.closing? oneEntryFile = some count ∧ count ≤ oneEntryFile.length ∧
      (∀ n, n < count → isBlankFile (oneEntryFile.take n) = false →
        if cutsCharacter oneEntryFile n then load (some (oneEntryFile.take n)) = .error .notText
        else ∃ fault, load (some (oneEntryFile.take n)) = .error (.unusable fault)) ∧
      ∀ n, count ≤ n → load (some (oneEntryFile.take n)) = .ok [.str "é"] :=
  ⟨load_oneEntryFile, by decide, load_take load_oneEntryFile (by decide)⟩

end Tracker

end SwarmChart
