import SwarmChart.Proofs.Json.ReadBack
import SwarmChart.Proofs.Tracker.TornFile

/-!
# Data files that were written

A data file with any entries at all under the key `torrents` is accepted, and its entries are the
ones that were written (`load_document`), whatever white space stands between the parts of the text.
Objects have their members in the order of their keys then, in whatever order they were written. An
entry may nest 125 containers, since the object around the entries and their list stand around it.
-/

set_option autoImplicit false

namespace SwarmChart.Tracker

open Json (Fault Reading Spaced Token)
open Json.Token (ofParts ofParts_cons ofParts_append isCut_mark isCut_writeString)

/-- The value of a data file with the entries. -/
def document (entries : List Json) : Json := .obj [("torrents", .arr entries)]

namespace FileReader

/-! ## From a value to the file -/

variable {reading next : Reading} {token : Token} {tokens : List Token} {value : Json}
  {inside : Reading → FileReader} {behind : Json → FileReader}

theorem goOn_of_done (taken : reading.step token = .ok next)
    (complete : next.position = .done value) :
    goOn reading token inside behind = .ok (behind value) := by
  rw [goOn, taken]
  dsimp only [bind, Except.bind]
  rw [complete]

theorem goOn_of_not_done (taken : reading.step token = .ok next)
    (incomplete : ∀ value, next.position ≠ .done value) :
    goOn reading token inside behind = .ok (inside next) := by
  rw [goOn, taken]
  dsimp only [bind, Except.bind]
  split
  · next value complete => exact absurd complete (incomplete value)
  · rfl

/-- Nothing is taken behind a complete value. -/
theorem eq_nil_of_run_done (complete : reading.position = .done value)
    (h : reading.run tokens = .ok next) : tokens = [] := by
  cases tokens with
  | nil => rfl
  | cons token rest =>
    obtain ⟨middle, taken, -⟩ := Token.exists_of_foldlM_cons h
    unfold Reading.step at taken
    rw [complete] at taken
    cases taken

/-- What the reader of a value takes up to its end, the reader of the file takes inside the entries,
and then it stands behind them. -/
theorem foldlM_insideEntries (h : reading.run tokens = .ok next)
    (complete : next.position = .done value) (nonempty : tokens ≠ []) :
    tokens.foldlM step (insideEntries reading) = .ok (behindMember (some (entriesOf value))) := by
  induction tokens generalizing reading with
  | nil => contradiction
  | cons token rest ih =>
    obtain ⟨middle, taken, later⟩ := Token.exists_of_foldlM_cons h
    by_cases last : rest = []
    · subst last
      cases later
      have ends : step (insideEntries reading) token =
          .ok (behindMember (some (entriesOf value))) := goOn_of_done taken complete
      exact Token.foldlM_cons_of_ok ends []
    · -- The value cannot be complete where a token of it is still to come.
      have incomplete : ∀ value, middle.position ≠ .done value :=
        fun value done => last (eq_nil_of_run_done done later)
      have goes : step (insideEntries reading) token = .ok (insideEntries middle) :=
        goOn_of_not_done taken incomplete
      rw [Token.foldlM_cons_of_ok goes rest]
      exact ih later last

end FileReader

/-! ## The file -/

variable {entries : List Json} {text : List Char}

theorem plain_entries (plain : ∀ entry ∈ entries, entry.Plain 125) :
    (Json.arr entries).Plain 126 := .arr plain

theorem plain_document (plain : ∀ entry ∈ entries, entry.Plain 125) :
    (document entries).Plain 127 :=
  .obj (List.nodup_singleton "torrents") (List.forall_mem_singleton.2 (plain_entries plain))

/-- The reader of the file takes all tokens of the list of entries. -/
theorem foldlM_entries (plain : ∀ entry ∈ entries, entry.Plain 125) :
    (ofParts (Json.arr entries).parts).foldlM FileReader.step .entriesOfObject =
      .ok (.behindMember (some (entries.map Json.arranged))) := by
  -- One container stands around the list, so all the room that is left is used up by its entries.
  have readBack := Reading.readBack_of_plain (plain_entries plain) 1 [] .value (Or.inl rfl)
    (Nat.le_refl 127)
  rw [Json.arranged, Json.arrangedItems_eq_map] at readBack
  have opened : Reading.step (Reading.start .kept 1) .openArray =
      .ok ⟨.kept, 1, [.array []], .valueOrClose⟩ := rfl
  rw [Json.parts, ofParts_cons (isCut_mark rfl)] at readBack ⊢
  have inside := (Reading.run_cons opened _).symm.trans readBack
  refine (Token.foldlM_cons_of_ok rfl _).trans (FileReader.foldlM_insideEntries inside rfl ?_)
  rw [ofParts_append, ofParts_cons (isCut_mark rfl)]
  exact List.append_ne_nil_of_right_ne_nil _ (List.cons_ne_nil _ _)

/-- The tokens of a data file lead the reader from its start to its end. -/
theorem foldlM_document (plain : ∀ entry ∈ entries, entry.Plain 125) :
    (ofParts (document entries).parts).foldlM FileReader.step .start =
      .ok (.done (entries.map Json.arranged)) := by
  have parts : (document entries).parts = ['\x7b'] :: Json.writeString "torrents" :: [':'] ::
      ((Json.arr entries).parts ++ [['\x7d']]) := rfl
  have key : FileReader.step (.key true none)
      (.string ⟨"torrents".toList.map Json.StringText.pieceOf, none⟩) = .ok .colonOfEntries := by
    simp only [FileReader.step, FileReader.takeKey, Reading.text,
      Json.StringText.assemble_map_pieceOf]
    rfl
  rw [parts, ofParts_cons (isCut_mark rfl), ofParts_cons (isCut_writeString "torrents"),
    ofParts_cons (isCut_mark rfl), Token.foldlM_cons_of_ok rfl, Token.foldlM_cons_of_ok key,
    Token.foldlM_cons_of_ok rfl, ofParts_append, List.foldlM_append, foldlM_entries plain,
    ofParts_cons (isCut_mark rfl)]
  rfl

/-- The entries are read whatever white space stands between the parts. -/
theorem readEntries_of_spaced (plain : ∀ entry ∈ entries, entry.Plain 125)
    (spaced : Spaced (document entries).parts text) :
    readEntries text = .ok (entries.map Json.arranged) := by
  rw [readEntries_eq_ok_iff, FileReader.run, Token.list_of_spaced (plain_document plain) spaced]
  exact foldlM_document plain

/-- A text with entries is a data file that is accepted. -/
theorem load_of_readEntries (read : readEntries text = .ok entries) :
    load (some (Text.Utf8.encode text)) = .ok entries := by
  obtain ⟨front, c, space, rfl, bracket, -, -, -⟩ := exists_of_readEntries read
  rw [load_of_decode? (Text.Utf8.decode?_encode _) (isBlankText_append_bracket bracket _ _), read]

/-- A file with any entries is accepted. Its entries are those that were written, each object's
members in the order of their keys, so they are the very same where the members stood in that order
already. White space between the parts of the text changes nothing. -/
theorem load_document (plain : ∀ entry ∈ entries, entry.Plain 125) :
    load (some (Text.Utf8.encode (Json.writeChars (document entries)))) =
        .ok (entries.map Json.arranged) ∧
      (∀ text, Spaced (document entries).parts text →
        load (some (Text.Utf8.encode text)) =
          load (some (Text.Utf8.encode (Json.writeChars (document entries))))) ∧
      ((∀ entry ∈ entries, entry.Ascending) →
        load (some (Text.Utf8.encode (Json.writeChars (document entries)))) = .ok entries) := by
  have read : ∀ text, Spaced (document entries).parts text →
      load (some (Text.Utf8.encode text)) = .ok (entries.map Json.arranged) :=
    fun text spaced => load_of_readEntries (readEntries_of_spaced plain spaced)
  have written := read _ (Json.spaced_writeChars (document entries))
  refine ⟨written, ?_, ?_⟩
  · intro text spaced
    rw [read text spaced, written]
  · intro ascending
    have same : ∀ entry ∈ entries, entry.arranged = entry :=
      fun entry among => Json.arranged_of_ascending (ascending entry among)
    rw [written, List.map_congr_left same, List.map_id']

/-- The greatest whole number and an object, with a line feed before the first part. -/
theorem load_document_of_two :
    load (some (Text.Utf8.encode ('\n' :: Json.writeChars
      (document [.int 18446744073709551615, .obj [("a", .str "é"), ("b", .arr [])]])))) =
        .ok [.int 18446744073709551615, .obj [("a", .str "é"), ("b", .arr [])]] := by
  have plain : ∀ entry ∈ [Json.int 18446744073709551615,
      .obj [("a", .str "é"), ("b", .arr [])]], entry.Plain 125 := by
    simp only [List.forall_mem_cons]
    refine ⟨.int (by decide) (by decide), .obj (by decide) ?_, nofun⟩
    simp only [List.forall_mem_cons]
    exact ⟨.str "é", .arr nofun, nofun⟩
  have ascending : ∀ entry ∈ [Json.int 18446744073709551615,
      .obj [("a", .str "é"), ("b", .arr [])]], entry.Ascending := by
    simp only [List.forall_mem_cons]
    refine ⟨.int _, .obj ?_ ?_, nofun⟩
    · simp only [List.pairwise_cons, List.forall_mem_cons]
      exact ⟨⟨(by decide : "a" < "b"), nofun⟩, nofun, .nil⟩
    · simp only [List.forall_mem_cons]
      exact ⟨.str "é", .arr nofun, nofun⟩
  have spaced : Spaced
      (document [.int 18446744073709551615, .obj [("a", .str "é"), ("b", .arr [])]]).parts
      ('\n' :: Json.writeChars
        (document [.int 18446744073709551615, .obj [("a", .str "é"), ("b", .arr [])]])) := by
    rw [← Json.flatten_parts]
    exact @Spaced.goes ['\n'] ['\x7b'] _ _ (List.forall_mem_singleton.2 rfl)
      (Json.spaced_flatten _)
  obtain ⟨-, spread, unchanged⟩ := load_document plain
  rw [spread _ spaced, unchanged ascending]

end SwarmChart.Tracker
