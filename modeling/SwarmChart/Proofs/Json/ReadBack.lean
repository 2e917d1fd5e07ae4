import SwarmChart.Json.Reader
import SwarmChart.Proofs.Json.Parts

/-!
# Reading back what was written

Wherever the reader expects a value, the tokens of a written one hand that value to the innermost
open container, with all its objects in the order of their keys (`Reading.readBack_of_plain`).
Nothing is asked of the value but whole numbers of 64 bits, objects without a key given twice, and
room for its containers.
-/

set_option autoImplicit false

namespace SwarmChart.Json.Reading

open Token (ofParts ofParts_cons ofParts_append isCut_mark isCut_writeString)

variable {outer room : Nat} {containers around : List Frame} {position : Position}
  {token : Token} {value : Json}

/-- Takes tokens one by one. -/
def run (reading : Reading) (tokens : List Token) : Except Fault Reading :=
  tokens.foldlM step reading

theorem run_cons {reading next : Reading} (taken : reading.step token = .ok next)
    (tokens : List Token) : reading.run (token :: tokens) = next.run tokens :=
  Token.foldlM_cons_of_ok taken tokens

theorem run_append {reading next : Reading} {front : List Token}
    (taken : reading.run front = .ok next) (back : List Token) :
    reading.run (front ++ back) = next.run back := by
  rw [run, List.foldlM_append, ← run, taken]
  rfl

/-! ## Scalars -/

/-- A value may begin at the position. -/
def ExpectsValue (position : Position) : Prop := position = .value ∨ position = .valueOrClose

/-- The value is read back from its tokens wherever it is kept and there is room for so many
containers more. -/
def ReadBack (room : Nat) (value : Json) : Prop :=
  ∀ outer containers position, ExpectsValue position →
    outer + containers.length + room ≤ depthLimit →
    run ⟨.kept, outer, containers, position⟩ (ofParts value.parts) =
      .ok (deliver ⟨.kept, outer, containers, position⟩ value.arranged)

/-- Where a value may begin, every token but a closing bracket begins one. -/
theorem step_of_expectsValue (expects : ExpectsValue position) (opens : token ≠ .closeArray) :
    step ⟨.kept, outer, containers, position⟩ token =
      beginValue ⟨.kept, outer, containers, position⟩ token := by
  rcases expects with rfl | rfl
  · rfl
  · cases token <;> first | rfl | contradiction

/-- A value of a single token that begins it and ends it. -/
theorem readBack_of_isCut {part : List Char} (cut : Token.IsCut part token)
    (single : value.parts = [part]) (opens : token ≠ .closeArray)
    (taken : ∀ reading : Reading, reading.care = .kept →
      reading.beginValue token = .ok (reading.deliver value.arranged)) : ReadBack room value := by
  intro outer containers position expects _
  rw [single, ofParts_cons cut, run_cons ((step_of_expectsValue expects opens).trans (taken _ rfl))]
  rfl

theorem readBack_int {n : Int} (least : -9223372036854775808 ≤ n)
    (below : n < 18446744073709551616) : ReadBack room (.int n) := by
  apply readBack_of_isCut (Token.isCut_writeInt n) rfl nofun
  intro reading kept
  rw [beginValue, kept, number, Numeral.value_ofInt least below]
  rfl

theorem readBack_str (text : String) : ReadBack room (.str text) := by
  apply readBack_of_isCut (isCut_writeString text) rfl nofun
  intro reading kept
  rw [beginValue, kept, Reading.text, StringText.assemble_map_pieceOf]
  rfl

/-! ## Arrays -/

/-- There is one container more to open. -/
theorem push_eq_ok (frame : Frame) (next : Position)
    (fits : outer + containers.length + (room + 1) ≤ depthLimit) :
    push ⟨.kept, outer, containers, position⟩ frame next =
      .ok ⟨.kept, outer, frame :: containers, next⟩ := by
  have below : ¬depthLimit ≤ outer + containers.length := by omega
  exact if_neg fun full => below full.2

/-- To whom a value is handed does not depend on what was expected. -/
theorem deliver_eq (position other : Position) (value : Json) :
    deliver ⟨.kept, outer, containers, position⟩ value =
      deliver ⟨.kept, outer, containers, other⟩ value := by
  unfold deliver
  cases containers with
  | nil => rfl
  | cons frame around => cases frame <;> rfl

/-- Items are put in front of those that are held. -/
theorem run_items {items held : List Json} (each : ∀ item ∈ items, ReadBack room item)
    (nonempty : items ≠ []) (expects : ExpectsValue position)
    (fits : outer + around.length + (room + 1) ≤ depthLimit) :
    run ⟨.kept, outer, .array held :: around, position⟩ (ofParts (partsOfItems items)) =
      .ok ⟨.kept, outer, .array ((items.map arranged).reverse ++ held) :: around,
        .commaOrClose⟩ := by
  have fitsInside (held : List Json) :
      outer + (Frame.array held :: around).length + room ≤ depthLimit := by
    rw [List.length_cons]
    omega
  induction items generalizing held position with
  | nil => contradiction
  | cons item rest ih =>
    obtain ⟨own, others⟩ := List.forall_mem_cons.1 each
    have first := own outer _ position expects (fitsInside held)
    cases rest with
    | nil => exact first
    | cons next rest =>
      -- The comma behind the first item asks for another one.
      have comma : step (deliver ⟨.kept, outer, .array held :: around, position⟩ item.arranged)
          .comma = .ok ⟨.kept, outer, .array (item.arranged :: held) :: around, .value⟩ := rfl
      have later := @ih .value (item.arranged :: held) others (List.cons_ne_nil next rest)
        (Or.inl rfl)
      have parts : partsOfItems (item :: next :: rest) =
          item.parts ++ [','] :: partsOfItems (next :: rest) := rfl
      have turned : ((item :: next :: rest).map arranged).reverse ++ held =
          ((next :: rest).map arranged).reverse ++ item.arranged :: held := by
        rw [List.map_cons, List.reverse_cons, List.append_assoc, List.singleton_append]
      rw [parts, ofParts_append, run_append first, ofParts_cons (isCut_mark rfl), run_cons comma,
        later, turned]

/-- A closing bracket hands over the items that were found. -/
theorem run_closeArray {items : List Json}
    (ends : position = .valueOrClose ∨ position = .commaOrClose) :
    run ⟨.kept, outer, .array items :: containers, position⟩ (ofParts [[']']]) =
      .ok (deliver ⟨.kept, outer, containers, position⟩ (.arr items.reverse)) := by
  have closed : step ⟨.kept, outer, .array items :: containers, position⟩ .closeArray =
      .ok (deliver ⟨.kept, outer, containers, position⟩ (.arr items.reverse)) := by
    rcases ends with rfl | rfl <;> rfl
  rw [ofParts_cons (isCut_mark rfl), run_cons closed]
  rfl

/-- An array is read back if its items are, with room for one container more. -/
theorem readBack_arr {items : List Json} (each : ∀ item ∈ items, ReadBack room item) :
    ReadBack (room + 1) (.arr items) := by
  intro outer containers position expects fits
  have opened : step ⟨.kept, outer, containers, position⟩ .openArray =
      .ok ⟨.kept, outer, .array [] :: containers, .valueOrClose⟩ :=
    (step_of_expectsValue expects (nofun : Token.openArray ≠ .closeArray)).trans
      (push_eq_ok _ _ fits)
  rw [parts, ofParts_cons (isCut_mark rfl), run_cons opened, ofParts_append, arranged,
    arrangedItems_eq_map]
  by_cases empty : items = []
  · rw [empty, deliver_eq position .valueOrClose]
    exact run_closeArray (Or.inl rfl)
  · rw [run_append (run_items each empty (Or.inr rfl) fits), deliver_eq position .commaOrClose,
      run_closeArray (Or.inr rfl), List.append_nil, List.reverse_reverse]

/-! ## Objects -/

/-- A key may begin at the position. -/
def ExpectsKey (position : Position) : Prop := position = .key ∨ position = .keyOrClose

theorem step_key {key last : String} {held : List (String × Json)} (expects : ExpectsKey position) :
    step ⟨.kept, outer, .object held last :: around, position⟩
        (.string ⟨key.toList.map StringText.pieceOf, none⟩) =
      .ok ⟨.kept, outer, .object held key :: around, .colon⟩ := by
  have taken : beginMember ⟨.kept, outer, .object held last :: around, position⟩
      (.string ⟨key.toList.map StringText.pieceOf, none⟩) =
        .ok ⟨.kept, outer, .object held key :: around, .colon⟩ := by
    show (Reading.text .kept ⟨key.toList.map StringText.pieceOf, none⟩).map
      (fun key => Reading.mk .kept outer (.object held key :: around) .colon) = _
    rw [Reading.text, StringText.assemble_map_pieceOf]
    rfl
  rcases expects with rfl | rfl
  · exact taken
  · exact taken

/-- A member is put among those that are held. -/
theorem run_member (key last : String) (held : List (String × Json))
    (readBack : ReadBack room value) (expects : ExpectsKey position)
    (fits : outer + around.length + (room + 1) ≤ depthLimit) :
    run ⟨.kept, outer, .object held last :: around, position⟩
        (ofParts (writeString key :: [':'] :: value.parts)) =
      .ok ⟨.kept, outer, .object (insert key value.arranged held) key :: around,
        .commaOrClose⟩ := by
  have colon : step ⟨.kept, outer, .object held key :: around, .colon⟩ .colon =
      .ok ⟨.kept, outer, .object held key :: around, .value⟩ := rfl
  have fitsInside : outer + (Frame.object held key :: around).length + room ≤ depthLimit := by
    rw [List.length_cons]
    omega
  rw [ofParts_cons (isCut_writeString key), run_cons (step_key expects),
    ofParts_cons (isCut_mark rfl), run_cons colon, readBack outer _ _ (Or.inl rfl) fitsInside]
  rfl

/-- Members are put one by one among those that are held. -/
theorem exists_run_members {members held : List (String × Json)} {last : String}
    (each : ∀ member ∈ members, ReadBack room member.2) (nonempty : members ≠ [])
    (expects : ExpectsKey position) (fits : outer + around.length + (room + 1) ≤ depthLimit) :
    ∃ key, run ⟨.kept, outer, .object held last :: around, position⟩
        (ofParts (partsOfMembers members)) =
      .ok ⟨.kept, outer, .object (insertAll held (arrangedMembers members)) key :: around,
        .commaOrClose⟩ := by
  -- Each member is put among those held and leaves its key behind, so both are generalized.
  induction members generalizing held position last with
  | nil => contradiction
  | cons member rest ih =>
    obtain ⟨key, value⟩ := member
    obtain ⟨own, others⟩ := List.forall_mem_cons.1 each
    have first := run_member key last held own expects fits
    cases rest with
    | nil => exact ⟨key, first⟩
    | cons next rest =>
      have comma : step ⟨.kept, outer, .object (insert key value.arranged held) key :: around,
          .commaOrClose⟩ .comma =
            .ok ⟨.kept, outer, .object (insert key value.arranged held) key :: around, .key⟩ := rfl
      obtain ⟨final, later⟩ := @ih .key (insert key value.arranged held) key others
        (List.cons_ne_nil next rest) (Or.inl rfl)
      have parts : partsOfMembers ((key, value) :: next :: rest) =
          (writeString key :: [':'] :: value.parts) ++ [','] :: partsOfMembers (next :: rest) := rfl
      refine ⟨final, ?_⟩
      rw [parts, ofParts_append, run_append first, ofParts_cons (isCut_mark rfl), run_cons comma,
        later]
      rfl

/-- A closing brace hands over the members that were found. -/
theorem run_closeObject {members : List (String × Json)} {last : String}
    (ends : position = .keyOrClose ∨ position = .commaOrClose) :
    run ⟨.kept, outer, .object members last :: containers, position⟩ (ofParts [['\x7d']]) =
      .ok (deliver ⟨.kept, outer, containers, position⟩ (.obj members)) := by
  have closed : step ⟨.kept, outer, .object members last :: containers, position⟩ .closeObject =
      .ok (deliver ⟨.kept, outer, containers, position⟩ (.obj members)) := by
    rcases ends with rfl | rfl <;> rfl
  rw [ofParts_cons (isCut_mark rfl), run_cons closed]
  rfl

/-- An object is read back, in the order of its keys, if its values are. -/
theorem readBack_obj {members : List (String × Json)} (distinct : (members.map Prod.fst).Nodup)
    (each : ∀ member ∈ members, ReadBack room member.2) : ReadBack (room + 1) (.obj members) := by
  intro outer containers position expects fits
  have opened : step ⟨.kept, outer, containers, position⟩ .openObject =
      .ok ⟨.kept, outer, .object [] "" :: containers, .keyOrClose⟩ :=
    (step_of_expectsValue expects (nofun : Token.openObject ≠ .closeArray)).trans
      (push_eq_ok _ _ fits)
  have sorted : insertAll [] (arrangedMembers members) = inKeyOrder (arrangedMembers members) := by
    apply insertAll_eq_inKeyOrder
    rw [map_fst_arrangedMembers]
    exact distinct
  rw [parts, ofParts_cons (isCut_mark rfl), run_cons opened, ofParts_append, arranged, ← sorted]
  by_cases empty : members = []
  · rw [empty, deliver_eq position .keyOrClose]
    exact run_closeObject (Or.inl rfl)
  · obtain ⟨last, inside⟩ := exists_run_members each empty (Or.inr rfl) fits
    rw [run_append inside, deliver_eq position .commaOrClose]
    exact run_closeObject (Or.inr rfl)

/-! ## All values -/

/-- Every plain value is read back, by recursion on how it is built. -/
theorem readBack_of_plain (plain : Plain room value) : ReadBack room value := by
  induction plain with
  | null => exact readBack_of_isCut Token.isCut_null rfl nofun fun _ _ => rfl
  | bool value => exact readBack_of_isCut (Token.isCut_bool value) rfl nofun fun _ _ => rfl
  | int least below => exact readBack_int least below
  | str text => exact readBack_str text
  | arr each ih => exact readBack_arr ih
  | obj distinct each ih => exact readBack_obj distinct ih

end SwarmChart.Json.Reading
