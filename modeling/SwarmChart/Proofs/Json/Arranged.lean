import Mathlib.Data.List.Nodup
import SwarmChart.Json

/-!
# Members in the order of their keys

An object that is read holds its members in the order of their keys, whatever their order in the
text. Taking members in one by one comes to sorting them, as long as no key is given twice
(`Json.insertAll_eq_inKeyOrder`). `Json.arranged` is a value with all its objects so arranged, and
does nothing to a value whose objects are in that order already (`Json.arranged_of_ascending`).
-/

set_option autoImplicit false

namespace SwarmChart.Json

/-! ## Values -/

/-- The value consists of null, truth values, whole numbers that fit in 64 bits, signed or unsigned,
texts, arrays and objects without a key given twice, and at most so many containers are nested in
it. -/
inductive Plain : Nat → Json → Prop where
  | null {room : Nat} : Plain room .null
  | bool {room : Nat} (value : Bool) : Plain room (.bool value)
  | int {room : Nat} {n : Int} (least : -9223372036854775808 ≤ n)
      (below : n < 18446744073709551616) : Plain room (.int n)
  | str {room : Nat} (text : String) : Plain room (.str text)
  | arr {room : Nat} {items : List Json} (each : ∀ item ∈ items, Plain room item) :
      Plain (room + 1) (.arr items)
  | obj {room : Nat} {members : List (String × Json)} (distinct : (members.map Prod.fst).Nodup)
      (each : ∀ member ∈ members, Plain room member.2) : Plain (room + 1) (.obj members)

/-- The first key comes before the second one. -/
def KeyBefore (first second : String × Json) : Prop := first.1 < second.1

/-- The members of every object of the value stand in the order of their keys, each key once. -/
inductive Ascending : Json → Prop where
  | null : Ascending .null
  | bool (value : Bool) : Ascending (.bool value)
  | int (n : Int) : Ascending (.int n)
  | float (x : Float) : Ascending (.float x)
  | str (text : String) : Ascending (.str text)
  | arr {items : List Json} (each : ∀ item ∈ items, Ascending item) : Ascending (.arr items)
  | obj {members : List (String × Json)} (ordered : members.Pairwise KeyBefore)
      (each : ∀ member ∈ members, Ascending member.2) : Ascending (.obj members)

/-- The first member may stand before the second one. -/
def keyNoLater (first second : String × Json) : Bool := first.1 ≤ second.1

/-- The members in the order of their keys. -/
def inKeyOrder (members : List (String × Json)) : List (String × Json) :=
  members.mergeSort keyNoLater

mutual

/-- The value with the members of all its objects in the order of their keys. -/
def arranged : Json → Json
  | .arr items => .arr (arrangedItems items)
  | .obj members => .obj (inKeyOrder (arrangedMembers members))
  | value => value

/-- The items, each of them arranged. -/
def arrangedItems : List Json → List Json
  | [] => []
  | item :: rest => item.arranged :: arrangedItems rest

/-- The members in the order in which they stand, the value of each of them arranged. -/
def arrangedMembers : List (String × Json) → List (String × Json)
  | [] => []
  | (key, value) :: rest => (key, value.arranged) :: arrangedMembers rest

end

/-- Takes in members one by one behind those that are held already. -/
def insertAll (held members : List (String × Json)) : List (String × Json) :=
  members.foldl (fun held member => insert member.1 member.2 held) held

variable {key : String} {value : Json} {held members : List (String × Json)}

theorem arrangedItems_eq_map (items : List Json) : arrangedItems items = items.map arranged := by
  induction items with
  | nil => rfl
  | cons item rest ih => rw [arrangedItems, ih, List.map_cons]

theorem map_fst_arrangedMembers (members : List (String × Json)) :
    (arrangedMembers members).map Prod.fst = members.map Prod.fst := by
  induction members with
  | nil => rfl
  | cons member rest ih => rw [arrangedMembers, List.map_cons, List.map_cons, ih]

/-! ## Sorted members -/

theorem keyNoLater_iff {first second : String × Json} :
    keyNoLater first second = true ↔ first.1 ≤ second.1 := by
  rw [keyNoLater, decide_eq_true_eq]

theorem keyNoLater_of_before {first second : String × Json} (h : KeyBefore first second) :
    keyNoLater first second = true := keyNoLater_iff.2 (Std.le_of_lt h)

theorem pairwise_inKeyOrder (members : List (String × Json)) :
    (inKeyOrder members).Pairwise fun first second => keyNoLater first second = true := by
  refine List.pairwise_mergeSort ?_ ?_ members
  · intro first second third h₁ h₂
    rw [keyNoLater_iff] at *
    exact Std.le_trans h₁ h₂
  · intro first second
    rw [Bool.or_eq_true, keyNoLater_iff, keyNoLater_iff]
    exact Std.le_total

theorem inKeyOrder_of_ordered (ordered : members.Pairwise KeyBefore) :
    inKeyOrder members = members :=
  List.mergeSort_of_pairwise (ordered.imp keyNoLater_of_before)

/-- Members in order with distinct keys are the only ones in order among their rearrangements. -/
theorem eq_inKeyOrder (ordered : held.Pairwise KeyBefore) (perm : held.Perm members) :
    held = inKeyOrder members := by
  refine List.Perm.eq_of_pairwise ?_ (ordered.imp keyNoLater_of_before)
    (pairwise_inKeyOrder members) (perm.trans (List.mergeSort_perm members keyNoLater).symm)
  intro first second inHeld inSorted h₁ h₂
  have inHeldToo : second ∈ held := by
    rw [perm.mem_iff, ← (List.mergeSort_perm members keyNoLater).mem_iff]
    exact inSorted
  have sameKey : first.1 = second.1 :=
    Std.le_antisymm (keyNoLater_iff.1 h₁) (keyNoLater_iff.1 h₂)
  have distinct : (held.map Prod.fst).Nodup :=
    List.pairwise_map.2 (ordered.imp fun before => Std.ne_of_lt before)
  exact List.inj_on_of_nodup_map distinct inHeld inHeldToo sameKey

/-! ## Taking in members -/

theorem insert_perm (absent : key ∉ held.map Prod.fst) :
    (insert key value held).Perm ((key, value) :: held) := by
  induction held with
  | nil => exact .refl _
  | cons first rest ih =>
    obtain ⟨other, there⟩ := first
    rw [List.map_cons, List.mem_cons, not_or] at absent
    rw [insert]
    split
    · exact .refl _
    · rw [if_neg absent.1]
      exact ((ih absent.2).cons _).trans (.swap ..)

theorem insert_ordered (ordered : held.Pairwise KeyBefore) (absent : key ∉ held.map Prod.fst) :
    (insert key value held).Pairwise KeyBefore := by
  induction held with
  | nil => exact List.pairwise_singleton KeyBefore (key, value)
  | cons first rest ih =>
    obtain ⟨other, there⟩ := first
    obtain ⟨least, orderedRest⟩ := List.pairwise_cons.1 ordered
    rw [List.map_cons, List.mem_cons, not_or] at absent
    rw [insert]
    split
    · next before =>
      refine List.pairwise_cons.2 ⟨?_, ordered⟩
      rw [List.forall_mem_cons]
      exact ⟨before, fun member among => Std.lt_trans before (least member among)⟩
    · next notBefore =>
      rw [if_neg absent.1]
      refine List.pairwise_cons.2 ⟨?_, ih orderedRest absent.2⟩
      intro member among
      rcases List.mem_cons.1 ((insert_perm absent.2).mem_iff.1 among) with rfl | among
      · exact Std.lt_of_le_of_ne (Std.not_lt.1 notBefore) (Ne.symm absent.1)
      · exact least member among

/-- Inserting members with different keys one by one sorts them by their keys. -/
theorem insertAll_spec (ordered : held.Pairwise KeyBefore)
    (distinct : ((held ++ members).map Prod.fst).Nodup) :
    (insertAll held members).Pairwise KeyBefore ∧
      (insertAll held members).Perm (held ++ members) := by
  -- A member that is taken in moves from what is to come to what is held.
  induction members generalizing held with
  | nil =>
    rw [List.append_nil]
    exact ⟨ordered, .refl _⟩
  | cons member rest ih =>
    have absent : member.1 ∉ held.map Prod.fst := by
      rw [List.map_append, List.map_cons] at distinct
      intro among
      exact (List.nodup_append.1 distinct).2.2 member.1 among member.1 List.mem_cons_self rfl
    have moved : (insert member.1 member.2 held ++ rest).Perm (held ++ member :: rest) :=
      ((insert_perm absent).append_right rest).trans List.perm_middle.symm
    have distinctToo := (moved.map Prod.fst).nodup_iff.2 distinct
    obtain ⟨sorted, perm⟩ := ih (insert_ordered ordered absent) distinctToo
    exact ⟨sorted, perm.trans moved⟩

/-- Members of distinct keys that are taken in one by one are held as if they were sorted. -/
theorem insertAll_eq_inKeyOrder (distinct : (members.map Prod.fst).Nodup) :
    insertAll [] members = inKeyOrder members := by
  obtain ⟨ordered, perm⟩ := insertAll_spec .nil distinct
  exact eq_inKeyOrder ordered perm

/-! ## Values that are in order -/

theorem arrangedMembers_of_forall (each : ∀ member ∈ members, member.2.arranged = member.2) :
    arrangedMembers members = members := by
  induction members with
  | nil => rfl
  | cons member rest ih =>
    obtain ⟨own, others⟩ := List.forall_mem_cons.1 each
    rw [arrangedMembers, own, ih others]

/-- A value that is in the order of its keys already is arranged as it is. -/
theorem arranged_of_ascending (ascending : value.Ascending) : value.arranged = value := by
  induction ascending with
  | null => rfl
  | bool => rfl
  | int => rfl
  | float => rfl
  | str => rfl
  | arr each ih => rw [arranged, arrangedItems_eq_map, List.map_congr_left ih, List.map_id']
  | obj ordered each ih =>
    rw [arranged, arrangedMembers_of_forall ih, inKeyOrder_of_ordered ordered]

end SwarmChart.Json
