import Mathlib.Data.List.Induction
import SwarmChart.Tracker.Record

/-!
# Records by their fields

A record is read by going through its fields and setting one after the other. What comes of it is
said here without that order: each part of the record is what the last value of its key holds, and
the record is refused for the first value that does not fit its field
(`ItemRecord.ofJson_eq`, `PeerRecord.ofJson?_eq`). A list that is too long is found to be so only
after all its fields.
-/

set_option autoImplicit false

namespace SwarmChart

/-- The count that a value holds. -/
def Json.count? : Json → Option Nat
  | .int n => some n.toNat
  | _ => none

/-- The items that a value holds. -/
def Json.items? : Json → Option (List Json)
  | .arr items => some items
  | _ => none

namespace Tracker

/-- The fields that a value gives as a record with those keys: the members of an object, or the
items of a list under the keys in their order. -/
def fieldsOf (keys : List String) : Json → List (String × Json)
  | .obj members => members
  | .arr items => keys.zip items
  | _ => []

/-- The value is a container with no more fields than a record with those keys has. -/
def isRecord (keys : List String) : Json → Bool
  | .obj _ => true
  | .arr items => items.length ≤ keys.length
  | _ => false

/-- The last value that the fields give for a key. -/
def last? (key : String) (fields : List (String × Json)) : Option Json :=
  fields.reverse.lookup key

/-- The result, unless there is a mismatch. -/
def checked {α : Type} (mismatch? : Option Json.Mismatch) (result : α) :
    Except Json.Mismatch α :=
  match mismatch? with
  | some mismatch => .error mismatch
  | none => .ok result

/-- What the value of a field can be. -/
inductive FieldKind where
  /-- A text, or null for none. -/
  | label
  /-- A whole number that fits in 32 unsigned bits. -/
  | count
  | list
  | anything
  deriving DecidableEq, Repr

namespace FieldKind

/-- The value can stand in such a field. -/
def Accepts (kind : FieldKind) (value : Json) : Prop :=
  match kind with
  | label => value = .null ∨ ∃ text, value = .str text
  | count => ∃ n : Int, 0 ≤ n ∧ n < Json.countLimit ∧ value = .int n
  | list => ∃ items, value = .arr items
  | anything => True

/-- What is said of a value that cannot stand in such a field. -/
def misfit? (kind : FieldKind) (value : Json) : Option Json.Mismatch :=
  match kind with
  | label =>
    match value with
    | .null => none
    | .str _ => none
    | value => some (.wrongKind value .text)
  | count =>
    match value with
    | .int n => if 0 ≤ n ∧ n < Json.countLimit then none else some (.outOfRange n .count)
    | value => some (.wrongKind value .count)
  | list =>
    match value with
    | .arr _ => none
    | value => some (.wrongKind value .list)
  | anything => none

theorem misfit?_eq_none_iff (kind : FieldKind) (value : Json) :
    kind.misfit? value = none ↔ kind.Accepts value := by
  cases kind with
  | label => cases value <;> simp [misfit?, Accepts]
  | count => cases value <;> simp [misfit?, Accepts]
  | list => cases value <;> simp [misfit?, Accepts]
  | anything => simp [misfit?, Accepts]

end FieldKind

/-! ## Checked results -/

theorem checked_map {α β : Type} (mismatch? : Option Json.Mismatch) (result : α) (change : α → β) :
    (checked mismatch? result).map change = checked mismatch? (change result) := by
  cases mismatch? <;> rfl

/-- Of two misfits the first is reported. -/
theorem checked_bind {α β : Type} {mismatch? later? : Option Json.Mismatch} {result : α}
    {changed : β} {next : α → Except Json.Mismatch β}
    (h : next result = checked later? changed) :
    checked mismatch? result >>= next = checked (mismatch?.or later?) changed := by
  cases mismatch? with
  | none => exact h
  | some mismatch => rfl

theorem orNull_asText (value : Json) :
    Json.orNull Json.asText value = checked (FieldKind.label.misfit? value) value.text? := by
  cases value <;> rfl

theorem asCount_eq (value : Json) :
    Json.asCount value = checked (FieldKind.count.misfit? value) (value.count?.getD 0) := by
  cases value with
  | int n =>
    simp only [Json.asCount, FieldKind.misfit?]
    split <;> rfl
  | _ => rfl

theorem asList_eq (value : Json) :
    Json.asList value = checked (FieldKind.list.misfit? value) (value.items?.getD []) := by
  cases value <;> rfl

/-! ## The last value of a key -/

theorem last?_concat (other key : String) (value : Json) (fields : List (String × Json)) :
    last? other (fields ++ [(key, value)]) =
      if other = key then some value else last? other fields := by
  rw [last?, List.reverse_concat, List.lookup_cons, last?]
  by_cases same : other = key
  · rw [if_pos same, beq_iff_eq.2 same]
  · rw [if_neg same, beq_false_of_ne same]

/-! ## Records of items -/

namespace ItemRecord

/-- What the value of a key must be. -/
def kindOf (key : String) : FieldKind :=
  if key = "name" ∨ key = "info_hash" then .label
  else if key = "seeders" ∨ key = "leechers" then .count
  else if key = "peers" then .list
  else .anything

/-- The record whose parts are the last values of their keys. -/
def ofFields (fields : List (String × Json)) : ItemRecord where
  name := (last? "name" fields).bind Json.text?
  infoHash := (last? "info_hash" fields).bind Json.text?
  timestamp := (last? "timestamp" fields).bind Json.nonNull
  seeders := ((last? "seeders" fields).bind Json.count?).getD 0
  leechers := ((last? "leechers" fields).bind Json.count?).getD 0
  peers := ((last? "peers" fields).bind Json.items?).getD []

/-- What is said of the first field whose value does not fit. -/
def firstMisfit? (fields : List (String × Json)) : Option Json.Mismatch :=
  fields.findSome? fun field => (kindOf field.1).misfit? field.2

/-- What is said of a value that is no record of an item. -/
def mismatch? (value : Json) : Option Json.Mismatch :=
  match value with
  | .obj members => firstMisfit? members
  | .arr items =>
    (firstMisfit? (keys.zip items)).or
      (if items.length ≤ keys.length then none else some (.tooLong items.length))
  | value => some (.wrongKind value .itemRecord)

/-- One more field changes the part of its key, if its value fits. -/
theorem set_ofFields (fields : List (String × Json)) (key : String) (value : Json) :
    (ofFields fields).set key value =
      checked ((kindOf key).misfit? value) (ofFields (fields ++ [(key, value)])) := by
  unfold set
  split
  · next isName =>
    subst isName
    rw [orNull_asText, checked_map]
    simp [kindOf, ofFields, last?_concat]
  split
  · next isHash =>
    subst isHash
    rw [orNull_asText, checked_map]
    simp [kindOf, ofFields, last?_concat]
  split
  · next isTimestamp =>
    subst isTimestamp
    simp [kindOf, FieldKind.misfit?, checked, ofFields, last?_concat]
  split
  · next isSeeders =>
    subst isSeeders
    rw [asCount_eq, checked_map]
    simp [kindOf, ofFields, last?_concat]
  split
  · next isLeechers =>
    subst isLeechers
    rw [asCount_eq, checked_map]
    simp [kindOf, ofFields, last?_concat]
  split
  · next isPeers =>
    subst isPeers
    rw [asList_eq, checked_map]
    simp [kindOf, ofFields, last?_concat]
  -- Any other key.
  · next notName notHash notTimestamp notSeeders notLeechers notPeers =>
    simp [kindOf, FieldKind.misfit?, checked, ofFields, last?_concat, notName, notHash,
      notSeeders, notLeechers, notPeers, Ne.symm notName, Ne.symm notHash, Ne.symm notTimestamp,
      Ne.symm notSeeders, Ne.symm notLeechers, Ne.symm notPeers]

/-- A member behind the others is reported only if none before it is at fault. -/
theorem firstMisfit?_concat (fields : List (String × Json)) (key : String) (value : Json) :
    firstMisfit? (fields ++ [(key, value)]) =
      (firstMisfit? fields).or ((kindOf key).misfit? value) := by
  rw [firstMisfit?, List.findSome?_append, List.findSome?_singleton]
  rfl

/-- All fields are set unless one of them does not fit. -/
theorem setAll_blank (fields : List (String × Json)) :
    blank.setAll fields = checked (firstMisfit? fields) (ofFields fields) := by
  -- The record so far is that of the fields so far, so the list grows at its end.
  induction fields using List.reverseRecOn with
  | nil => rfl
  | append_singleton fields field ih =>
    obtain ⟨key, value⟩ := field
    rw [setAll] at ih
    rw [setAll, List.foldlM_append, ih, firstMisfit?_concat]
    apply checked_bind
    have step := set_ofFields fields key value
    simp only [List.foldlM_cons, List.foldlM_nil, step]
    cases (kindOf key).misfit? value <;> rfl

/-- The record that a value gives. -/
def given (value : Json) : ItemRecord := ofFields (fieldsOf keys value)

/-- A value is read as the record it gives, unless something is said of it. -/
theorem ofJson_eq (value : Json) : ofJson value = checked (mismatch? value) (given value) := by
  cases value with
  | obj members => exact setAll_blank members
  | arr items =>
    rw [ofJson, setAll_blank, mismatch?]
    apply checked_bind
    split <;> rfl
  | _ => rfl

/-- There is no misfit exactly if every member is of a kind that its field accepts. -/
theorem firstMisfit?_eq_none_iff (fields : List (String × Json)) :
    firstMisfit? fields = none ↔ ∀ field ∈ fields, (kindOf field.1).Accepts field.2 := by
  rw [firstMisfit?, List.findSome?_eq_none_iff]
  simp only [FieldKind.misfit?_eq_none_iff]

/-- Nothing is said of a value that is a record and whose fields all fit. -/
theorem mismatch?_eq_none_iff (value : Json) :
    mismatch? value = none ↔
      isRecord keys value = true ∧
        ∀ field ∈ fieldsOf keys value, (kindOf field.1).Accepts field.2 := by
  cases value with
  | obj members => simp [mismatch?, isRecord, fieldsOf, firstMisfit?_eq_none_iff]
  -- The length is looked at after the fields, but the order does not matter here.
  | arr items =>
    rw [mismatch?, Option.or_eq_none_iff, firstMisfit?_eq_none_iff, and_comm]
    simp [isRecord, fieldsOf]
  | _ => simp [mismatch?, isRecord]

end ItemRecord

/-! ## Records of peers -/

namespace PeerRecord

/-- The record whose parts are the last values of their keys. -/
def ofFields (fields : List (String × Json)) : PeerRecord where
  connection := (last? "dt_connection" fields).bind Json.nonNull
  disconnection := (last? "dt_disconnection" fields).bind Json.nonNull
  completion := (last? "dt_completion" fields).bind Json.nonNull

theorem set_ofFields (fields : List (String × Json)) (key : String) (value : Json) :
    (ofFields fields).set key value = ofFields (fields ++ [(key, value)]) := by
  unfold set
  split
  · next isConnection =>
    subst isConnection
    simp [ofFields, last?_concat]
  split
  · next isDisconnection =>
    subst isDisconnection
    simp [ofFields, last?_concat]
  split
  · next isCompletion =>
    subst isCompletion
    simp [ofFields, last?_concat]
  · next notConnection notDisconnection notCompletion =>
    simp [ofFields, last?_concat, Ne.symm notConnection, Ne.symm notDisconnection,
      Ne.symm notCompletion]

/-- Setting all fields of a blank record gives each the last value of its key. -/
theorem setAll_blank (fields : List (String × Json)) : blank.setAll fields = ofFields fields := by
  induction fields using List.reverseRecOn with
  | nil => rfl
  | append_singleton fields field ih =>
    rw [setAll] at ih
    rw [setAll, List.foldl_append, ih]
    exact set_ofFields fields field.1 field.2

/-- The record that a value gives. -/
def given (value : Json) : PeerRecord := ofFields (fieldsOf keys value)

/-- A container with no more than four fields is read as the record it gives. -/
theorem ofJson?_eq (value : Json) :
    ofJson? value = if isRecord keys value then some (given value) else none := by
  cases value with
  | obj members => exact congrArg some (setAll_blank members)
  | arr items =>
    rw [ofJson?, setAll_blank]
    simp only [isRecord, decide_eq_true_eq]
    rfl
  | _ => rfl

end PeerRecord

end Tracker

end SwarmChart
