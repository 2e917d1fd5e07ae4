/-!
# Refusals

What could not be taken over from the data file, and why. A peer that never connected is left out
on its own; every other refusal leaves out a whole item (`Refusal.rejectsItem`).
-/

set_option autoImplicit false

namespace SwarmChart.Tracker

/-- A part of an item that can give cause for a refusal. -/
inductive Field where
  /-- The record as a whole. -/
  | record
  | name
  | timestamp
  | peers
  | connection
  | disconnection
  | completion
  deriving DecidableEq, Repr

/-- The key of a field in the data file. -/
def Field.key : Field → String
  | record => "record"
  | name => "name"
  | timestamp => "timestamp"
  | peers => "peers"
  | connection => "dt_connection"
  | disconnection => "dt_disconnection"
  | completion => "dt_completion"

/-- A refusal, with what the item is called. -/
inductive Refusal where
  /-- A peer has no such field. -/
  | peerWithout (item : String) (field : Field)
  /-- The item has no such field. -/
  | itemWithout (item : String) (field : Field)
  /-- A field of the item or of one of its peers holds what cannot be read. -/
  | unreadable (item : String) (field : Field) (value : String)
  deriving DecidableEq, Repr

namespace Refusal

/-- The whole item is left out. -/
def rejectsItem : Refusal → Bool
  | peerWithout .. => false
  | itemWithout .. => true
  | unreadable .. => true

/-- The word for the kind of a refusal. -/
def kind : Refusal → String
  | peerWithout .. => "missing_required_field"
  | itemWithout .. => "missing_item_field"
  | unreadable .. => "malformed_input"

/-- What the item is called. -/
def item : Refusal → String
  | peerWithout item _ => item
  | itemWithout item _ => item
  | unreadable item _ _ => item

/-- The field that gave cause. -/
def field : Refusal → Field
  | peerWithout _ field => field
  | itemWithout _ field => field
  | unreadable _ field _ => field

/-- What stood in the field, if anything did. -/
def value? : Refusal → Option String
  | unreadable _ _ value => some value
  | _ => none

/-- The text of a refusal. -/
def message : Refusal → String
  | peerWithout item field =>
    "Item '" ++ item ++ "' has a peer without '" ++ field.key ++ "', peer dropped"
  | itemWithout item field => "Item '" ++ item ++ "' has no '" ++ field.key ++ "', item rejected"
  | unreadable item field value =>
    "Item '" ++ item ++ "' has an unparseable '" ++ field.key ++ "': '" ++ value ++ "'"

end Refusal

end SwarmChart.Tracker
