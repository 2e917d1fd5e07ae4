/-!
# JSON values

The values of the tracker's data file and of the answers. Whole numbers that fit in 64 bits, signed
or unsigned, are kept apart from all other numbers. The members of an object are kept as a list;
`Json.insert` keeps such a list in the order of its keys, with one member for each key, which is
how objects that were read are held. Objects that are only written keep the order they were given.

A text that writes no value is refused with a `Json.Fault`. Only the first fault that a reader meets
from left to right is ever reported, so a single cause is enough.
-/

set_option autoImplicit false

namespace SwarmChart

/-- A JSON value. -/
inductive Json where
  | null
  | bool (value : Bool)
  /-- A whole number. -/
  | int (value : Int)
  /-- A number with a fraction or an exponent, or too large for a whole number. -/
  | float (value : Float)
  | str (text : String)
  | arr (items : List Json)
  | obj (members : List (String × Json))
  deriving Inhabited, Repr

namespace Json

/-- Puts a member among others that stand in the order of their keys; a member of the same key is
replaced. -/
def insert (key : String) (value : Json) : List (String × Json) → List (String × Json)
  | [] => [(key, value)]
  | (other, held) :: rest =>
    if key < other then (key, value) :: (other, held) :: rest
    else if key = other then (key, value) :: rest
    else (other, held) :: insert key value rest

/-- The value of the first member with a key. -/
def member? (key : String) : Json → Option Json
  | obj members => members.lookup key
  | _ => none

/-- The text of a value that is a text. -/
def text? : Json → Option String
  | str text => some text
  | _ => none

/-- The value of an optional member, null standing for none. -/
def nonNull : Json → Option Json
  | null => none
  | value => some value

/-! ## Faults -/

/-- The cause for which a text is refused. -/
inductive Fault where
  /-- A character that no JSON text has at its place, or a value beyond the limits of a reader. -/
  | malformed
  /-- The text ended before its value did. -/
  | truncated
  /-- A value of a kind that is not wanted at its place. -/
  | mistyped
  deriving DecidableEq, Repr

/-- The word for a cause. -/
def Fault.name : Fault → String
  | malformed => "syntax"
  | truncated => "eof"
  | mistyped => "data"

end Json

end SwarmChart
