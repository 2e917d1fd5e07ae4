import SwarmChart.Json.Writer
import SwarmChart.Text.Quoted

/-!
# Values of a wrong kind

What is said of a value that is not of the kind wanted at its place, and the readers of the kinds
that records are made of: texts, counts and lists.
-/

set_option autoImplicit false

namespace SwarmChart.Json

/-- A kind of value that is wanted. -/
inductive Wanted where
  | text
  /-- A whole number that fits in 32 unsigned bits. -/
  | count
  | list
  | itemRecord
  deriving DecidableEq, Repr

/-- The words for a kind of value. -/
def Wanted.name : Wanted → String
  | text => "a string"
  | count => "u32"
  | list => "a sequence"
  | itemRecord => "struct RawItem"

/-- Why a value does not serve. -/
inductive Mismatch where
  | wrongKind (found : Json) (wanted : Wanted)
  | outOfRange (found : Int) (wanted : Wanted)
  /-- A record written as a list has more items than the record has fields. -/
  | tooLong (length : Nat)
  deriving Repr

/-- The words for a value in a message: its kind and, if it is a single thing, the value. -/
def describe : Json → String
  | .null => "null"
  | .bool true => "boolean `true`"
  | .bool false => "boolean `false`"
  | .int n => "integer `" ++ String.ofList (writeInt n) ++ "`"
  | .float x => "floating point `" ++ String.ofList (writeFloat x) ++ "`"
  | .str text => "string " ++ String.ofList (Text.quoted text.toList)
  | .arr _ => "sequence"
  | .obj _ => "map"

/-- The text of a refusal. -/
def Mismatch.message : Mismatch → String
  | wrongKind found wanted => "invalid type: " ++ describe found ++ ", expected " ++ wanted.name
  | outOfRange found wanted =>
    "invalid value: " ++ describe (.int found) ++ ", expected " ++ wanted.name
  | tooLong length =>
    "invalid length " ++ String.ofList (Decimal.digits length)
      ++ ", expected fewer elements in array"

/-- The text that a value is. -/
def asText : Json → Except Mismatch String
  | .str text => .ok text
  | value => .error (.wrongKind value .text)

/-- The least number that does not fit in 32 unsigned bits. -/
def countLimit : Int := 4294967296

/-- The count that a value is. -/
def asCount : Json → Except Mismatch Nat
  | .int n => if 0 ≤ n ∧ n < countLimit then .ok n.toNat else .error (.outOfRange n .count)
  | value => .error (.wrongKind value .count)

/-- The items of the list that a value is. -/
def asList : Json → Except Mismatch (List Json)
  | .arr items => .ok items
  | value => .error (.wrongKind value .list)

/-- What a value that may be null holds, null standing for nothing. -/
def orNull {α : Type} (as : Json → Except Mismatch α) (value : Json) :
    Except Mismatch (Option α) :=
  match value with
  | .null => .ok none
  | value => (as value).map some

end SwarmChart.Json
