import SwarmChart.Json.Token

/-!
# Reading a JSON value

The reader is a machine that takes the tokens of a text one by one. It keeps the containers that
are open, the innermost one first, and what may come next (`Reading`). A token that cannot come
next is malformed, and a text whose tokens end before its value does is truncated.

A value can be read with care for its contents or merely passed over (`Care`). A value that is
passed over may be nested to any depth, its numbers may have any size and its strings may hold
unpaired units; what the machine builds from it means nothing.
-/

set_option autoImplicit false

namespace SwarmChart.Json

/-- How much of a value matters. -/
inductive Care where
  /-- The value is wanted. -/
  | kept
  /-- Only the end of the value is wanted. -/
  | passed
  deriving DecidableEq, Repr

/-- A container that is open. -/
inductive Frame where
  /-- The items read so far, the last one first. -/
  | array (items : List Json)
  /-- The members read so far, and the key whose value comes next or has just been read. -/
  | object (members : List (String × Json)) (key : String)

/-- What may come next. -/
inductive Position where
  | value
  /-- A value, or the end of an array that is still empty. -/
  | valueOrClose
  | key
  /-- A key, or the end of an object that is still empty. -/
  | keyOrClose
  | colon
  /-- A comma, or the end of the innermost container. -/
  | commaOrClose
  /-- Nothing: the value is complete. -/
  | done (value : Json)

/-- A value in the middle of being read. -/
structure Reading where
  care : Care
  /-- The number of containers that stand around the value. -/
  outer : Nat
  /-- The containers that are open inside the value, the innermost one first. -/
  containers : List Frame
  position : Position

namespace Reading

/-- The greatest number of containers that may be open at once around a value that is kept. -/
def depthLimit : Nat := 127

/-- A value of which nothing has been read. -/
def start (care : Care) (outer : Nat) : Reading := ⟨care, outer, [], .value⟩

/-- The text that a written string stands for, if it matters. -/
def text (care : Care) (written : StringText.Written) : Except Fault String :=
  match care with
  | .kept => StringText.assemble written
  | .passed =>
    match written.fault with
    | some fault => .error fault
    | none => .ok ""

/-- The value that a written number stands for, if it matters. Where it does not, a number that
stops short is malformed even at the end of the text. -/
def number (care : Care) (written : Except Fault Numeral) : Except Fault Json :=
  match care, written with
  | .kept, .ok numeral => numeral.value
  | .kept, .error fault => .error fault
  | .passed, .ok _ => .ok .null
  | .passed, .error _ => .error .malformed

/-- Hands a complete value to the innermost open container. -/
def deliver (reading : Reading) (value : Json) : Reading :=
  match reading.containers with
  | [] => { reading with position := .done value }
  | .array items :: around =>
    { reading with containers := .array (value :: items) :: around, position := .commaOrClose }
  | .object members key :: around =>
    { reading with
      containers := .object (insert key value members) key :: around, position := .commaOrClose }

/-- Opens a container, unless too many are open around a value that is kept. -/
def push (reading : Reading) (frame : Frame) (position : Position) : Except Fault Reading :=
  if reading.care = .kept ∧ depthLimit ≤ reading.outer + reading.containers.length then
    .error .malformed
  else .ok { reading with containers := frame :: reading.containers, position := position }

/-- Takes the first token of a value. -/
def beginValue (reading : Reading) : Token → Except Fault Reading
  | .openArray => reading.push (.array []) .valueOrClose
  | .openObject => reading.push (.object [] "") .keyOrClose
  | .word value => value.map reading.deliver
  | .number written => (number reading.care written).map reading.deliver
  | .string written => (text reading.care written).map fun text => reading.deliver (.str text)
  | .closeArray | .closeObject | .colon | .comma | .stray => .error .malformed

/-- Closes the innermost container if it is an array. -/
def closeArray (reading : Reading) : Except Fault Reading :=
  match reading.containers with
  | .array items :: around =>
    .ok ({ reading with containers := around }.deliver (.arr items.reverse))
  | _ => .error .malformed

/-- Closes the innermost container if it is an object. -/
def closeObject (reading : Reading) : Except Fault Reading :=
  match reading.containers with
  | .object members _ :: around =>
    .ok ({ reading with containers := around }.deliver (.obj members))
  | _ => .error .malformed

/-- Takes the key of a member of the innermost object. -/
def beginMember (reading : Reading) (token : Token) : Except Fault Reading :=
  match token, reading.containers with
  | .string written, .object members _ :: around =>
    (text reading.care written).map fun key =>
      { reading with containers := .object members key :: around, position := .colon }
  | _, _ => .error .malformed

/-- Takes the comma behind a value of the innermost container. -/
def comma (reading : Reading) : Except Fault Reading :=
  match reading.containers with
  | .array _ :: _ => .ok { reading with position := .value }
  | .object .. :: _ => .ok { reading with position := .key }
  | [] => .error .malformed

/-- Takes the next token. -/
def step (reading : Reading) (token : Token) : Except Fault Reading :=
  match reading.position, token with
  -- Only at an empty container may its end stand where a value or a key could.
  | .valueOrClose, .closeArray => reading.closeArray
  | .valueOrClose, token => reading.beginValue token
  | .value, token => reading.beginValue token
  | .keyOrClose, .closeObject => reading.closeObject
  | .keyOrClose, token => reading.beginMember token
  | .key, token => reading.beginMember token
  | .colon, .colon => .ok { reading with position := .value }
  -- Whether the bracket fits is left to the innermost container.
  | .commaOrClose, .comma => reading.comma
  | .commaOrClose, .closeArray => reading.closeArray
  | .commaOrClose, .closeObject => reading.closeObject
  | _, _ => .error .malformed

/-- The value read, when the text ends here. -/
def finish (reading : Reading) : Except Fault Json :=
  match reading.position with
  | .done value => .ok value
  | _ => .error .truncated

end Reading

/-- The value that a whole text writes. -/
def read (text : List Char) : Except Fault Json := do
  let reading ← (Token.list text).foldlM Reading.step (Reading.start .kept 0)
  reading.finish

end SwarmChart.Json
