import SwarmChart.Json.Reader
import SwarmChart.Text.Blank
import SwarmChart.Text.Utf8

/-!
# The data file

The tracker's data file is a JSON text whose outermost container is an object with a list of
entries under the key `torrents`, or a list with that list as its only item. A file that is missing
those entries has none, and so has a file that holds nothing but white space, which the tracker
creates before it first writes.

The file is read from left to right by a machine (`FileReader`) and refused at its first fault. The
values of unknown members are passed over. Behind the outermost container only white space may
follow, so a file that was cut short is refused and never taken for a shorter one.
-/

set_option autoImplicit false

namespace SwarmChart.Tracker

open Json (Fault Token Reading)

/-- Why no entries could be had from the data file. -/
inductive LoadError where
  /-- There is no such file. -/
  | missing
  /-- The file is not well-formed UTF-8. -/
  | notText
  /-- The file as a whole is not usable. -/
  | unusable (fault : Fault)
  deriving DecidableEq, Repr

/-- The text of the two errors of access. -/
def LoadError.message : LoadError → String
  | missing => "Failed to read data file: No such file or directory (os error 2)"
  | notText => "Failed to read data file: stream did not contain valid UTF-8"
  | unusable fault => "Failed to parse data file: " ++ fault.name

/-- Where the reader stands in the file. The entries found so far are kept if any were. -/
inductive FileReader where
  /-- Before the outermost container. -/
  | start
  /-- Where a key of the outermost object must come, or its end if `empty`. -/
  | key (empty : Bool) (found : Option (List Json))
  /-- Behind the key of the entries. -/
  | colonOfEntries
  /-- Behind another key. -/
  | colonOfOther (found : Option (List Json))
  /-- Before the value of the entries' key. -/
  | entriesOfObject
  /-- Inside the entries of the outermost object. -/
  | insideEntries (reading : Reading)
  /-- Inside the value of another key. -/
  | insideOther (found : Option (List Json)) (reading : Reading)
  /-- Behind a member of the outermost object. -/
  | behindMember (found : Option (List Json))
  /-- Before the item of the outermost list, or its end. -/
  | entriesOfList
  /-- Inside the item of the outermost list. -/
  | insideList (reading : Reading)
  /-- Behind the item of the outermost list. -/
  | behindItem (found : List Json)
  /-- Behind the outermost container. -/
  | done (found : List Json)

namespace FileReader

/-- The fault of a token that is not the one container wanted at its place. A scalar is taken in
before it is found to be of the wrong kind, so its own fault comes first. -/
def unwanted : Token → Fault
  | .openArray => .mistyped
  | .openObject => .mistyped
  | .word (.ok _) => .mistyped
  | .word (.error fault) => fault
  | .number written =>
    match Reading.number .kept written with
    | .ok _ => .mistyped
    | .error fault => fault
  | .string written =>
    match Reading.text .kept written with
    | .ok _ => .mistyped
    | .error fault => fault
  | .closeArray | .closeObject | .colon | .comma | .stray => .malformed

/-- The entries that a value read as the list of entries holds. -/
def entriesOf : Json → List Json
  | .arr items => items
  | _ => []

/-- Begins the list of entries inside the outermost container. -/
def beginEntries (next : Reading → FileReader) (token : Token) : Except Fault FileReader :=
  match token with
  | .openArray => ((Reading.start .kept 1).step token).map next
  | token => .error (unwanted token)

/-- Goes on inside a value, and with `next` once it is complete. -/
def goOn (reading : Reading) (token : Token) (inside : Reading → FileReader)
    (next : Json → FileReader) : Except Fault FileReader := do
  let reading ← reading.step token
  match reading.position with
  | .done value => .ok (next value)
  | _ => .ok (inside reading)

/-- Takes a key of the outermost object. The entries may be given only once. -/
def takeKey (found : Option (List Json)) (token : Token) : Except Fault FileReader :=
  match token with
  | .string written => do
    let key ← Reading.text .kept written
    -- A second list of entries is at fault before anything of it is read.
    if key = "torrents" then
      if found.isSome then .error .mistyped else .ok .colonOfEntries
    else .ok (.colonOfOther found)
  | _ => .error .malformed

/-- Takes the next token. -/
def step (reader : FileReader) (token : Token) : Except Fault FileReader :=
  match reader with
  | start =>
    match token with
    | .openObject => .ok (key true none)
    | .openArray => .ok entriesOfList
    | token => .error (unwanted token)
  | key empty found =>
    match token with
    | .closeObject => if empty then .ok (done (found.getD [])) else .error .malformed
    | token => takeKey found token
  | colonOfEntries =>
    match token with
    | .colon => .ok entriesOfObject
    | _ => .error .malformed
  | colonOfOther found =>
    match token with
    | .colon => .ok (insideOther found (Reading.start .passed 1))
    | _ => .error .malformed
  | entriesOfObject => beginEntries insideEntries token
  | insideEntries reading =>
    goOn reading token insideEntries fun value => behindMember (some (entriesOf value))
  | insideOther found reading =>
    goOn reading token (insideOther found) fun _ => behindMember found
  | behindMember found =>
    match token with
    | .comma => .ok (key false found)
    | .closeObject => .ok (done (found.getD []))
    | _ => .error .malformed
  | entriesOfList =>
    match token with
    | .closeArray => .ok (done [])
    | token => beginEntries insideList token
  | insideList reading =>
    goOn reading token insideList fun value => behindItem (entriesOf value)
  | behindItem found =>
    match token with
    | .closeArray => .ok (done found)
    | _ => .error .malformed
  | done _ => .error .malformed

/-- The entries of the file, when it ends here. -/
def finish : FileReader → Except Fault (List Json)
  | done found => .ok found
  | _ => .error .truncated

end FileReader

/-- The entries of a text that is not blank. -/
def readEntries (text : List Char) : Except Fault (List Json) := do
  let reader ← (Token.list text).foldlM FileReader.step FileReader.start
  reader.finish

/-- The entries of a data file with the given octets, if there is such a file. -/
def load : Option (List UInt8) → Except LoadError (List Json)
  | none => .error .missing
  | some octets =>
    match Text.Utf8.decode? octets with
    | none => .error .notText
    | some text =>
      -- The tracker creates the file before it writes to it.
      if Text.isBlankText text then .ok []
      else
        match readEntries text with
        | .ok entries => .ok entries
        | .error fault => .error (.unusable fault)

end SwarmChart.Tracker
