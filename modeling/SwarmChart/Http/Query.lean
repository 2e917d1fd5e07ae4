import SwarmChart.Http.Percent
import SwarmChart.Decimal.Numeral
import SwarmChart.Window.Preset

/-!
# The query of a request

A query is a row of pairs with `&` between them; the first equals sign of a pair ends its key
(`pairs`). Of all pairs only the two that choose a window matter: a length in seconds, which wins,
or the name of a preset (`WindowChoice`). Giving one of them twice, or a value that cannot be read,
is an error, whichever of them would win. The first error ends the reading, and it is told in words
(`QueryError.message`).
-/

set_option autoImplicit false

namespace SwarmChart.Http

/-- The parts of a text between separators; there is always one part more than separators. -/
def splitOn (separator : Char) : List Char → List (List Char)
  | [] => [[]]
  | c :: rest =>
    if c = separator then [] :: splitOn separator rest
    else
      match splitOn separator rest with
      | [] => [[c]]
      | part :: parts => (c :: part) :: parts

/-- The text before the first separator and the text behind it. Without a separator there is
nothing behind. -/
def splitFirst (separator : Char) (text : List Char) : List Char × List Char :=
  (text.takeWhile (· ≠ separator), (text.dropWhile (· ≠ separator)).drop 1)

/-- The key and the value that a part of a query writes. -/
def pair (part : List Char) : String × String :=
  let (key, value) := splitFirst '=' part
  (String.ofList (Percent.decodeForm key), String.ofList (Percent.decodeForm value))

/-- The pairs of a query in their order. -/
def pairs (query : List Char) : List (String × String) :=
  ((splitOn '&' query).filter fun part => !part.isEmpty).map pair

/-- What a query says about the window. -/
structure WindowChoice where
  /-- A length in seconds. -/
  window : Option Float
  range : Option Window.Preset

/-- Why a query was refused. -/
inductive QueryError where
  | repeated (key : String)
  | notNumber (text : String)
  | unknownPreset (text : String)
  deriving DecidableEq, Repr

/-- What is wrong with a query, in words. -/
def QueryError.message : QueryError → String
  | repeated key => "duplicate field `" ++ key ++ "`"
  | notNumber text =>
    if text = "" then "cannot parse float from empty string" else "invalid float literal"
  | unknownPreset text => Window.Preset.refusal text

namespace WindowChoice

/-- Nothing is said. -/
def unset : WindowChoice := ⟨none, none⟩

/-- Takes a pair into account. -/
def add (choice : WindowChoice) : String × String → Except QueryError WindowChoice
  | (key, value) =>
    if key = "window" then
      -- The repetition counts even if the value could not be read.
      if choice.window.isSome then .error (.repeated key)
      else
        match Decimal.readNumeral value.toList with
        | some seconds => .ok { choice with window := some seconds }
        | none => .error (.notNumber value)
    else if key = "range" then
      if choice.range.isSome then .error (.repeated key)
      else
        match Window.Preset.ofName? value with
        | some preset => .ok { choice with range := some preset }
        | none => .error (.unknownPreset value)
    else .ok choice

/-- What the pairs of a query say. -/
def ofPairs (pairs : List (String × String)) : Except QueryError WindowChoice :=
  pairs.foldlM add unset

/-- What a query says. -/
def ofQuery (query : List Char) : Except QueryError WindowChoice := ofPairs (pairs query)

/-- The length of the window in seconds: the one given, else that of the preset, else the
default. -/
def seconds (choice : WindowChoice) (default : Float) : Float :=
  match choice.window, choice.range with
  | some seconds, _ => seconds
  | none, some preset => preset.seconds
  | none, none => default

end WindowChoice

end SwarmChart.Http
