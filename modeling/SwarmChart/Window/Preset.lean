/-!
# Preset windows

The five lengths that the charts offer by name. `Preset.ofName?` reads a name and is the inverse of
`Preset.name`.
-/

set_option autoImplicit false

namespace SwarmChart.Window

/-- A length of window that has a name. -/
inductive Preset where
  | hour
  | day
  | week
  | month
  | year
  deriving DecidableEq, Repr

namespace Preset

/-- The short name of a preset. -/
def name : Preset → String
  | hour => "1h"
  | day => "1d"
  | week => "1w"
  | month => "1m"
  | year => "1y"

/-- The seconds of a preset; a month has thirty days and a year 365. -/
def seconds : Preset → Float
  | hour => 3600
  | day => 86400
  | week => 604800
  | month => 2592000
  | year => 31536000

/-- The preset of a short name. -/
def ofName? (text : String) : Option Preset :=
  [hour, day, week, month, year].find? fun preset => preset.name = text

/-- The refusal of a name that no preset has. -/
def refusal (text : String) : String :=
  "invalid window preset '" ++ text ++ "', expected 1h, 1d, 1w, 1m or 1y"

theorem ofName?_name (preset : Preset) : ofName? preset.name = some preset := by
  cases preset <;> decide

theorem name_of_ofName? {text : String} {preset : Preset} (h : ofName? text = some preset) :
    preset.name = text := by
  simpa using List.find?_some h

end Preset

end SwarmChart.Window
