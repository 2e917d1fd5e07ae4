import SwarmChart.Decimal.Numeral
import SwarmChart.Net.SocketAddress

/-!
# The command line

Three settings can be given, each at most once, as `--name value` or `--name=value`. One that is
not given is taken from its environment variable, and else has a default (`Settings.read`).

The arguments are taken one by one (`Scan.step`). A setting that has been named is settled only
when the next one is named or the arguments end, so an argument that is not known is found before
a fault in the value ahead of it. An argument that begins with a hyphen is never the value of the
one before it.
-/

set_option autoImplicit false

namespace SwarmChart.CommandLine

open Net (SocketAddress)

/-- What can be set. -/
inductive Setting where
  /-- The data file. -/
  | data
  /-- The address to listen on. -/
  | addr
  /-- The length of the window where a request names none. -/
  | window
  deriving DecidableEq, Repr

namespace Setting

/-- The settings in their order. -/
def all : List Setting := [data, addr, window]

/-- The name on the command line. -/
def name : Setting → String
  | data => "data"
  | addr => "addr"
  | window => "default-window"

/-- The environment variable. -/
def environmentName : Setting → String
  | data => "SWARM_DASHBOARD_DATA"
  | addr => "SWARM_DASHBOARD_ADDR"
  | window => "SWARM_DASHBOARD_WINDOW"

/-- The setting of a name. -/
def ofName? (name : String) : Option Setting := all.find? fun setting => setting.name = name

end Setting

/-- Why no settings come of a command line. -/
inductive Stop where
  | unknownArgument
  /-- A setting has no value, or an empty one where that is not allowed. -/
  | missingValue
  /-- A value cannot be read. -/
  | unreadableValue
  | givenTwice
  /-- A value for what takes none. -/
  | unwantedValue
  | helpWanted
  | versionWanted
  deriving DecidableEq, Repr

namespace Stop

/-- Help or the version was asked for, so stopping is no fault. -/
def isAnswer : Stop → Bool
  | helpWanted => true
  | versionWanted => true
  | _ => false

/-- What is told to the user. -/
def message : Stop → String
  | unknownArgument => "unexpected argument"
  | missingValue => "a value is required"
  | unreadableValue => "invalid value"
  | givenTwice => "the argument cannot be used multiple times"
  | unwantedValue => "unexpected value for an argument that takes none"
  | helpWanted =>
    "Serves tracker swarm statistics for the dashboard charts\n\n"
      ++ "Usage: [--data <DATA>] [--addr <ADDR>] [--default-window <DEFAULT_WINDOW>]"
  | versionWanted => "0.1.0"

end Stop

/-- The settings given so far. -/
structure Given where
  data : Option String
  addr : Option SocketAddress
  window : Option Float

namespace Given

/-- Nothing is given. -/
def nothing : Given := ⟨none, none, none⟩

/-- The setting has been given. -/
def has (given : Given) : Setting → Bool
  | .data => given.data.isSome
  | .addr => given.addr.isSome
  | .window => given.window.isSome

/-- Gives a value to a setting. -/
def set (given : Given) (setting : Setting) (value : String) : Except Stop Given :=
  match setting with
  | .data =>
    -- An empty name of a file is treated like none.
    if value = "" then .error .missingValue else .ok { given with data := some value }
  | .addr =>
    match SocketAddress.read value.toList with
    | some addr => .ok { given with addr := some addr }
    | none => .error .unreadableValue
  | .window =>
    match Decimal.readNumeral value.toList with
    | some seconds => .ok { given with window := some seconds }
    | none => .error .unreadableValue

/-- Gives a value to a setting that has none. -/
def setOnce (given : Given) (setting : Setting) (value : String) : Except Stop Given :=
  if given.has setting then .error .givenTwice else given.set setting value

end Given

/-- A setting that was named last, with its value if that has come. -/
structure Pending where
  setting : Setting
  value : Option String

/-- The arguments taken so far. -/
structure Scan where
  given : Given
  pending : Option Pending
  /-- Two lone hyphens were taken, behind which nothing names a setting any more. -/
  closed : Bool

namespace Scan

/-- No argument is taken. -/
def start : Scan := ⟨Given.nothing, none, false⟩

/-- Settles the setting that was named last. -/
def settle (scan : Scan) : Except Stop Given :=
  match scan.pending with
  | none => .ok scan.given
  | some ⟨_, none⟩ => .error .missingValue
  | some ⟨setting, some value⟩ => scan.given.setOnce setting value

/-- Takes the name of a setting, with its value if that is attached. -/
def nameSetting (scan : Scan) (setting : Setting) (value : Option String) : Except Stop Scan := do
  let given ← scan.settle
  match value with
  | none => .ok { scan with given := given, pending := some ⟨setting, none⟩ }
  | some value =>
    let given ← given.setOnce setting value
    .ok { scan with given := given, pending := none }

/-- Ends the scan with what was asked for instead of settings. -/
def endWith (scan : Scan) (stop : Stop) : Except Stop Scan := do
  let _ ← scan.settle
  .error stop

/-- Takes a long name and what is attached to it. -/
def takeLong (scan : Scan) (name : String) (value : Option String) : Except Stop Scan :=
  match Setting.ofName? name with
  | some setting => scan.nameSetting setting value
  | none =>
    if name = "help" ∨ name = "version" then
      if value.isSome then .error .unwantedValue
      else scan.endWith (if name = "help" then .helpWanted else .versionWanted)
    else .error .unknownArgument

/-- Takes an argument that names nothing. -/
def takeValue (scan : Scan) (argument : String) : Except Stop Scan :=
  match scan.pending with
  | some ⟨setting, none⟩ => .ok { scan with pending := some ⟨setting, some argument⟩ }
  | _ => .error .unknownArgument

/-- A long name and what is attached to it by an equals sign. -/
def splitLong (text : List Char) : String × Option String :=
  let name := text.takeWhile (· ≠ '=')
  match text.dropWhile (· ≠ '=') with
  | [] => (String.ofList name, none)
  | _ :: value => (String.ofList name, some (String.ofList value))

/-- Takes the next argument. Of a row of short names the first one decides. -/
def step (scan : Scan) (argument : String) : Except Stop Scan :=
  if scan.closed then .error .unknownArgument
  else
    match argument.toList with
    -- A lone hyphen is a value like any other and falls through to the last line.
    | ['-', '-'] => .ok { scan with closed := true }
    | '-' :: '-' :: text =>
      let (name, value) := splitLong text
      scan.takeLong name value
    | '-' :: 'h' :: _ => scan.endWith .helpWanted
    | '-' :: 'V' :: _ => scan.endWith .versionWanted
    | '-' :: _ :: _ => .error .unknownArgument
    | _ => scan.takeValue argument

end Scan

/-- Takes a setting from the environment unless it was given. -/
def takeVariable (environment : String → Option String) (given : Given) (setting : Setting) :
    Except Stop Given :=
  if given.has setting then .ok given
  else
    match environment setting.environmentName with
    | none => .ok given
    | some value => given.set setting value

/-- All settings. -/
structure Settings where
  data : String
  addr : SocketAddress
  window : Float

namespace Settings

/-- The settings of an empty command line in an empty environment. -/
def fallback : Settings := ⟨"data.json", ⟨.short ⟨127, 0, 0, 1⟩, 8080⟩, 86400⟩

/-- The settings given, with defaults for the rest. -/
def ofGiven (given : Given) : Settings :=
  ⟨given.data.getD fallback.data, given.addr.getD fallback.addr,
    given.window.getD fallback.window⟩

/-- The settings of a command line and an environment. -/
def read (arguments : List String) (environment : String → Option String) :
    Except Stop Settings := do
  let scan ← arguments.foldlM Scan.step Scan.start
  -- The environment is looked at only once the whole command line is found to be in order.
  let given ← scan.settle
  let given ← Setting.all.foldlM (takeVariable environment) given
  .ok (ofGiven given)

end Settings

end SwarmChart.CommandLine
