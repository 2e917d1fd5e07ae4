import SwarmChart.CommandLine
import SwarmChart.Http.Wire
import Std.Time.DateTime.Timestamp

/-!
# The program

Takes its settings from the command line and the environment and answers the HTTP requests that
come in on standard input, one after the other, on standard output. Whoever accepts connections on
the address of the settings hands them over in this form. The data file is read anew for every
request.
-/

set_option autoImplicit false

namespace SwarmChart

open CommandLine (Setting Settings)

/-- The environment variables of all settings. -/
def environment : IO (String → Option String) := do
  let values ← Setting.all.mapM fun setting => do
    return (setting.environmentName, ← IO.getEnv setting.environmentName)
  return fun name => (values.lookup name).join

/-- The octets of the data file, if it can be read. -/
def fileOctets (path : String) : IO (Option (List UInt8)) := do
  try
    return some (← IO.FS.readBinFile path).toList
  catch _ =>
    return none

/-- The present instant. -/
def present : IO Instant := do
  return Instant.ofLine (← Std.Time.Timestamp.now).toNanosecondsSinceUnixEpoch.val

/-- Passes over the header lines of a request. -/
partial def skipHeaders (input : IO.FS.Stream) : IO Unit := do
  let line ← input.getLine
  unless (Text.trim line.toList).isEmpty do skipHeaders input

/-- Answers requests until the input ends. -/
partial def serve (settings : Settings) (input output : IO.FS.Stream) : IO Unit := do
  let line ← input.getLine
  unless line.isEmpty do
    skipHeaders input
    let surroundings := ⟨← fileOctets settings.data, settings.window, ← present⟩
    let response :=
      match Http.Request.ofLine? line with
      | none => Http.Response.bare 400
      | some request => Http.respond surroundings request
    output.putStr response.write
    output.flush
    serve settings input output

end SwarmChart

open SwarmChart in
/-- Runs the program. -/
def main (arguments : List String) : IO UInt32 := do
  match CommandLine.Settings.read arguments (← environment) with
  | .error stop =>
    if stop.isAnswer then
      IO.println stop.message
      return 0
    else
      IO.eprintln ("error: " ++ stop.message)
      return 2
  | .ok settings =>
    IO.eprintln ("swarm dashboard answering for " ++ settings.addr.write)
    serve settings (← IO.getStdin) (← IO.getStdout)
    return 0
