import RunRadar.Json.Pretty
import RunRadar.Worker.Basic
import RunRadar.Worker.Usage

/-!
# RunRadar.Main

The **command line program**: the worker in the environment of its process. It speaks to no
network, so no server is ever in its reach.
-/

namespace RunRadar.Worker

/-- The environment of the process, as far as configurations look at it. -/
def readEnvironment : IO Environment := do
  let profile := (← IO.getEnv "RADAR_PROFILE").getD ""
  let values ← (Config.variableNames profile).filterMapM fun name => do
    return (← IO.getEnv name).map fun value => (name, value)
  return .ofList values

/-- Writes what a worker has to say. -/
def Exit.write (exit : Exit) : IO UInt32 := do
  if let some config := exit.printed then IO.println config.pretty
  if let some message := exit.error then IO.eprintln ("Error: " ++ message)
  return exit.code

end RunRadar.Worker

open RunRadar.Worker in
/-- Runs the worker. -/
def main (arguments : List String) : IO UInt32 := do
  match Command.read arguments with
  | .error e => IO.eprintln e.report
  | .ok .help => IO.println helpText
  | .ok .version => IO.println versionText
  | .ok (.work _) => pure ()
  (run arguments (← readEnvironment) none 0).write
