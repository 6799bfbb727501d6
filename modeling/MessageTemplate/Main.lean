/-
# The program

The command line: it takes the arguments, the environment and the source of
the request, and prints what the run leads to.
-/
import MessageTemplate.CommandLine.Run

open MessageTemplate CommandLine

/-- The names of the environment variables that matter. -/
def environmentNames : List String :=
  ["RENDER_VARIANT", "RUN_MODE", "RENDER__RENDER", "RENDER__LOGGING", "RENDER__LOGGING__FORMAT"]
    ++ Defaults.members.map fun member =>
      "RENDER__RENDER__" ++ (String.ofList member.name).toUpper

/-- The environment variables that matter and are set. -/
def readEnvironment : IO Environment :=
  environmentNames.filterMapM fun name => do
    let value ← IO.getEnv name
    return value.map fun value => (name.toList, value.toList)

/-- The text of a source: the standard input or a file. -/
def readSource (source : Text) : IO (Except Text Text) := do
  try
    let content ←
      if source = standardInput then (← IO.getStdin).readToEnd
      else IO.FS.readFile (String.ofList source)
    return .ok content.toList
  catch error => return .error (toString error).toList

/-- Runs the program. -/
def main (arguments : List String) : IO UInt32 := do
  let environment ← readEnvironment
  let arguments := arguments.map String.toList
  let source ←
    match Command.ofArguments? environment arguments with
    | some (.render _ source _) => readSource source
    | _ => pure (.ok [])
  let outcome := run environment arguments fun _ => source
  match outcome with
  | .refused => IO.eprintln (String.ofList refusalText)
  | .printed line => IO.println (String.ofList line)
  | .failed failure => IO.eprintln (String.ofList failure.line)
  return outcome.status.toUInt32
