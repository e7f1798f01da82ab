/-
# The program

The command line on a machine whose network is silent and on which no program can
be started: the arguments and the variables are the real ones, time is not spent,
and whatever would have to answer does not.  Help texts and completion scripts are
left empty.
-/

import ServiceReadiness.Execution

namespace ServiceReadiness
namespace Program

/-- The names of the variables that matter. -/
def variableNames : List String :=
  "RUST_LOG" ::
    ([.defaultMaxWait, .retryInterval, .dockerUrl, .dockerHost, .skip, .keepOnFailure, .stopGrace,
      .dockerTimeout] : List Variable).map Variable.name

/-- The variables of this process. -/
def readVariables : IO Variables := do
  let found ← variableNames.mapM fun name => do
    return (← IO.getEnv name).map fun value => (name, value.toUTF8)
  return found.filterMap id

/-- The file of variables in the working directory, if there is one. -/
def readFile : IO (Option String) := do
  try return some (← IO.FS.readFile ".env") catch _ => return none

/-- The surroundings of this process. -/
def surroundings : IO Surroundings := do
  return {
    given := ← readVariables
    file := ← readFile
    networks := fun _ _ => { connection := .refused 0 "no route to host" }
    client := { reach := fun _ => .error "no route to host", read := fun _ => none }
    child := fun _ => { duration := 0, finish := .notStarted "no program can be started here" }
    help := fun _ => ""
    script := fun _ => "" }

/-- A line of the log, in JSON or not. -/
def logText (json : Bool) (l : LogLine) : String :=
  if json then
    String.ofList
      (Json.object
        [("level".toList, .text l.level.name.toList), ("message".toList, .text l.text.toList),
          ("target".toList, .text l.speaker.target.toList)]).render
  else l.render

/-- The logs are asked for in JSON. -/
def wantsJson (args : List String) : Bool :=
  match CommandLine.parse args with
  | .ok l => l.logJson
  | .error _ => false

end Program
end ServiceReadiness

open ServiceReadiness in
/-- Follows the command line. -/
def main (args : List String) : IO UInt32 := do
  let done := execute (← Program.surroundings) args
  for line in done.shownLogs do
    IO.eprintln (Program.logText (Program.wantsJson args) line)
  match done.exit with
  | none => return 1
  | some exit =>
    IO.print exit.output
    if let some complaint := exit.complaint then IO.eprintln complaint
    return exit.code.toUInt32
