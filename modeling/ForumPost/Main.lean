import ForumPost.Command.Run

/-!
# The program

Runs a command on the files of the machine, shows the outcome, and gives its
status.
-/

namespace ForumPost

/-- The variables of the environment that a run looks at. -/
def settingNames : List String :=
  ["CROSSPOST_SOURCE", "CROSSPOST_TO", "CROSSPOST_SITE_NAME", "CROSSPOST_LICENSE_URL",
    "CROSSPOST_OUTPUT", "CROSSPOST_TIMEOUT", "CROSSPOST_VERBOSE", "NO_COLOR", "CLICOLOR_FORCE"]

/-- The environment of the program. -/
def readEnvironment : IO Environment := do
  let values ← settingNames.mapM fun name => do
    return (← IO.getEnv name).map fun value => (name.toList, value.toList)
  return values.filterMap id

/-- What stands at a path of the machine. -/
def readFile (path : Text) : IO Found := do
  try
    let bytes ← IO.FS.readBinFile (String.ofList path)
    match String.fromUTF8? bytes with
    | some content => return .text content.toList
    | none => return .bytes
  catch
    | .inappropriateType _ 21 _ => return .folder
    | _ => return .nothing

/-- Writes a text to a path of the machine. -/
def writeFile (path content : Text) : IO (Option Obstacle) := do
  try
    IO.FS.writeFile (String.ofList path) (String.ofList content)
    return none
  catch
    | .noFileOrDirectory _ _ _ => return some .nothing
    | .inappropriateType _ 21 _ => return some .folder
    | .inappropriateType _ 20 _ => return some .notFolder
    | error => return some (.other (toString error).toList)

/-- What is said about the end of a run. -/
def Ending.report : Ending → String
  | finished => ""
  | failed causes =>
    String.join (causes.map fun cause => "Error: " ++ String.ofList cause ++ "\n")
  | misused => "Usage: " ++ String.ofList Topic.program.usage ++ "\n"
  | broken => String.ofList Failure.brokenGrid.message ++ "\n"

end ForumPost

open ForumPost

/-- Runs the program on its arguments. -/
def main (arguments : List String) : IO UInt32 := do
  let outcome ← run { read := readFile, write := writeFile } (← readEnvironment)
    (arguments.map String.toList)
  IO.print (String.ofList outcome.shown)
  IO.eprint (String.ofList outcome.notes ++ outcome.ending.report)
  return outcome.ending.status.toUInt32
