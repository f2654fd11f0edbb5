import Switchboard.CommandLine

/-!
# The program

The places at which a run may look are explored, the run is made in the folder that this gives, and
what it leaves behind is written.  Formats that are not described here are malformed to the program.
-/

namespace Switchboard
namespace CommandLine

/-! ### The folder of a run -/

/-- A folder with what stands at the names that some paths pass. -/
def explore (here : List String) (paths : List String) : IO Folder := do
  let mut folder : Folder := .ofFiles here []
  let lookedAt := paths.flatMap fun path => Folder.passed (folder.start path) (Folder.parts path)
  for names in lookedAt.eraseDups do
    let place := System.mkFilePath [Folder.rooted names]
    if ← place.isDir then
      folder := { folder with folders := names :: folder.folders }
    else if ← place.pathExists then
      try
        folder := folder.put names (← IO.FS.readFile place)
      catch e =>
        folder := { folder.put names "" with
          unreadable := (names, toString e) :: folder.unreadable }
  return folder

/-- The paths of the files that a path may stand for. -/
def candidates (here : List String) (path : String) : List String :=
  path :: (Setting.completions (.ofFiles here []) path).map (·.1)

/-- The paths at which a run looks before it is configured. -/
def settingsPaths (here : List String) : List String :=
  (List.range (here.length + 1)).map (fun n => Folder.rooted (here.take n ++ [variableFile])) ++
    Configuration.files.flatMap (candidates here)

/-- The paths at which a run looks under a configuration. -/
def configuredPaths (here : List String) (configuration : Configuration) : List String :=
  candidates here configuration.compiler.manifest ++ configuration.output.path.toList

/-- The folder of a run, with all that the run looks at. -/
def findFolder (here : List String) (vars : Variables) : IO Folder := do
  let folder ← explore here (settingsPaths here)
  match (configure .none folder vars).result with
  | .error _ => return folder
  | .ok configuration => explore here (settingsPaths here ++ configuredPaths here configuration)

/-- The environment variables of the program. -/
def readVariables : IO Variables := do
  let text ← try IO.FS.readFile "/proc/self/environ" catch _ => pure ""
  let entries := (Text.split (· == '\x00') text.toList).filter (!·.isEmpty)
  return entries.map fun entry =>
    let (name, value) := entry.span (· != '=')
    (String.ofList name, String.ofList (value.drop 1))

/-! ### What a run leaves behind -/

/-- The names and the text of the file that a run in a folder has written. -/
def writtenFile? (folder : Folder) (report : Report) : Option (List String × String) :=
  report.log.findSome? fun
    | .written path _ =>
      match folder.target path with
      | .ok names => (report.folder.text? names).map (names, ·)
      | .error _ => none
    | _ => none

/-- The report of a run whose file is written; where the system refuses that, the report of a run
that is refused. -/
def settle (folder : Folder) (vars : Variables) : IO Report := do
  let report := run .none folder vars
  match writtenFile? folder report with
  | none => return report
  | some (names, text) =>
    try
      IO.FS.writeFile (Folder.rooted names) text
      return report
    catch e => return run .none { folder with unwritable := [(names, toString e)] } vars

/-- Writes the events that are shown to the log. -/
def writeLog (log : List Event) : IO Unit := do
  for event in log.filter (·.level.isShown) do
    let cause := (event.diagnostic?.map fun diagnostic => ": " ++ diagnostic.message).getD ""
    IO.eprintln (event.level.name ++ " " ++ event.message ++ cause)

/-- Writes what a run says, with its exit code. -/
def tell (report : Report) : IO UInt32 := do
  writeLog report.log
  IO.print report.output
  if let some failure := report.failure then
    unless failure.isBreak do
      IO.eprintln ("Error: " ++ failure.message)
  return report.exitCode.toUInt32

end CommandLine
end Switchboard

open Switchboard in
/-- One run of the command line. -/
def main : IO UInt32 := do
  let here := Folder.names (← IO.currentDir).toString
  let vars ← CommandLine.readVariables
  let folder ← CommandLine.findFolder here vars
  CommandLine.tell (← CommandLine.settle folder vars)
