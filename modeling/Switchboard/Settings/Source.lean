import Switchboard.Settings.Dialect
import Switchboard.Settings.Folder
import Switchboard.Settings.Format
import Switchboard.Settings.Merge

/-!
# Sources of settings

Settings come from texts, from files that are found with or without their extension, and from
environment variables that start with the program's name.  A variable's value is read as a flag or a
number where it is one.
-/

namespace Switchboard
namespace Setting

/-- Why settings cannot be had. -/
inductive SourceFault where
  | notFound (path : String)
  | unknownFormat (path : String)
  | unreadable (reason : String)
  | malformed (origin : Option String)
  | foreignKey
  | unfit (cause : Fault)
deriving DecidableEq, Repr

def SourceFault.message : SourceFault → String
  | .notFound path => "configuration file \"" ++ path ++ "\" not found"
  | .unknownFormat path =>
    "configuration file \"" ++ path ++ "\" is not of a registered file format"
  | .unreadable reason => reason
  | .malformed origin =>
    "malformed text" ++
      (match origin with
      | some origin => " in " ++ origin
      | none => "")
  | .foreignKey => "a key is neither a text nor a whole number"
  | .unfit cause => cause.message

/-- The entries of a source. -/
abbrev Entries := List (String × Setting)

/-- The settings that a text holds. -/
def ofText (readers : Readers) (format : Format) (origin : Option String) (content : String) :
    Except SourceFault Entries :=
  match format.read readers origin content with
  | .ok entries => .ok entries
  | .error .malformed => .error (.malformed origin)
  | .error .foreignKey => .error .foreignKey

/-- The text without a mark of its byte order. -/
def withoutMark (content : String) : String :=
  match content.toList with
  | c :: rest => if c.toNat == 0xFEFF then String.ofList rest else content
  | [] => content

/-- The paths that a path without an extension may stand for, with their formats. -/
def completions (folder : Folder) (path : String) : List (String × Format) :=
  match Folder.lastName? (folder.named path) with
  | some (path, _) =>
    Format.all.flatMap fun format =>
      format.extensions.map fun extension => (path ++ "." ++ extension, format)
  | none => []

/-- The file that a path stands for, be it the path itself or the path with an extension: how it is
told, its format, its names and its text. -/
def locate (folder : Folder) (path : String) :
    Except SourceFault (String × Format × List String × String) :=
  match folder.look path with
  | .file names content =>
    let extension := (Folder.lastName? path).bind fun (_, name) => Folder.extension? name
    match Format.ofExtension? (extension.getD "") with
    | some format => .ok (folder.told path, format, names, content)
    | none => .error (.unknownFormat path)
  | _ =>
    let found := (completions folder path).findSome? fun (path, format) =>
      match folder.look path with
      | .file names content => some (folder.told path, format, names, content)
      | _ => none
    match found with
    | some file => .ok file
    | none => .error (.notFound path)

/-- How the file that a path stands for is told, its format and what is read from it. -/
def contentOf (folder : Folder) (path : String) : Except SourceFault (String × Format × String) :=
  (locate folder path).bind fun (origin, format, names, content) =>
    ((folder.read names content).mapError .unreadable).map fun content =>
      (origin, format, withoutMark content)

/-- The settings in the file that a path stands for. -/
def ofFile (readers : Readers) (folder : Folder) (path : String) : Except SourceFault Entries :=
  (contentOf folder path).bind fun (origin, format, content) =>
    ofText readers format (some origin) content

/-- The settings in the file that a path stands for; none if there is no file that can be read. -/
def ofOptionalFile (readers : Readers) (folder : Folder) (path : String) :
    Except SourceFault Entries :=
  match contentOf folder path with
  | .ok (origin, format, content) => ofText readers format (some origin) content
  | .error _ => .ok []

/-- Where settings from environment variables come from. -/
def environment : Option String := some "the environment"

/-- The setting that the value of an environment variable gives. -/
def ofVariable (value : String) : Setting :=
  match String.ofList (Text.toLower value.toList) with
  | "true" => .boolean environment true
  | "false" => .boolean environment false
  | _ =>
    match Decimal.readInt64 value.toList with
    | .ok n => .integer environment n
    | .error _ =>
      match Decimal.readDouble? value.toList with
      | some x => .double environment x
      | none => .text environment value

/-- How the names of environment variables with settings start. -/
def variableStart : List Char := "dispatch__".toList

/-- Double underscores in a name written as dots. -/
def dotted : List Char → List Char
  | '_' :: '_' :: rest => '.' :: dotted rest
  | c :: rest => c :: dotted rest
  | [] => []

/-- The address in the name of an environment variable, in lower case; other variables have none. -/
def variableKey? (name : String) : Option String :=
  let name := Text.toLower name.toList
  if variableStart.isPrefixOf name then
    some (String.ofList (dotted (name.drop variableStart.length)))
  else none

/-- The settings in environment variables. -/
def ofVariables (vars : List (String × String)) : Entries :=
  vars.filterMap fun (name, value) => (variableKey? name).map fun key => (key, ofVariable value)

/-- The settings of several sources, the later laid over the earlier, as one table. -/
def ofSources (sources : List Entries) : Setting :=
  .table none (sources.foldl layer [])

end Setting
end Switchboard
