import Switchboard.Catalogue.Writing
import Switchboard.Configuration
import Switchboard.Manifest
import Switchboard.Settings.VariableFile

/-!
# The command line

One run reads the configuration, loads the manifest that it names, compiles it and delivers the
catalogue: to a file, or else to the standard output.  Whatever fails, nothing is delivered.  Every
part of a run writes events to a log, and so it says what is wrong with declarations.
-/

namespace Switchboard
namespace CommandLine

/-- Environment variables with their values. -/
abbrev Variables := List (String × String)

/-- Why a run delivers nothing. -/
inductive Failure where
  | configuration (fault : Setting.SourceFault)
  | manifest (fault : Setting.SourceFault)
  | invalid (diagnostics : List Catalogue.Diagnostic)
  | unwritten (path : String) (fault : Folder.WriteFault)
deriving DecidableEq, Repr

/-- The wording of a failed write. -/
def unwrittenMessage (path cause : String) : String :=
  "Failed to write " ++ path ++ "\n\nCaused by:\n    " ++ cause

namespace Failure

def message : Failure → String
  | .configuration fault => "Configuration error: " ++ fault.message
  | .manifest fault => "Manifest error: " ++ fault.message
  | .invalid diagnostics =>
    toString diagnostics.length ++ " invalid endpoint declaration(s), nothing generated"
  | .unwritten path fault => unwrittenMessage path fault.message

/-- Whether the run breaks off without a message. -/
def isBreak : Failure → Bool
  | .configuration .foreignKey | .manifest .foreignKey => true
  | _ => false

end Failure

/-! ### The log -/

/-- How grave an event is. -/
inductive Level where
  | debug
  | info
  | warn
  | error
deriving DecidableEq, Repr

def Level.name : Level → String
  | .debug => "DEBUG"
  | .info => "INFO"
  | .warn => "WARN"
  | .error => "ERROR"

/-- Whether events of a level are shown where no other filter is asked for. -/
def Level.isShown : Level → Bool
  | .debug => false
  | _ => true

/-- An event of a run. -/
inductive Event where
  | started
  | notConfigured (fault : Setting.SourceFault)
  | configured (configuration : Configuration)
  | notLoaded (fault : Setting.SourceFault)
  | loaded (path : String) (endpoints : Nat)
  | entryCompiled (entry : Catalogue.Entry)
  | notCompiled (declarations diagnostics : Nat)
  | compiled (controllers endpoints : Nat)
  | invalid (diagnostic : Catalogue.Diagnostic)
  | written (path : String) (endpoints : Nat)
deriving DecidableEq, Repr

namespace Event

def level : Event → Level
  | .loaded .. | .entryCompiled _ => .debug
  | .started | .configured _ | .compiled .. | .written .. => .info
  | .notCompiled .. => .warn
  | .notConfigured _ | .notLoaded _ | .invalid _ => .error

def message : Event → String
  | .started => "Starting Dispatch Endpoints v0.1.0"
  | .notConfigured _ => "Failed to load configuration"
  | .configured _ => "Configuration loaded"
  | .notLoaded _ => "Failed to load manifest"
  | .loaded .. => "Manifest loaded"
  | .entryCompiled _ => "Endpoint compiled"
  | .notCompiled .. => "Endpoint compilation failed"
  | .compiled .. => "Endpoints compiled"
  | .invalid _ => "Invalid endpoint declaration"
  | .written .. => "Catalogue written"

/-- The diagnostic that an event reports. -/
def diagnostic? : Event → Option Catalogue.Diagnostic
  | .invalid diagnostic => some diagnostic
  | _ => none

end Event

/-- The diagnostics that are reported by the events of a log that are shown. -/
def shownDiagnostics (log : List Event) : List Catalogue.Diagnostic :=
  (log.filter (·.level.isShown)).filterMap Event.diagnostic?

/-! ### The parts of a run -/

/-- What a part of a run writes to the log, and what it comes to. -/
structure Outcome (α : Type) where
  log : List Event
  result : Except Failure α

/-- One part, and the next with what the first one comes to. -/
def Outcome.andThen {α β : Type} (outcome : Outcome α) (next : α → Outcome β) : Outcome β :=
  match outcome.result with
  | .error failure => ⟨outcome.log, .error failure⟩
  | .ok a => ⟨outcome.log ++ (next a).log, (next a).result⟩

/-- A part that fails and says why, unless it breaks off. -/
def Outcome.failing {α : Type} (failure : Failure) (event : Event) : Outcome α :=
  ⟨if failure.isBreak then [] else [event], .error failure⟩

/-- The file of environment variables. -/
def variableFile : String := ".env"

/-- The environment variables, with those added that the nearest file of variables sets.  If it
cannot be read, none are added. -/
def variablesIn (folder : Folder) (vars : Variables) : Variables :=
  let found := (folder.nearest? variableFile folder.here.reverse).bind fun (names, text) =>
    (folder.read names text).toOption
  match found with
  | some content => VariableFile.load vars (Setting.withoutMark content)
  | none => vars

/-- The configuration of a run. -/
def configure (readers : Setting.Readers) (folder : Folder) (vars : Variables) :
    Outcome Configuration :=
  match Configuration.load readers folder (variablesIn folder vars) with
  | .error fault => .failing (.configuration fault) (.notConfigured fault)
  | .ok configuration => ⟨[.configured configuration], .ok configuration⟩

/-- The manifest of a run. -/
def loadManifest (readers : Setting.Readers) (folder : Folder) (path : String) : Outcome Manifest :=
  match Manifest.load readers folder path with
  | .error fault => .failing (.manifest fault) (.notLoaded fault)
  | .ok manifest => ⟨[.loaded path manifest.endpoints.length], .ok manifest⟩

/-- What compiling declarations writes to the log: the declarations that are valid alone, and then
what it comes to. -/
def compileLog (routePrefix : String) (declarations : List Endpoint.Declaration) : List Event :=
  (Catalogue.compileEach routePrefix declarations).2.map Event.entryCompiled ++
    match Catalogue.compile routePrefix declarations with
    | .error diagnostics => [.notCompiled declarations.length diagnostics.length]
    | .ok catalogue => [.compiled catalogue.controllers.length catalogue.size]

/-- The catalogue of a run. -/
def compileManifest (configuration : Configuration) (manifest : Manifest) : Outcome Catalogue :=
  let log := compileLog (configuration.compiler.routePrefix.getD "") manifest.endpoints
  match configuration.compile manifest.endpoints with
  | .error diagnostics => ⟨log ++ diagnostics.map Event.invalid, .error (.invalid diagnostics)⟩
  | .ok catalogue => ⟨log, .ok catalogue⟩

/-- The catalogue under a configuration, before anything is written. -/
def generate (readers : Setting.Readers) (folder : Folder) (configuration : Configuration) :
    Outcome Catalogue :=
  (loadManifest readers folder configuration.compiler.manifest).andThen
    (compileManifest configuration)

/-- The standard output and the files of a run once its catalogue is delivered. -/
def deliver (folder : Folder) (output : OutputSettings) (catalogue : Catalogue) :
    Outcome (String × Folder) :=
  let text := catalogue.render output.pretty
  match output.path with
  | none => ⟨[], .ok (text ++ "\n", folder)⟩
  | some path =>
    match folder.target path with
    | .error fault => ⟨[], .error (.unwritten path fault)⟩
    | .ok names => ⟨[.written path catalogue.size], .ok ("", folder.put names text)⟩

/-! ### A run -/

/-- What a run leaves behind. -/
structure Report where
  exitCode : Nat
  output : String
  failure : Option Failure
  folder : Folder
  log : List Event

/-- The standard output and the files that a run comes to. -/
def perform (readers : Setting.Readers) (folder : Folder) (vars : Variables) :
    Outcome (String × Folder) :=
  (configure readers folder vars).andThen fun configuration =>
    (generate readers folder configuration).andThen (deliver folder configuration.output)

/-- A run in a folder. -/
def run (readers : Setting.Readers) (folder : Folder) (vars : Variables) : Report :=
  let log := .started :: (perform readers folder vars).log
  match (perform readers folder vars).result with
  | .error failure => ⟨if failure.isBreak then 101 else 1, "", some failure, folder, log⟩
  | .ok (output, folder) => ⟨0, output, none, folder, log⟩

end CommandLine
end Switchboard
