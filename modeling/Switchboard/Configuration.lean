import Switchboard.Catalogue.Compile
import Switchboard.Settings.Source

/-!
# Configuration

What the command line is configured with: the manifest to compile, the prefix of every route, where
the catalogue goes and how it is laid out.  Environment variables win over the local file, which wins
over the default file, key by key; each key has a built-in default.
-/

namespace Switchboard

open Document (Dialect Field readDraft)

/-- What is compiled, and how. -/
structure CompilerSettings where
  manifest : String := "endpoints.yaml"
  routePrefix : Option String := none
deriving DecidableEq, Repr

/-- Where the catalogue goes: to a file, or else to the standard output. -/
structure OutputSettings where
  pretty : Bool := true
  path : Option String := none
deriving DecidableEq, Repr

/-- A configuration. -/
structure Configuration where
  compiler : CompilerSettings := {}
  output : OutputSettings := {}
deriving DecidableEq, Repr

variable {V ε : Type}

/-- Compiler settings that are being read. -/
structure CompilerSettings.Draft where
  manifest : Option String := none
  routePrefix : Option (Option String) := none

def CompilerSettings.fields (dialect : Dialect V ε) : List (Field V ε CompilerSettings.Draft) :=
  [.of "manifest" true (·.manifest) (fun a draft => { draft with manifest := some a })
      dialect.text,
    .of "route_prefix" true (·.routePrefix) (fun a draft => { draft with routePrefix := some a })
      (dialect.optional dialect.text)]

def CompilerSettings.read (dialect : Dialect V ε) (value : V) : Except ε CompilerSettings :=
  (readDraft dialect "CompilerConfig" (CompilerSettings.fields dialect) {} value).map fun draft =>
    { manifest := draft.manifest.getD "endpoints.yaml"
      routePrefix := draft.routePrefix.getD none }

/-- Output settings that are being read. -/
structure OutputSettings.Draft where
  pretty : Option Bool := none
  path : Option (Option String) := none

def OutputSettings.fields (dialect : Dialect V ε) : List (Field V ε OutputSettings.Draft) :=
  [.of "pretty" true (·.pretty) (fun a draft => { draft with pretty := some a }) dialect.flag,
    .of "path" true (·.path) (fun a draft => { draft with path := some a })
      (dialect.optional dialect.text)]

def OutputSettings.read (dialect : Dialect V ε) (value : V) : Except ε OutputSettings :=
  (readDraft dialect "OutputConfig" (OutputSettings.fields dialect) {} value).map fun draft =>
    { pretty := draft.pretty.getD true, path := draft.path.getD none }

namespace Configuration

/-- A configuration that is being read. -/
structure Draft where
  compiler : Option CompilerSettings := none
  output : Option OutputSettings := none

def fields (dialect : Dialect V ε) : List (Field V ε Draft) :=
  [.of "compiler" true (·.compiler) (fun a draft => { draft with compiler := some a })
      (CompilerSettings.read dialect),
    .of "output" true (·.output) (fun a draft => { draft with output := some a })
      (OutputSettings.read dialect)]

def read (dialect : Dialect V ε) (value : V) : Except ε Configuration :=
  (readDraft dialect "Config" (fields dialect) {} value).map fun draft =>
    { compiler := draft.compiler.getD {}, output := draft.output.getD {} }

/-- The files that a configuration is read from, without their extensions, the weakest first. -/
def files : List String := ["config/default", "config/local"]

/-- The configuration in the files of a folder and in environment variables. -/
def load (readers : Setting.Readers) (folder : Folder) (vars : List (String × String)) :
    Except Setting.SourceFault Configuration := do
  let sources ← files.mapM (Setting.ofOptionalFile readers folder)
  let settings := Setting.ofSources (sources ++ [Setting.ofVariables vars])
  (read Setting.dialect settings).mapError .unfit

/-- The catalogue of declarations under a configuration. -/
def compile (configuration : Configuration) (declarations : List Endpoint.Declaration) :
    Except (List Catalogue.Diagnostic) Catalogue :=
  Catalogue.compile (configuration.compiler.routePrefix.getD "") declarations

end Configuration
end Switchboard
