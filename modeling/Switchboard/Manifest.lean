import Switchboard.Endpoint.Reading
import Switchboard.Endpoint.Writing
import Switchboard.Settings.Source

/-!
# Manifests

A manifest lists endpoint declarations.  It is read from a file or a text in any format of settings,
and written as JSON.
-/

namespace Switchboard

open Endpoint (Declaration)
open Document (Dialect Field readDraft)

/-- A list of declarations. -/
structure Manifest where
  endpoints : List Declaration
deriving DecidableEq, Repr

namespace Manifest

/-- A manifest that is being read. -/
structure Draft where
  endpoints : Option (List Declaration) := none

variable {V ε : Type}

def fields (dialect : Dialect V ε) : List (Field V ε Draft) :=
  [.of "endpoints" true (·.endpoints) (fun a _ => { endpoints := some a })
    (dialect.listOf (Declaration.read dialect))]

def read (dialect : Dialect V ε) (value : V) : Except ε Manifest :=
  (readDraft dialect "Manifest" (fields dialect) {} value).map fun draft =>
    ⟨draft.endpoints.getD []⟩

/-- The manifest in the entries of one source. -/
def ofEntries (entries : Setting.Entries) : Except Setting.SourceFault Manifest :=
  (read Setting.dialect (Setting.ofSources [entries])).mapError .unfit

/-- The manifest in a text. -/
def parse (readers : Setting.Readers) (format : Setting.Format) (text : String) :
    Except Setting.SourceFault Manifest :=
  (Setting.ofText readers format none text).bind ofEntries

/-- The manifest in the file that a path stands for. -/
def load (readers : Setting.Readers) (folder : Folder) (path : String) :
    Except Setting.SourceFault Manifest :=
  (Setting.ofFile readers folder path).bind ofEntries

def toJson (manifest : Manifest) : Json.Value :=
  .object [("endpoints", .array (manifest.endpoints.map (·.toJson)))]

end Manifest
end Switchboard
