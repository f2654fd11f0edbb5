import Switchboard.Settings.Value
import Switchboard.Toml.Document

/-!
# Settings in TOML

A TOML document as settings: the tables of a list stand in the order of their headers.
-/

namespace Switchboard
namespace Toml

mutual

/-- An item as a setting of the given origin. -/
def toSetting (origin : Option String) : Item → Setting
  | .text value => .text origin value
  | .integer value => .integer origin value
  | .double value => .double origin value
  | .boolean value => .boolean origin value
  | .list items => .list origin (toSettings origin items)
  | .table _ entries => .table origin (Json.ordered (toEntries origin entries))
  | .tables elements => .list origin (toTables origin elements).reverse

/-- Items as settings. -/
def toSettings (origin : Option String) : List Item → List Setting
  | [] => []
  | item :: rest => toSetting origin item :: toSettings origin rest

/-- Entries as settings. -/
def toEntries (origin : Option String) : List (String × Item) → List (String × Setting)
  | [] => []
  | (key, item) :: rest => (key, toSetting origin item) :: toEntries origin rest

/-- Tables as settings. -/
def toTables (origin : Option String) : List (List (String × Item)) → List Setting
  | [] => []
  | entries :: rest =>
    .table origin (Json.ordered (toEntries origin entries)) :: toTables origin rest

end

/-- The entries that a text holds, if it can be read. -/
def readSettings? (origin : Option String) (text : String) :
    Option (List (String × Setting)) :=
  (document? text).map fun entries => Json.ordered (toEntries origin entries)

end Toml
end Switchboard
