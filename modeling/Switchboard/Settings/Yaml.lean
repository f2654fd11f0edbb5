import Switchboard.Settings.Value
import Switchboard.Yaml.Node

/-!
# Settings in YAML

A YAML document as settings: its tables have texts and whole numbers as keys, of a repeated key the
last value counts, and what is unreadable stands for nothing.
-/

namespace Switchboard
namespace Yaml

/-- Why a text gives no settings. -/
inductive Fault where
  | malformed
  /-- A key that is neither a text nor a whole number. -/
  | foreignKey
deriving DecidableEq, Repr

/-- The name that a key gives. -/
def Node.name? : Node → Option String
  | .text value => some value
  | .integer value => some (toString value)
  | _ => none

/-- Whether two nodes are the same text or the same whole number. -/
def Node.isSameKey : Node → Node → Bool
  | .text a, .text b => a == b
  | .integer a, .integer b => a == b
  | _, _ => false

mutual

/-- A node as a setting of the given origin. -/
def toSetting (origin : Option String) : Node → Except Fault Setting
  | .null | .unreadable => .ok (.nothing origin)
  | .bool value => .ok (.boolean origin value)
  | .integer value => .ok (.integer origin value)
  | .real spelling =>
    match Decimal.readDouble? spelling.toList with
    | some value => .ok (.double origin value)
    | none => .error .malformed
  | .text value => .ok (.text origin value)
  | .list items => (toSettings origin items).map (.list origin)
  | .table entries =>
    (toEntries origin entries).map fun entries => .table origin (Json.ordered entries)

/-- Nodes as settings. -/
def toSettings (origin : Option String) : List Node → Except Fault (List Setting)
  | [] => .ok []
  | node :: rest =>
    (toSetting origin node).bind fun first =>
      (toSettings origin rest).map fun rest => first :: rest

/-- The entries of a table as settings; those that come again later are left out. -/
def toEntries (origin : Option String) :
    List (Node × Node) → Except Fault (List (String × Setting))
  | [] => .ok []
  | (key, value) :: rest =>
    if rest.any fun entry => key.isSameKey entry.1 then toEntries origin rest
    else
      match key.name? with
      | none => .error .foreignKey
      | some name =>
        (toSetting origin value).bind fun first =>
          (toEntries origin rest).map fun rest => (name, first) :: rest

end

/-- The entries of the table that a text holds; anything else holds none. -/
def readSettings (origin : Option String) (text : String) :
    Except Fault (List (String × Setting)) :=
  match document? text with
  | none => .error .malformed
  | some none => .ok []
  | some (some node) => (toSetting origin node).map Setting.entries

end Yaml
end Switchboard
