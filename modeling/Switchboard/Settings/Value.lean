import Switchboard.Json.Value

/-!
# Settings

A setting is a value of a configuration: it knows the source it came from, if it came from one.  The
entries of a table stand in ascending order of their keys.
-/

namespace Switchboard

/-- A value of a configuration with its origin. -/
inductive Setting where
  | nothing (origin : Option String)
  | boolean (origin : Option String) (value : Bool)
  | integer (origin : Option String) (value : Int)
  | double (origin : Option String) (value : Decimal.Binary64)
  | text (origin : Option String) (value : String)
  | list (origin : Option String) (items : List Setting)
  | table (origin : Option String) (entries : List (String × Setting))

namespace Setting

/-- Nothing, for want of another setting. -/
instance : Inhabited Setting := ⟨.nothing none⟩

/-- The entries of a table; other settings have none. -/
def entries : Setting → List (String × Setting)
  | .table _ entries => entries
  | _ => []

/-- The value of a key. -/
def find? (key : String) (entries : List (String × Setting)) : Option Setting :=
  (entries.find? (·.1 == key)).map (·.2)

mutual

/-- A JSON value as a setting of the given origin; whole numbers beyond 64 signed binary digits
become doubles. -/
def ofJson (origin : Option String) : Json.Value → Setting
  | .null => .nothing origin
  | .bool value => .boolean origin value
  | .integer value =>
    if value < 0x8000000000000000 then .integer origin value else .double origin (.ofInt value)
  | .double value => .double origin value
  | .text value => .text origin value
  | .array items => .list origin (ofJsonItems origin items)
  | .object fields => .table origin (ofJsonFields origin fields)

/-- The elements of an array as settings. -/
def ofJsonItems (origin : Option String) : List Json.Value → List Setting
  | [] => []
  | item :: rest => ofJson origin item :: ofJsonItems origin rest

/-- The fields of an object as settings. -/
def ofJsonFields (origin : Option String) : List (String × Json.Value) → List (String × Setting)
  | [] => []
  | (key, value) :: rest => (key, ofJson origin value) :: ofJsonFields origin rest

end

end Setting
end Switchboard
