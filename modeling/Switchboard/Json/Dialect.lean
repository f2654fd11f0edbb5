import Switchboard.Document.Record
import Switchboard.Json.Value

/-!
# JSON as a dialect

Records in JSON are read strictly: a value must have the wanted kind, nothing but null stands for an
absent value, and the entries of an object are taken in the order of their keys.
-/

namespace Switchboard
namespace Json

open Document (Found RecordFault Form)

/-- Why a JSON value cannot be read as the wanted one. -/
inductive Fault where
  | wrongType (found : Found) (expected : String)
  | wrongValue (found : Found) (expected : String)
  | unknownName (name : String) (names : List String)
  | record (fault : RecordFault)
deriving DecidableEq, Repr

/-- The wording of a found JSON value. -/
def describe (found : Found) : String :=
  found.describe "null" Decimal.Layout.json

def Fault.message : Fault → String
  | .wrongType found expected => "invalid type: " ++ describe found ++ ", expected " ++ expected
  | .wrongValue found expected => "invalid value: " ++ describe found ++ ", expected " ++ expected
  | .unknownName name names => "unknown variant `" ++ name ++ "`, expected " ++ Document.oneOf names
  | .record fault => fault.message

/-- A value as a fault reports it. -/
def Value.found : Value → Found
  | .null => .nothing
  | .bool value => .boolean value
  | .integer value => .integer value
  | .double value => .double value
  | .text value => .text value
  | .array _ => .sequence
  | .object _ => .map

def readText : Value → Except Fault String
  | .text value => .ok value
  | value => .error (.wrongType value.found "a string")

def readFlag : Value → Except Fault Bool
  | .bool value => .ok value
  | value => .error (.wrongType value.found "a boolean")

def readNatural (limit : Nat) (type : String) : Value → Except Fault Nat
  | .integer value =>
    if 0 ≤ value ∧ value ≤ limit then .ok value.toNat
    else .error (.wrongValue (.integer value) type)
  | value => .error (.wrongType value.found type)

def readList : Value → Except Fault (List Value)
  | .array values => .ok values
  | value => .error (.wrongType value.found "a sequence")

def readName (names : List String) (name : String) : Except Fault String :=
  if names.contains name then .ok name else .error (.unknownName name names)

/-- A choice: its name, or an object with the name as its one key and nothing in it. -/
def readChoice (names : List String) : Value → Except Fault String
  | .text name => readName names name
  | .object [(name, content)] =>
    (readName names name).bind fun name =>
      match content with
      | .null => .ok name
      | content => .error (.wrongType content.found "unit")
  | .object _ => .error (.wrongValue .map "map with a single key")
  | value => .error (.wrongType value.found "string or map")

/-- The entries or elements of a record. -/
def readForm (record : String) : Value → Except Fault (Form Value)
  | .object fields => .ok (.entries fields)
  | .array values => .ok (.elements values)
  | value => .error (.wrongType value.found ("struct " ++ record))

/-- How JSON presents records. -/
def dialect : Document.Dialect Value Fault where
  text := readText
  flag := readFlag
  natural := readNatural
  isNothing
    | .null => true
    | _ => false
  list := readList
  choice _ := readChoice
  form := readForm
  closed := true
  fault := .record
  underKey _ e := e
  underIndex _ e := e

end Json
end Switchboard
