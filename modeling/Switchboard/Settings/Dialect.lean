import Switchboard.Document.Record
import Switchboard.Settings.Value
import Switchboard.Text.Case

/-!
# Settings as a dialect

Records in a configuration are read leniently: where a text is wanted, flags and numbers are written
out, and where a flag is wanted, numbers and a few words will do.  A value that will not do is
reported with the keys that lead to it and with its origin.
-/

namespace Switchboard
namespace Setting

open Document (Found RecordFault Form)

/-- Why a setting cannot be read as the wanted one. -/
inductive Fault where
  /-- A value of the wrong type at an address, `path` being its spelling so far. -/
  | wrongValue (found : Found) (expected : String) (path : Option String) (origin : Option String)
  | wrongForm (found : Found) (expected : String)
  | unknownName (type name : String)
  | noName (type : String)
  | record (fault : RecordFault)
deriving DecidableEq, Repr

/-- The wording of a found setting. -/
def describe (found : Found) : String :=
  found.describe "unit value" Decimal.Layout.plain

def Fault.message : Fault → String
  | .wrongValue found expected path origin =>
    "invalid type: " ++ describe found ++ ", expected " ++ expected ++
      (match path with
      | some path => " for key `" ++ path ++ "`"
      | none => "") ++
      (match origin with
      | some origin => " in " ++ origin
      | none => "")
  | .wrongForm found expected => "invalid type: " ++ describe found ++ ", expected " ++ expected
  | .unknownName type name =>
    "enum " ++ type ++ " does not have variant constructor " ++ name
  | .noName type =>
    "value of enum " ++ type ++
      " should be represented by either string or table with exactly one key"
  | .record fault => fault.message

/-- A setting as a fault reports it. -/
def found : Setting → Found
  | .nothing _ => .nothing
  | .boolean _ value => .boolean value
  | .integer _ value => .integer value
  | .double _ value => .double value
  | .text _ value => .text value
  | .list _ _ => .sequence
  | .table _ _ => .map

/-- Where a setting came from. -/
def origin? : Setting → Option String
  | .nothing origin | .boolean origin _ | .integer origin _ | .double origin _ | .text origin _
  | .list origin _ | .table origin _ => origin

def readText : Setting → Except Fault String
  | .text _ value => .ok value
  | .boolean _ value => .ok (if value then "true" else "false")
  | .integer _ value => .ok (toString value)
  | .double _ value => .ok (Decimal.Layout.plain.render value)
  | setting => .error (.wrongValue setting.found "a string" none setting.origin?)

/-- The words for a flag. -/
def flagWord? (word : String) : Option Bool :=
  if ["1", "true", "on", "yes"].contains word then some true
  else if ["0", "false", "off", "no"].contains word then some false
  else none

/-- A flag; numbers other than zero count as set, and words in any case. -/
def readFlag : Setting → Except Fault Bool
  | .boolean _ value => .ok value
  | .integer _ value => .ok (value != 0)
  | .double _ value => .ok (!value.isZero)
  | .text origin value =>
    let word := String.ofList (Text.toLower value.toList)
    match flagWord? word with
    | some value => .ok value
    | none => .error (.wrongValue (.text word) "a boolean" none origin)
  | setting => .error (.wrongValue setting.found "a boolean" none setting.origin?)

def readNatural (limit : Nat) (type : String) : Setting → Except Fault Nat
  | .integer origin value =>
    if 0 ≤ value ∧ value ≤ limit then .ok value.toNat
    else .error (.wrongValue (.integer value) type none origin)
  | setting => .error (.wrongValue setting.found type none setting.origin?)

def readList : Setting → Except Fault (List Setting)
  | .list _ items => .ok items
  | setting => .error (.wrongForm setting.found "a sequence")

/-- A choice: its name, or a table with the name as its one key. -/
def readChoice (type : String) (names : List String) : Setting → Except Fault String
  | .text _ name | .table _ [(name, _)] =>
    if names.contains name then .ok name else .error (.unknownName type name)
  | _ => .error (.noName type)

/-- The entries or elements of a record. -/
def readForm (record : String) : Setting → Except Fault (Form Setting)
  | .table _ entries => .ok (.entries entries)
  | .list _ items => .ok (.elements items)
  | setting => .error (.wrongForm setting.found ("struct " ++ record))

/-- A fault seen from outside a step whose spelling is `step`. -/
def Fault.under (step : String) (dotted : Bool) : Fault → Fault
  | .wrongValue found expected path origin =>
    let inner := path.getD ""
    let dot := if dotted && !inner.isEmpty && inner.front != '[' then "." else ""
    .wrongValue found expected (some (step ++ dot ++ inner)) origin
  | fault => fault

/-- How a configuration presents records. -/
def dialect : Document.Dialect Setting Fault where
  text := readText
  flag := readFlag
  natural := readNatural
  isNothing
    | .nothing _ => true
    | _ => false
  list := readList
  choice := readChoice
  form := readForm
  closed := false
  fault := .record
  underKey key := .under key true
  underIndex index := .under ("[" ++ toString index ++ "]") false

end Setting
end Switchboard
