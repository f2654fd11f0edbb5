import Switchboard.Decimal.Reading
import Switchboard.Document.Record
import Switchboard.Http.Form

/-!
# Form data as a dialect

Records in form data: the pairs are the entries of one record, and every value is a text, from which
flags and numbers are read.  Lists, choices and records inside a record cannot be written.
-/

namespace Switchboard
namespace Http

open Document (RecordFault)

/-- Form data, or a value in it. -/
inductive FormValue where
  | pairs (pairs : List (String × String))
  | text (value : String)
deriving DecidableEq, Repr

/-- Why form data cannot be read as the wanted record. -/
inductive FormFault where
  | integer (fault : Decimal.IntegerFault)
  | flag
  | unsupported
  | record (fault : RecordFault)
deriving DecidableEq, Repr

def FormFault.message : FormFault → String
  | .integer fault => fault.message
  | .flag => "provided string was not `true` or `false`"
  | .unsupported => "unsupported value"
  | .record fault => fault.message

/-- The text of a value. -/
def FormValue.read : FormValue → Except FormFault String
  | .text value => .ok value
  | .pairs _ => .error .unsupported

def readFlag (value : FormValue) : Except FormFault Bool :=
  value.read.bind fun text =>
    if text == "true" then .ok true else if text == "false" then .ok false else .error .flag

def readNatural (limit : Nat) (value : FormValue) : Except FormFault Nat :=
  value.read.bind fun text => (Decimal.readNat limit text.toList).mapError .integer

/-- How form data presents records. -/
def formDialect : Document.Dialect FormValue FormFault where
  text := FormValue.read
  flag := readFlag
  natural limit _ := readNatural limit
  isNothing _ := false
  list _ := .error .unsupported
  choice _ _ _ := .error .unsupported
  form _
    | .pairs pairs => .ok (.entries (pairs.map fun (name, value) => (name, .text value)))
    | .text _ => .error .unsupported
  closed := false
  fault := .record
  underKey _ e := e
  underIndex _ e := e

end Http
end Switchboard
