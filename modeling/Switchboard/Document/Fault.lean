import Switchboard.Decimal.Layout
import Switchboard.Text.Shown
import Switchboard.Text.Split

/-!
# Faults of a document

What can be wrong with a document that should hold a record: a value of the wrong kind, and faults
in how a record is put together.  Documents of different formats share these causes.
-/

namespace Switchboard
namespace Document

/-- A value as a fault reports it. -/
inductive Found where
  | nothing
  | boolean (value : Bool)
  | integer (value : Int)
  | double (value : Decimal.Binary64)
  | text (value : String)
  | sequence
  | map
deriving DecidableEq, Repr

/-- The wording of a found value, with a format's name for nothing and its layout of doubles. -/
def Found.describe (nothing : String) (layout : Decimal.Layout) : Found → String
  | .nothing => nothing
  | .boolean value => "boolean `" ++ (if value then "true" else "false") ++ "`"
  | .integer value => "integer `" ++ toString value ++ "`"
  | .double value => "floating point `" ++ layout.render value ++ "`"
  | .text value => "string " ++ Text.shown value
  | .sequence => "sequence"
  | .map => "map"

/-- What can be wrong with the make-up of a record. -/
inductive RecordFault where
  | missingField (name : String)
  | duplicateField (name : String)
  | tooFew (length : Nat) (record : String) (size : Nat)
  | tooMany (length : Nat)
deriving DecidableEq, Repr

def RecordFault.message : RecordFault → String
  | .missingField name => "missing field `" ++ name ++ "`"
  | .duplicateField name => "duplicate field `" ++ name ++ "`"
  | .tooFew length record size =>
    "invalid length " ++ toString length ++ ", expected struct " ++ record ++ " with " ++
      toString size ++ (if size = 1 then " element" else " elements")
  | .tooMany length =>
    "invalid length " ++ toString length ++ ", expected fewer elements in array"

/-- A choice between names in a message. -/
def oneOf (names : List String) : String :=
  match names.map fun name => "`" ++ name ++ "`" with
  | [] => "nothing"
  | [name] => name
  | [first, second] => first ++ " or " ++ second
  | names => "one of " ++ Text.listed ", " names

end Document
end Switchboard
