import Switchboard.Decimal.Binary64

/-!
# JSON values

A value of the data format: numbers are whole numbers of at most 64 binary digits or doubles, and
the fields of an object stand in the order in which they are written.  Reading a text gives objects
in ascending order of their keys, where a repeated key keeps the value that comes last.
-/

namespace Switchboard
namespace Json

/-- A JSON value. -/
inductive Value where
  | null
  | bool (value : Bool)
  | integer (value : Int)
  | double (value : Decimal.Binary64)
  | text (value : String)
  | array (items : List Value)
  | object (fields : List (String × Value))

/-- Null, for want of another value. -/
instance : Inhabited Value := ⟨.null⟩

/-- An entry put into a list of entries with ascending keys; an entry of the same key is
replaced. -/
def insertKey {α : Type} (key : String) (value : α) : List (String × α) → List (String × α)
  | [] => [(key, value)]
  | (other, old) :: rest =>
    if key = other then (key, value) :: rest
    else if key < other then (key, value) :: (other, old) :: rest
    else (other, old) :: insertKey key value rest

/-- The entries in ascending order of their keys, the last one of each key. -/
def ordered {α : Type} (entries : List (String × α)) : List (String × α) :=
  entries.foldl (fun sorted entry => insertKey entry.1 entry.2 sorted) []

/-- The field of an object, if the value is an object and has it. -/
def Value.field? (key : String) : Value → Option Value
  | .object fields => (fields.find? (·.1 == key)).map (·.2)
  | _ => none

/-- A text, or null. -/
def Value.ofText? : Option String → Value
  | some s => .text s
  | none => .null

end Json
end Switchboard
