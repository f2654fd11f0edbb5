import Switchboard.Json.Value

/-!
# Validation

Before a request is dispatched its rules are checked.  Each rule that fails adds an error that names
the field and what is wrong with it; a request is valid if no rule fails.
-/

namespace Switchboard
namespace Dispatch

/-- A validation rule that failed. -/
structure FieldError where
  field : String
  message : String
deriving DecidableEq, Repr

/-- The error of a rule, if it fails. -/
def failing (fails : Bool) (field message : String) : List FieldError :=
  if fails then [⟨field, message⟩] else []

/-- The wording of failed rules together. -/
def validationMessage (errors : List FieldError) : String :=
  "request validation failed on " ++ toString errors.length ++ " field(s)"

/-- Nothing if no rule failed, else the errors. -/
def checkRules (errors : List FieldError) : Except (List FieldError) Unit :=
  match errors with
  | [] => .ok ()
  | errors => .error errors

def FieldError.toJson (error : FieldError) : Json.Value :=
  .object [("field", .text error.field), ("message", .text error.message)]

/-- Errors as JSON. -/
def errorsToJson (errors : List FieldError) : Json.Value :=
  .array (errors.map FieldError.toJson)

end Dispatch
end Switchboard
