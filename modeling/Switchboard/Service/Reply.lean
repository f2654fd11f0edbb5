import Switchboard.Dispatch.Mediator
import Switchboard.Http.Message

/-!
# Replies

The responses that stand for errors.  A rejection is told to the caller as it is; of any other failure
inside the service nothing is told but that there was one.
-/

namespace Switchboard
namespace Service

open Dispatch (DispatchError FieldError Rejection)
open Http (Response)

/-- What callers are told about a failure that is none of their business. -/
def internalText : String := "An internal error occurred"

/-- The status of a call whose caller went away. -/
def closedStatus : Nat := 499

/-- The status and the code of a rejection. -/
def rejectionCode : Rejection → Nat × String
  | .badRequest _ => (400, "BAD_REQUEST")
  | .unauthorized _ => (401, "UNAUTHORIZED")
  | .notFound _ => (404, "NOT_FOUND")

/-- The response to a call that ended with an error. -/
def errorResponse (error : DispatchError) : Response :=
  match error with
  | .noHandler _ => .failure 500 internalText "NO_HANDLER"
  | .unresolved _ _ => .failure 500 internalText "UNRESOLVED"
  | .cancelled _ => .failure closedStatus error.message "CANCELLED"
  | .failed failure =>
    match failure.rejection? with
    | some rejection =>
      let (status, code) := rejectionCode rejection
      .failure status rejection.message code
    | none => .failure 500 internalText "HANDLER_FAILURE"

/-- The response to a request that is not valid. -/
def invalidResponse (errors : List FieldError) : Response :=
  .json 400 (.object [("error", .text "Request validation failed"),
    ("code", .text "VALIDATION_FAILED"), ("details", Dispatch.errorsToJson errors)])

end Service
end Switchboard
