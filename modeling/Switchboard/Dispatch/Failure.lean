import Switchboard.Text.Split

/-!
# Failures

What can go wrong with a call: no handler takes the request, the handler's dependencies cannot be
resolved, the call is cancelled, or the handler itself fails.  A handler that fails with a rejection
has chosen what its caller is told; the rejection is found through any context put around it.
-/

namespace Switchboard
namespace Dispatch

/-- A failure that a handler reports to the caller. -/
inductive Rejection where
  | badRequest (reason : String)
  | unauthorized (reason : String)
  | notFound (what : String)
deriving DecidableEq, Repr

def Rejection.message : Rejection → String
  | .badRequest reason => "Invalid request: " ++ reason
  | .unauthorized reason => "Unauthorized: " ++ reason
  | .notFound what => "Resource not found: " ++ what

/-- The failure of a handler: a rejection, an error of a named type, a text, or a failure in a
context. -/
inductive Failure where
  | rejected (rejection : Rejection)
  | named (type text : String)
  | plain (text : String)
  | inContext (context : String) (cause : Failure)
deriving DecidableEq, Repr

/-- The wording of a failure; a context hides its cause. -/
def Failure.message : Failure → String
  | .rejected rejection => rejection.message
  | .named _ text => text
  | .plain text => text
  | .inContext context _ => context

/-- The rejection in a failure, below any context. -/
def Failure.rejection? : Failure → Option Rejection
  | .rejected rejection => some rejection
  | .inContext _ cause => cause.rejection?
  | _ => none

/-- The type of the named error in a failure, below any context. -/
def Failure.errorType? : Failure → Option String
  | .named type _ => some type
  | .inContext _ cause => cause.errorType?
  | _ => none

/-- Why a dependency was not resolved. -/
inductive ResolveError where
  | missing (service : String)
  | mismatch (service : String)
deriving DecidableEq, Repr

def ResolveError.message : ResolveError → String
  | .missing service => "No service registered for " ++ service
  | .mismatch service => "Service registered for " ++ service ++ " has a different type"

/-- Why a call did not end with a value. -/
inductive DispatchError where
  | noHandler (request : String)
  | cancelled (request : String)
  | unresolved (request : String) (cause : ResolveError)
  | failed (failure : Failure)
deriving DecidableEq, Repr

/-- The wording of an error; the failure of a handler speaks for itself. -/
def DispatchError.message : DispatchError → String
  | .noHandler request => "No handler registered for " ++ request
  | .cancelled request => "Dispatch of " ++ request ++ " was cancelled"
  | .unresolved request cause =>
    "Could not resolve handler for " ++ request ++ ": " ++ cause.message
  | .failed failure => failure.message

/-- Whether the call was cancelled. -/
def DispatchError.isCancelled : DispatchError → Bool
  | .cancelled _ => true
  | _ => false

/-- Whether the handler failed. -/
def DispatchError.isHandlerFailure : DispatchError → Bool
  | .failed _ => true
  | _ => false

end Dispatch
end Switchboard
