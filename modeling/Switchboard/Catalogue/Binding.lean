import Switchboard.Catalogue.Contract

/-!
# Route bindings

How an endpoint is exposed: its controller and action, the method and path, where the request is
read from, the statuses, and whether callers must be authorized.
-/

namespace Switchboard
namespace Catalogue

open Endpoint (Method Status)

/-- Where a request is read from. -/
inductive Source where
  | body
  | query
deriving DecidableEq, Repr

/-- Who may call an endpoint. -/
inductive Access where
  | anonymous
  | required (policy : Option String)
deriving DecidableEq, Repr

/-- Whether callers must be authorized. -/
def Access.isRequired : Access → Bool
  | .anonymous => false
  | .required _ => true

/-- The policy under which callers are authorized. -/
def Access.policy? : Access → Option String
  | .anonymous => none
  | .required policy => policy

/-- The route of one endpoint. -/
structure Binding where
  endpoint : String
  controller : String
  controllerRoute : String
  /-- The part of the path below the controller, if there is one. -/
  action : Option String
  method : Method
  path : String
  source : Source
  success : Status
  otherStatuses : List Status
  /-- The type of the answer's body, if the handler produces a value. -/
  responseBody : Option String
  access : Access
  contract : ContractId
deriving DecidableEq, Repr

/-- Whether a successful answer carries the handler's value. -/
def Binding.returnsBody (binding : Binding) : Bool :=
  binding.responseBody.isSome && binding.success.allowsBody

end Catalogue
end Switchboard
