import Switchboard.Http.Router
import Switchboard.Service.Assembly
import Switchboard.Service.Input
import Switchboard.Service.Reply

/-!
# Handling requests

A request is routed to an endpoint.  If the endpoint asks for it, the gate looks at the headers
first.  Then the request is read and validated, and what is left is dispatched under a token of its
own.  Until then nothing in the service changes.
-/

namespace Switchboard
namespace Service

open Dispatch (Token)
open Http (Response Router)

/-- What the gate says. -/
inductive Decision where
  | allow
  | deny (reason : String)
deriving DecidableEq, Repr

/-- A gate decides by the headers of a request and the policy of its route. -/
abbrev Gate := Http.Headers → Option String → Decision

/-- What a service needs from where it runs: a gate, and a new token for each request. -/
structure Host (σ : Type) where
  gate : Gate
  newToken : σ → Token × σ

variable {σ κ ρ ι : Type}

/-- The decision about a request to a route; a route that anyone may call does not ask the gate. -/
def Host.decide (host : Host σ) (route : Catalogue.Binding) (headers : Http.Headers) : Decision :=
  match route.access with
  | .anonymous => .allow
  | .required policy => host.gate headers policy

/-- The response to a call that ended. -/
def answerResponse (route : Catalogue.Binding) (answer : Dispatch.Answer) : Response :=
  match answer with
  | .error error => errorResponse error
  | .ok value =>
    if route.returnsBody then .json route.success.code value else .empty route.success.code

/-- The contents of a request to a mounted route if it may be dispatched, else the response. -/
def accept (host : Host σ) (mount : Mount ρ) (request : Http.Request) : Except Response ρ :=
  match host.decide mount.route request.headers with
  | .deny reason => .error (.failure 401 reason "UNAUTHORIZED")
  | .allow =>
    match readContents mount.route mount.intake request with
    | .error fault => .error fault.response
    | .ok contents =>
      match mount.intake.validate contents with
      | .error errors => .error (invalidResponse errors)
      | .ok () => .ok contents

/-- The response of a mounted route, and the state afterwards. -/
def respond (service : Service σ κ ρ ι) (host : Host σ) (mount : Mount ρ)
    (request : Http.Request) (state : σ) : Response × σ :=
  match accept host mount request with
  | .error response => (response, state)
  | .ok contents =>
    let (token, state) := host.newToken state
    let (answer, _, state) :=
      service.mediator.dispatch ⟨mount.intake.name, contents⟩ token state
    (answerResponse mount.route answer, state)

/-- A mounted route as a router takes it. -/
def Mount.routed (mount : Mount ρ) : String × Endpoint.Method × Mount ρ :=
  (Route.mounted mount.route.path, mount.route.method, mount)

/-- The router of a service, if its paths have one. -/
def router? (service : Service σ κ ρ ι) : Option (Router (Mount ρ)) :=
  Router.build? (service.mounts.map Mount.routed)

/-- The response to a request, and the state afterwards. -/
def handle (service : Service σ κ ρ ι) (host : Host σ) (router : Router (Mount ρ))
    (request : Http.Request) (state : σ) : Response × σ :=
  match router.route request.method request.uri.path with
  | .nothing => (.empty 404, state)
  | .otherMethods methods => (.notAllowed (Http.allowText methods), state)
  | .found mount headOnly =>
    let (response, state) := service.respond host mount request state
    (if headOnly then response.withoutBody else response, state)

end Service
end Switchboard
