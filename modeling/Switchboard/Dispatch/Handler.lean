import Switchboard.Dispatch.Activity
import Switchboard.Dispatch.Resolver
import Switchboard.Dispatch.Validation
import Switchboard.Endpoint.Declaration
import Switchboard.Http.FormDialect
import Switchboard.Json.Dialect

/-!
# Handlers

A handler takes one type of request.  Its parameters are the request, at any place, services that
are resolved for each call, the token by which the call can be cancelled, and whatever else anybody
can say how to draw from a scope.  Arguments are drawn in the order of the parameters, and the first
that fails ends the resolution.
-/

namespace Switchboard
namespace Dispatch

/-- A token by which calls can be cancelled. -/
abbrev Token := Nat

/-- A type of request with contents `ρ`: its name, how it is read, and the hook that validates it,
which may refuse a request without naming an error. -/
structure RequestType (ρ : Type) where
  name : String
  ofJson : Json.Value → Except Json.Fault ρ
  ofForm : Http.FormValue → Except Http.FormFault ρ
  validate : ρ → Except (List FieldError) Unit

/-- A request: the name of its type, and its contents. -/
structure Request (ρ : Type) where
  type : String
  contents : ρ
deriving DecidableEq, Repr

/-- What a handler is given in one place. -/
inductive Argument (ρ ι : Type) where
  | request (contents : ρ)
  | service (value : ι)
  | token (token : Token)
deriving DecidableEq, Repr

/-- What a handler asks for in one place. -/
inductive Parameter (σ ρ ι : Type) where
  | request
  | service (type : String)
  | token
  /-- An argument of a type that says by itself which services it needs and, apart from that, how it
  is drawn in a call with a token. -/
  | custom (needs : List String) (draw : Token → Resolver σ ι (Argument ρ ι))

namespace Parameter

variable {σ ρ ι : Type}

/-- The services that a parameter is said to need. -/
def dependencies : Parameter σ ρ ι → List String
  | .service type => [type]
  | .custom needs _ => needs
  | .request | .token => []

def isRequest : Parameter σ ρ ι → Bool
  | .request => true
  | _ => false

/-- How the argument for a parameter is drawn in a call with these contents and this token. -/
def resolver (contents : ρ) (token : Token) : Parameter σ ρ ι → Resolver σ ι (Argument ρ ι)
  | .request => .done (.ok (.request contents))
  | .service type => .ask type fun found => .done (found.map .service)
  | .token => .done (.ok (.token token))
  | .custom _ draw => draw token

end Parameter

/-- The result of a handler: a value, or its failure. -/
abbrev Outcome := Except Failure Json.Value

/-- A handler with the type of request it takes and the name of its response type. -/
structure Handler (σ ρ ι : Type) where
  request : RequestType ρ
  response : String
  /-- A command has no result and a query has one. -/
  kind : Endpoint.Kind
  parameters : List (Parameter σ ρ ι)
  run : List (Argument ρ ι) → Activity σ Outcome

namespace Handler

variable {σ ρ ι : Type}

/-- The services that a handler depends on, in the order of its parameters. -/
def dependencies (handler : Handler σ ρ ι) : List String :=
  handler.parameters.flatMap (·.dependencies)

def arity (handler : Handler σ ρ ι) : Nat :=
  handler.parameters.length

/-- The place of the request among the parameters. -/
def requestPosition? (handler : Handler σ ρ ι) : Option Nat :=
  handler.parameters.findIdx? (·.isRequest)

/-- What the handler does with a request once it has its arguments; a request of another type is not
taken. -/
def handle (handler : Handler σ ρ ι) (request : Request ρ) (arguments : List (Argument ρ ι)) :
    Option (Activity σ Outcome) :=
  if request.type = handler.request.name then some (handler.run arguments) else none

end Handler

/-- The argument for one parameter. -/
def resolveOne {σ κ ρ ι : Type} (provider : Provider σ κ ι) (contents : ρ) (token : Token)
    (parameter : Parameter σ ρ ι) : κ → σ → Except ResolveError (Argument ρ ι) × κ × σ :=
  (parameter.resolver contents token).run provider

/-- The arguments for parameters in their order, up to the first that cannot be resolved. -/
def resolveAll {σ κ ρ ι : Type} (provider : Provider σ κ ι) (contents : ρ) (token : Token) :
    List (Parameter σ ρ ι) → κ → σ → Except ResolveError (List (Argument ρ ι)) × κ × σ
  | [], scope, state => (.ok [], scope, state)
  | parameter :: rest, scope, state =>
    match resolveOne provider contents token parameter scope state with
    | (.error cause, scope, state) => (.error cause, scope, state)
    | (.ok first, scope, state) =>
      let (others, scope, state) := resolveAll provider contents token rest scope state
      (others.map (first :: ·), scope, state)

end Dispatch
end Switchboard
