import Switchboard.Endpoint.Declaration

/-!
# Contracts and plans

The contract of an endpoint names its request type and says what a handler hands back; the plan says
how the parameters of the handler are filled, each with the request or with a captured field.
-/

namespace Switchboard
namespace Catalogue

open Endpoint (Kind)

/-- The identity of a request contract. -/
structure ContractId where
  namespaceName : String
  endpoint : String
  kind : Kind
deriving DecidableEq, Repr

/-- The contract's name with its namespace in front, if it has one. -/
def ContractId.display (id : ContractId) : String :=
  if id.namespaceName.isEmpty then id.endpoint ++ "::" ++ id.kind.name
  else id.namespaceName ++ "::" ++ id.endpoint ++ "::" ++ id.kind.name

/-- The order of contracts: by namespace, then by endpoint, a command before a query. -/
def ContractId.isBefore (a b : ContractId) : Bool :=
  if a.namespaceName ≠ b.namespaceName then a.namespaceName < b.namespaceName
  else if a.endpoint ≠ b.endpoint then a.endpoint < b.endpoint
  else a.kind == .command && b.kind == .query

/-- What a handler hands back. -/
inductive Capability where
  | noResult
  | produces (type : String)
deriving DecidableEq, Repr

/-- What a message calls a handler without a result and one with a result. -/
def resultLabel (produces : Bool) : String :=
  if produces then "a produced value" else "no result"

/-- The result type, if there is a result. -/
def Capability.resultType? : Capability → Option String
  | .noResult => none
  | .produces type => some type

/-- What a message calls the capability. -/
def Capability.label (capability : Capability) : String :=
  resultLabel capability.resultType?.isSome

/-- The request contract of an endpoint. -/
structure Contract where
  id : ContractId
  typeName : String
  capability : Capability
  /-- The name of the validator, if requests are validated. -/
  validator : Option String
deriving DecidableEq, Repr

/-- A handler parameter other than the request. -/
structure CapturedField where
  name : String
  type : String
deriving DecidableEq, Repr

/-- What fills one parameter of a handler. -/
inductive Slot where
  | request
  | captured (field : Nat)
deriving DecidableEq, Repr

/-- How a handler is called: its captured fields, and a slot for each of its parameters. -/
structure Plan where
  name : String
  contract : ContractId
  captured : List CapturedField
  arguments : List Slot
deriving DecidableEq, Repr

/-- The position of the request among the parameters. -/
def Plan.requestPosition? (plan : Plan) : Option Nat :=
  plan.arguments.findIdx? (· == .request)

/-- Whether the handler is given the request. -/
def Plan.forwardsRequest (plan : Plan) : Bool :=
  plan.requestPosition?.isSome

end Catalogue
end Switchboard
