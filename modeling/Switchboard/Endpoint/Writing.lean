import Switchboard.Endpoint.Declaration
import Switchboard.Json.Value

/-!
# Writing declarations

A declaration as a JSON value: every field under its own name, null for what is absent.
-/

namespace Switchboard
namespace Endpoint

open Json (Value)

def RequestType.toJson (request : RequestType) : Value :=
  .object [("type_name", .ofText? request.typeName), ("validation", .bool request.validation)]

def Param.toJson (param : Param) : Value :=
  .object [("name", .text param.name), ("type", .text param.type)]

def Signature.toJson (signature : Signature) : Value :=
  .object [("params", .array (signature.params.map Param.toJson)),
    ("returns", .ofText? signature.returns)]

/-- An optional record as JSON. -/
def optionalJson {α : Type} (toJson : α → Value) : Option α → Value
  | some a => toJson a
  | none => .null

def Declaration.toJson (d : Declaration) : Value :=
  .object [("name", .text d.name), ("namespace", .text d.namespaceName),
    ("request_method", .text d.method.name), ("route", .ofText? d.route),
    ("controller", .ofText? d.controller),
    ("produced_status_codes", .array (d.statuses.map fun status => .text status.name)),
    ("requires_auth", .bool d.requiresAuth), ("auth_policy", .ofText? d.policy),
    ("command", optionalJson RequestType.toJson d.command),
    ("query", optionalJson RequestType.toJson d.query),
    ("handler", optionalJson Signature.toJson d.handler)]

end Endpoint
end Switchboard
