import Switchboard.Catalogue.Compile
import Switchboard.Json.Printer

/-!
# Writing a catalogue

A catalogue as a JSON value with its fields in a fixed order, and as text.  An optional part that is
absent is left out, except for the action, which is null.
-/

namespace Switchboard
namespace Catalogue

open Json (Value)

/-- A field, if there is a value for it. -/
def optionalField (key : String) (value : Option String) : List (String × Value) :=
  value.toList.map fun s => (key, .text s)

def ContractId.toJson (id : ContractId) : Value :=
  .object [("namespace", .text id.namespaceName), ("endpoint", .text id.endpoint),
    ("kind", .text id.kind.name)]

def Capability.toJson : Capability → Value
  | .noResult => .object [("capability", .text "no_result")]
  | .produces type => .object [("capability", .text "produces"), ("ty", .text type)]

def Contract.toJson (contract : Contract) : Value :=
  .object ([("id", contract.id.toJson), ("type_name", .text contract.typeName),
      ("capability", contract.capability.toJson)] ++
    contract.validator.toList.map fun name =>
      ("validator", .object [("name", .text name)]))

def Source.name : Source → String
  | .body => "body"
  | .query => "query"

def Access.toJson : Access → Value
  | .anonymous => .object [("mode", .text "anonymous")]
  | .required policy => .object (("mode", .text "required") :: optionalField "policy" policy)

def Binding.toJson (binding : Binding) : Value :=
  .object ([("endpoint", .text binding.endpoint), ("controller", .text binding.controller),
      ("controller_route", .text binding.controllerRoute), ("action", .ofText? binding.action),
      ("method", .text binding.method.name), ("path", .text binding.path),
      ("request_source", .text binding.source.name),
      ("success_status", .text binding.success.name),
      ("other_status_codes",
        .array (binding.otherStatuses.map fun status => .text status.name))] ++
    optionalField "response_body" binding.responseBody ++
    [("auth", binding.access.toJson), ("contract", binding.contract.toJson)])

def CapturedField.toJson (field : CapturedField) : Value :=
  .object [("name", .text field.name), ("ty", .text field.type)]

def Slot.toJson : Slot → Value
  | .request => .object [("slot", .text "request")]
  | .captured field => .object [("slot", .text "captured"), ("field", .integer field)]

def Plan.toJson (plan : Plan) : Value :=
  .object [("name", .text plan.name), ("contract", plan.contract.toJson),
    ("captured", .array (plan.captured.map CapturedField.toJson)),
    ("arguments", .array (plan.arguments.map Slot.toJson))]

def Entry.toJson (entry : Entry) : Value :=
  .object [("route", entry.route.toJson), ("contract", entry.contract.toJson),
    ("handler", entry.plan.toJson)]

def Controller.toJson (controller : Controller) : Value :=
  .object [("name", .text controller.name), ("route", .text controller.route),
    ("endpoints", .array (controller.entries.map Entry.toJson))]

def toJson (catalogue : Catalogue) : Value :=
  .object [("controllers", .array (catalogue.controllers.map Controller.toJson))]

def render (pretty : Bool) (catalogue : Catalogue) : String :=
  catalogue.toJson.render pretty

end Catalogue
end Switchboard
