import Switchboard.Document.Record
import Switchboard.Endpoint.Declaration

/-!
# Reading declarations

A declaration is read from a document of any dialect.  Four of its fields have a second spelling,
most have a default, and every record may also be given by its elements in order.
-/

namespace Switchboard
namespace Endpoint

open Document (Dialect Field readDraft required)

variable {V ε : Type}

def methodNames : List (String × Method) :=
  [("GET", .get), ("Get", .get), ("get", .get), ("POST", .post), ("Post", .post), ("post", .post),
    ("PUT", .put), ("Put", .put), ("put", .put), ("DELETE", .delete), ("Delete", .delete),
    ("delete", .delete), ("PATCH", .patch), ("Patch", .patch), ("patch", .patch)]

def statusNames : List (String × Status) :=
  [("OK", .ok), ("Ok", .ok), ("ok", .ok), ("BadRequest", .badRequest), ("bad_request", .badRequest),
    ("Unauthorized", .unauthorized), ("unauthorized", .unauthorized), ("NotFound", .notFound),
    ("not_found", .notFound), ("NoContent", .noContent), ("no_content", .noContent)]

def kindNames : List (String × Kind) :=
  [("Command", .command), ("Query", .query)]

def readMethod (dialect : Dialect V ε) : V → Except ε Method :=
  dialect.oneOf "RequestMethod" methodNames .get

def readStatus (dialect : Dialect V ε) : V → Except ε Status :=
  dialect.oneOf "ResponseStatus" statusNames .ok

def readKind (dialect : Dialect V ε) : V → Except ε Kind :=
  dialect.oneOf "RequestKind" kindNames .command

/-- A request type that is being read. -/
structure RequestType.Draft where
  typeName : Option (Option String) := none
  validation : Option Bool := none

def RequestType.fields (dialect : Dialect V ε) : List (Field V ε RequestType.Draft) :=
  [.of "type_name" true (·.typeName) (fun a draft => { draft with typeName := some a })
      (dialect.optional dialect.text),
    .of "validation" true (·.validation) (fun a draft => { draft with validation := some a })
      dialect.flag]

def RequestType.read (dialect : Dialect V ε) (value : V) : Except ε RequestType :=
  (readDraft dialect "RequestTypeDecl" (RequestType.fields dialect) {} value).map fun draft =>
    { typeName := draft.typeName.getD none, validation := draft.validation.getD false }

/-- A parameter that is being read. -/
structure Param.Draft where
  name : Option String := none
  type : Option String := none

def Param.fields (dialect : Dialect V ε) : List (Field V ε Param.Draft) :=
  [.of "name" false (·.name) (fun a draft => { draft with name := some a }) dialect.text,
    .of "type" false (·.type) (fun a draft => { draft with type := some a }) dialect.text]

def Param.read (dialect : Dialect V ε) (value : V) : Except ε Param := do
  let draft ← readDraft dialect "HandlerParam" (Param.fields dialect) {} value
  let name ← required dialect "name" draft.name
  let type ← required dialect "type" draft.type
  return { name := name, type := type }

/-- A signature that is being read. -/
structure Signature.Draft where
  params : Option (List Param) := none
  returns : Option (Option String) := none

def Signature.fields (dialect : Dialect V ε) : List (Field V ε Signature.Draft) :=
  [.of "params" true (·.params) (fun a draft => { draft with params := some a })
      (dialect.listOf (Param.read dialect)),
    .of "returns" true (·.returns) (fun a draft => { draft with returns := some a })
      (dialect.optional dialect.text)]

def Signature.read (dialect : Dialect V ε) (value : V) : Except ε Signature :=
  (readDraft dialect "HandlerSignature" (Signature.fields dialect) {} value).map fun draft =>
    { params := draft.params.getD [], returns := draft.returns.getD none }

/-- A declaration that is being read. -/
structure Declaration.Draft where
  name : Option String := none
  namespaceName : Option String := none
  method : Option Method := none
  route : Option (Option String) := none
  controller : Option (Option String) := none
  statuses : Option (List Status) := none
  requiresAuth : Option Bool := none
  policy : Option (Option String) := none
  command : Option (Option RequestType) := none
  query : Option (Option RequestType) := none
  handler : Option (Option Signature) := none

def Declaration.fields (dialect : Dialect V ε) : List (Field V ε Declaration.Draft) :=
  [.of "name" false (·.name) (fun a draft => { draft with name := some a }) dialect.text,
    .of "namespace" true (·.namespaceName) (fun a draft => { draft with namespaceName := some a })
      dialect.text,
    (Field.of "request_method" false (·.method) (fun a draft => { draft with method := some a })
      (readMethod dialect)).orNamed "method",
    .of "route" true (·.route) (fun a draft => { draft with route := some a })
      (dialect.optional dialect.text),
    .of "controller" true (·.controller) (fun a draft => { draft with controller := some a })
      (dialect.optional dialect.text),
    (Field.of "produced_status_codes" true (·.statuses)
      (fun a draft => { draft with statuses := some a })
      (dialect.listOf (readStatus dialect))).orNamed "produces",
    (Field.of "requires_auth" true (·.requiresAuth)
      (fun a draft => { draft with requiresAuth := some a }) dialect.flag).orNamed "auth",
    (Field.of "auth_policy" true (·.policy) (fun a draft => { draft with policy := some a })
      (dialect.optional dialect.text)).orNamed "policy",
    .of "command" true (·.command) (fun a draft => { draft with command := some a })
      (dialect.optional (RequestType.read dialect)),
    .of "query" true (·.query) (fun a draft => { draft with query := some a })
      (dialect.optional (RequestType.read dialect)),
    .of "handler" true (·.handler) (fun a draft => { draft with handler := some a })
      (dialect.optional (Signature.read dialect))]

def Declaration.read (dialect : Dialect V ε) (value : V) : Except ε Declaration := do
  let draft ← readDraft dialect "EndpointDeclaration" (Declaration.fields dialect) {} value
  let name ← required dialect "name" draft.name
  let method ← required dialect "request_method" draft.method
  return {
    name := name
    namespaceName := draft.namespaceName.getD ""
    method := method
    route := draft.route.getD none
    controller := draft.controller.getD none
    statuses := draft.statuses.getD []
    requiresAuth := draft.requiresAuth.getD false
    policy := draft.policy.getD none
    command := draft.command.getD none
    query := draft.query.getD none
    handler := draft.handler.getD none }

end Endpoint
end Switchboard
