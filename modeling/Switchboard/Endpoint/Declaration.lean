import Switchboard.Text.Blank

/-!
# Endpoint declarations

A declaration is the one place where an endpoint is described: its name, the request method, the
statuses it answers with, the request it takes as a command or a query, and the signature of the
handler that serves it.  A declaration may be incomplete or contradictory; compiling finds that out.
-/

namespace Switchboard
namespace Endpoint

/-- The two kinds of request: a command changes something, a query reads. -/
inductive Kind where
  | command
  | query
deriving DecidableEq, Repr

def Kind.name : Kind → String
  | .command => "Command"
  | .query => "Query"

/-- The request methods of endpoints. -/
inductive Method where
  | get
  | post
  | put
  | delete
  | patch
deriving DecidableEq, Repr

/-- The methods in their usual order. -/
def Method.all : List Method := [.get, .post, .put, .delete, .patch]

def Method.name : Method → String
  | .get => "GET"
  | .post => "POST"
  | .put => "PUT"
  | .delete => "DELETE"
  | .patch => "PATCH"

/-- A text with its letters a to z as capitals. -/
def asciiUpper (s : String) : String :=
  String.ofList (s.toList.map Char.toUpper)

/-- The method of a name in any case. -/
def Method.ofName? (name : String) : Option Method :=
  Method.all.find? (·.name == asciiUpper name)

/-- The statuses that an endpoint may declare. -/
inductive Status where
  | ok
  | badRequest
  | unauthorized
  | notFound
  | noContent
deriving DecidableEq, Repr

def Status.code : Status → Nat
  | .ok => 200
  | .badRequest => 400
  | .unauthorized => 401
  | .notFound => 404
  | .noContent => 204

def Status.name : Status → String
  | .ok => "Ok"
  | .badRequest => "BadRequest"
  | .unauthorized => "Unauthorized"
  | .notFound => "NotFound"
  | .noContent => "NoContent"

/-- The code and the name of a status. -/
def Status.describe (status : Status) : String :=
  toString status.code ++ " " ++ status.name

/-- The statuses with which an endpoint may succeed. -/
def Status.isSuccess : Status → Bool
  | .ok | .noContent => true
  | _ => false

/-- Whether an answer with the status may have a body. -/
def Status.allowsBody : Status → Bool
  | .noContent => false
  | _ => true

/-- The request type of an endpoint: its name, if it is given, and whether requests are validated
before they are dispatched. -/
structure RequestType where
  typeName : Option String
  validation : Bool
deriving DecidableEq, Repr

/-- The name of the request type; without one it is the name of the kind. -/
def RequestType.nameFor (request : RequestType) (kind : Kind) : String :=
  match request.typeName with
  | some name => if (Text.nonBlank? name).isSome then name else kind.name
  | none => kind.name

/-- A parameter of a handler. -/
structure Param where
  name : String
  type : String
deriving DecidableEq, Repr

/-- The signature of a handler: its parameters in order and its result type. -/
structure Signature where
  params : List Param
  returns : Option String
deriving DecidableEq, Repr

/-- A declared endpoint. -/
structure Declaration where
  name : String
  namespaceName : String
  method : Method
  route : Option String
  controller : Option String
  statuses : List Status
  requiresAuth : Bool
  policy : Option String
  command : Option RequestType
  query : Option RequestType
  handler : Option Signature
deriving DecidableEq, Repr

namespace Declaration

/-- A declaration with no request and no handler. -/
def bare (namespaceName name : String) (method : Method) : Declaration where
  name := name
  namespaceName := namespaceName
  method := method
  route := none
  controller := none
  statuses := []
  requiresAuth := false
  policy := none
  command := none
  query := none
  handler := none

def withRoute (d : Declaration) (route : String) : Declaration :=
  { d with route := some route }

def withController (d : Declaration) (controller : String) : Declaration :=
  { d with controller := some controller }

/-- The declaration with the statuses it answers with. -/
def producing (d : Declaration) (statuses : List Status) : Declaration :=
  { d with statuses := statuses }

/-- The declaration with authentication required under a policy or under none. -/
def withAuth (d : Declaration) (policy : Option String) : Declaration :=
  { d with requiresAuth := true, policy := policy }

def withCommand (d : Declaration) (request : RequestType) : Declaration :=
  { d with command := some request }

def withQuery (d : Declaration) (request : RequestType) : Declaration :=
  { d with query := some request }

/-- The declaration with the signature of its handler. -/
def withHandler (d : Declaration) (signature : Signature) : Declaration :=
  { d with handler := some signature }

/-- The name of the endpoint in its namespace. -/
def qualifiedName (d : Declaration) : String :=
  if d.namespaceName.isEmpty then d.name else d.namespaceName ++ "::" ++ d.name

/-- The kind and the request type, if exactly one kind is declared. -/
def request? (d : Declaration) : Option (Kind × RequestType) :=
  match d.command, d.query with
  | some command, none => some (.command, command)
  | none, some query => some (.query, query)
  | _, _ => none

end Declaration
end Endpoint
end Switchboard
