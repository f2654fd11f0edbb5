import Switchboard.Http.MediaType
import Switchboard.Http.Uri
import Switchboard.Json.Printer

/-!
# Requests and responses

A request has a method, a target, headers and a body; a response has a status, two headers that
matter and a body.
-/

namespace Switchboard
namespace Http

/-- Headers with their names in lower case. -/
abbrev Headers := List (String × String)

/-- The first value of a header. -/
def Headers.first? (headers : Headers) (name : String) : Option String :=
  (headers.find? (·.1 == name)).map (·.2)

/-- The first value of a header, if it consists of visible characters. -/
def Headers.visible? (headers : Headers) (name : String) : Option String :=
  (headers.first? name).filter fun value =>
    value.toList.all fun c => (32 ≤ c.toNat && c.toNat < 127) || c == '\t'

/-- A request. -/
structure Request where
  method : String
  uri : Uri
  headers : Headers
  body : String
deriving DecidableEq, Repr

/-- A response. -/
structure Response where
  status : Nat
  contentType : Option String
  /-- The methods that the path knows, where the method of the request was not one of them. -/
  allow : Option String
  body : String
deriving DecidableEq, Repr

/-- Whether the body is declared as JSON. -/
def Request.hasJson (request : Request) : Bool :=
  match (request.headers.visible? "content-type").bind MediaType.parse? with
  | some media => media.isJson
  | none => false

/-- Whether a text may name a method or a header. -/
def isToken (text : String) : Bool :=
  !text.isEmpty && text.toList.all isTokenChar

/-- Whether a text may be the value of a header. -/
def isHeaderValue (text : String) : Bool :=
  text.toList.all fun c => (32 ≤ c.toNat && c.toNat != 127) || c == '\t'

/-- A request, if its parts are well formed. -/
def Request.of? (method uri : String) (headers : List (String × String)) (body : String) :
    Option Request :=
  match Uri.parse uri with
  | .error _ => none
  | .ok uri =>
    if isToken method && headers.all fun (name, value) => isToken name && isHeaderValue value then
      some ⟨method, uri, headers.map fun (name, value) => (lowered name.toList, value), body⟩
    else none

namespace Response

def empty (status : Nat) : Response := ⟨status, none, none, ""⟩

def json (status : Nat) (value : Json.Value) : Response :=
  ⟨status, some "application/json", none, value.render false⟩

def text (status : Nat) (body : String) : Response :=
  ⟨status, some "text/plain; charset=utf-8", none, body⟩

/-- The response to a path that is known, but not with the method of the request. -/
def notAllowed (allow : String) : Response := ⟨405, none, some allow, ""⟩

def withoutBody (response : Response) : Response := { response with body := "" }

/-- A response that reports an error with its code. -/
def failure (status : Nat) (message code : String) : Response :=
  json status (.object [("error", .text message), ("code", .text code)])

end Response
end Http
end Switchboard
