import Switchboard.Catalogue.Binding
import Switchboard.Dispatch.Handler
import Switchboard.Http.Message
import Switchboard.Json.Parser

/-!
# Reading requests

A request is read from the body or from the query string of its route, with the parameters of the
path folded in: as further pairs of the query string, or as fields that the body does not have yet.
The values of path parameters are taken as they were sent, except for the characters that would be
read as marks between pairs.
-/

namespace Switchboard
namespace Service

open Http (Response Uri UriFault)

/-- A character of a parameter's value as it is written into a query string. -/
def escapeChar (c : Char) : List Char :=
  if c = '+' then "%2B".toList
  else if c = '&' then "%26".toList
  else if c = '=' then "%3D".toList
  else [c]

/-- The value of a parameter as it is written into a query string. -/
def escapeValue (value : String) : String :=
  String.ofList (value.toList.flatMap escapeChar)

/-- A parameter with its value as a pair of a query string. -/
def pairText (name : List Char) (value : String) : String :=
  String.ofList name ++ "=" ++ escapeValue value

/-- The pairs of the parameters among the segments of a mounted path, for the segments of a path that
matches. -/
def parameterPairs : (template path : List String) → List String
  | part :: template, segment :: path =>
    match part.toList with
    | ':' :: name => pairText name segment :: parameterPairs template path
    | '*' :: name => [pairText name (Text.glue '/' (segment :: path))]
    | _ => parameterPairs template path
  | _, _ => []

/-- The parameters of a path as a query string. -/
def pathParameters (mounted path : String) : String :=
  Text.glue '&' (parameterPairs (Route.segments mounted) (Route.segments path))

/-- The pairs of a query string. -/
def readPairs (query : String) : Except UriFault (List (String × String)) :=
  (Uri.parse ("/?" ++ query)).map fun uri => Http.pairs (uri.query.getD "")

/-- Fields with one more text, unless there is a field of that name. -/
def addField (fields : List (String × Json.Value)) (name value : String) :
    List (String × Json.Value) :=
  if fields.any (·.1 == name) then fields else Json.insertKey name (.text value) fields

/-- A body with one more text, unless it has a field of that name.  Only an object has fields to be
added to. -/
def addText (name value : String) : Json.Value → Json.Value
  | .object fields => .object (addField fields name value)
  | body => body

/-- A body that is being filled in, until a fault puts an end to that. -/
abbrev Filling := EStateM UriFault Json.Value

/-- Texts for the body, one after the other. -/
def fillAll (texts : List (String × String)) : Filling Unit :=
  texts.forM fun (name, value) => modify (addText name value)

/-- The parameters as texts for the body; of several parameters with one name the last counts. -/
def fillParameters (parameters : String) : Filling Unit := do
  if parameters.isEmpty then
    pure ()
  else
    match ← get with
    | .object _ =>
      let pairs ← liftExcept (readPairs parameters)
      fillAll (Json.ordered pairs)
    | _ => pure ()

/-- A body with the parameters that it does not have yet. -/
def mergeIntoBody (body : Json.Value) (parameters : String) : Except UriFault Json.Value :=
  match (fillParameters parameters).run body with
  | .ok () filled => .ok filled
  | .error fault _ => .error fault

/-- Why no request could be read. -/
inductive InputFault where
  | notJson
  | tooLarge
  | malformed
  | target (fault : UriFault)
  | unfitBody (fault : Json.Fault)
  | unfitQuery (fault : Http.FormFault)
deriving DecidableEq, Repr

/-- The response to a request that could not be read. -/
def InputFault.response : InputFault → Response
  | .notJson => .text 415 "Expected request with `Content-Type: application/json`"
  | .tooLarge => .text 413 "Failed to buffer the request body: length limit exceeded"
  | .malformed => .text 400 "Failed to parse the request body as JSON"
  | .target fault => .failure 422 fault.message "INVALID_REQUEST"
  | .unfitBody fault => .failure 422 fault.message "INVALID_REQUEST"
  | .unfitQuery fault => .text 400 ("Failed to deserialize query string: " ++ fault.message)

/-- The greatest number of octets of a body. -/
def bodyLimit : Nat := 2097152

/-- The JSON value at the start of a body. -/
def readBody (request : Http.Request) : Except InputFault Json.Value :=
  if !request.hasJson then .error .notJson
  else if request.body.utf8ByteSize > bodyLimit then .error .tooLarge
  else
    match Json.first? request.body with
    | some value => .ok value
    | none => .error .malformed

/-- Query strings as one, without the empty ones. -/
def joinQueries (queries : List String) : String :=
  Text.glue '&' (queries.filter (!·.isEmpty))

/-- The contents of a request that come from its body. -/
def readFromBody {ρ : Type} (type : Dispatch.RequestType ρ) (parameters : String)
    (request : Http.Request) : Except InputFault ρ := do
  let body ← readBody request
  let body ← (mergeIntoBody body parameters).mapError .target
  (type.ofJson body).mapError .unfitBody

/-- The contents of a request that come from its query string. -/
def readFromQuery {ρ : Type} (type : Dispatch.RequestType ρ) (parameters : String)
    (request : Http.Request) : Except InputFault ρ := do
  let query := joinQueries [request.uri.query.getD "", parameters]
  let pairs ← (readPairs query).mapError .target
  (type.ofForm (.pairs pairs)).mapError .unfitQuery

/-- The contents of a request to a route. -/
def readContents {ρ : Type} (route : Catalogue.Binding) (type : Dispatch.RequestType ρ)
    (request : Http.Request) : Except InputFault ρ :=
  let parameters := pathParameters (Route.mounted route.path) request.uri.path
  match route.source with
  | .body => readFromBody type parameters request
  | .query => readFromQuery type parameters request

end Service
end Switchboard
