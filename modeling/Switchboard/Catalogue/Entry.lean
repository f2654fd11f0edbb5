import Switchboard.Catalogue.Binding
import Switchboard.Catalogue.Problem
import Switchboard.Catalogue.ResultType
import Switchboard.Endpoint.Name
import Switchboard.Route.Path
import Switchboard.Text.Kebab

/-!
# Compiling one declaration

A declaration is compiled into an entry: a route, a contract and a plan.  The kind of the request,
the controller, the statuses and the handler are checked side by side; the result and the parameters
of the handler are checked once the kind and the handler are known.  An entry does not depend on any
other declaration.
-/

namespace Switchboard
namespace Catalogue

open Endpoint (Declaration Kind Param RequestType Signature Status)

/-- A compiled endpoint. -/
structure Entry where
  route : Binding
  contract : Contract
  plan : Plan
deriving DecidableEq, Repr

/-- The kind and the request type of a declaration. -/
def kindOf (d : Declaration) : Check (Kind × RequestType) :=
  match d.command, d.query with
  | some command, none => .ok (.command, command)
  | none, some query => .ok (.query, query)
  | some _, some _ => .error [.ambiguousKind]
  | none, none => .error [.missingKind]

/-- The explicit controller, else the last segment of the namespace. -/
def controllerOf (d : Declaration) : Check String :=
  match d.controller.bind Text.nonBlank? with
  | some controller => .ok controller
  | none =>
    match Endpoint.lastSegment? d.namespaceName with
    | some controller => .ok controller
    | none => .error [.missingController]

/-- The members of a list without those that occur before. -/
def distinctFrom {α : Type} [DecidableEq α] : List α → List α → List α
  | _, [] => []
  | seen, a :: rest =>
    if a ∈ seen then distinctFrom seen rest else a :: distinctFrom (a :: seen) rest

/-- The status of success and the other statuses: those declared, each once, or only the usual one
if none is declared. -/
def producedStatuses (declared : List Status) : Status × List Status :=
  match distinctFrom [] declared with
  | [] => (.ok, [])
  | success :: others => (success, others)

/-- A member put behind those gathered so far, unless it is one of them. -/
def gather {α : Type} [DecidableEq α] (gathered : List α) (a : α) : List α :=
  if a ∈ gathered then gathered else gathered ++ [a]

/-- The declared statuses gathered one after another, or the usual one if none is declared. -/
def gatheredStatuses (declared : List Status) : List Status :=
  match declared.foldl gather [] with
  | [] => [.ok]
  | statuses => statuses

/-- The statuses, if the first of them is one of success. -/
def statusesOf (d : Declaration) : Check (Status × List Status) :=
  let statuses := producedStatuses d.statuses
  if statuses.1.isSuccess then .ok statuses else .error [.failingSuccess statuses.1]

/-- The signature of the handler. -/
def handlerOf (d : Declaration) : Check Signature :=
  match d.handler with
  | some signature => .ok signature
  | none => .error [.missingHandler]

/-- The result type of a handler, trimmed; the empty pair stands for no result. -/
def resultTypeOf (signature : Signature) : Option String :=
  match signature.returns.map Text.trim with
  | some "()" => none
  | type => type

/-- What a handler of the given kind hands back. -/
def capabilityOf (kind : Kind) (signature : Signature) : Check Capability :=
  match resultTypeOf signature, kind with
  | some type, _ =>
    if isResolved type then .ok (.produces type) else .error [.unresolvedResult (some type)]
  | none, .command => .ok .noResult
  | none, .query => .error [.unresolvedResult none]

/-- Parameter names that always stand for the request. -/
def requestNames : List String :=
  ["request", "req", "command", "query"]

/-- The type of a parameter without the marks of a reference. -/
def referredType (type : String) : String :=
  Text.trim (String.ofList ((Text.trim type).toList.dropWhile (· == '&')))

/-- Whether a parameter takes the request: its type ends in the name of the request type, or its
name says so. -/
def takesRequest (requestType : String) (param : Param) : Bool :=
  Endpoint.lastSegment? (referredType param.type) == some requestType ||
    requestNames.contains (Text.trim param.name)

/-- The names that occur a second time, in the order of their second occurrence. -/
def repeatedFrom : List String → List String → List String
  | _, [] => []
  | seen, name :: rest =>
    if seen.count name = 1 then name :: repeatedFrom (name :: seen) rest
    else repeatedFrom (name :: seen) rest

/-- The slots of the parameters with the fields that are captured, where `next` is the number of the
next field. -/
def assignSlots (requestType : String) : Nat → List Param → List CapturedField × List Slot
  | _, [] => ([], [])
  | next, param :: rest =>
    if takesRequest requestType param then
      let (fields, slots) := assignSlots requestType next rest
      (fields, .request :: slots)
    else
      let (fields, slots) := assignSlots requestType (next + 1) rest
      (⟨Text.trim param.name, Text.trim param.type⟩ :: fields, .captured next :: slots)

/-- What is wrong with the parameters of a handler whose request has the given type: names that are
repeated, and more than one parameter for the request. -/
def paramProblems (requestType : String) (signature : Signature) : List Problem :=
  let repeated := repeatedFrom [] (signature.params.map fun param => Text.trim param.name)
  let requests := (signature.params.filter (takesRequest requestType)).map (·.name)
  repeated.map Problem.repeatedParam ++
    (if requests.length > 1 then [Problem.ambiguousRequest requests] else [])

/-- The captured fields and the slots of a handler whose request has the given type. -/
def argumentsOf (requestType : String) (signature : Signature) :
    Check (List CapturedField × List Slot) :=
  match paramProblems requestType signature with
  | [] => .ok (assignSlots requestType 0 signature.params)
  | problems => .error problems

/-- All that is wrong with a declaration alone, in the order of the checks.  The result and the
parameters of the handler are looked at once the kind of the request is known. -/
def problemsOf (d : Declaration) : List Problem :=
  (kindOf d).problems ++ (controllerOf d).problems ++ (statusesOf d).problems ++
      (handlerOf d).problems ++
    match kindOf d, handlerOf d with
    | .ok (kind, type), .ok signature =>
      (capabilityOf kind signature).problems ++
        (argumentsOf (type.nameFor kind) signature).problems
    | _, _ => []

/-- The parts from which an entry is made. -/
structure Parts where
  kind : Kind
  type : RequestType
  controller : String
  capability : Capability
  captured : List CapturedField
  slots : List Slot
deriving DecidableEq, Repr

/-- The parts of a declaration, if the declaration has them all. -/
def partsOf? (d : Declaration) : Option Parts :=
  match kindOf d, controllerOf d, handlerOf d with
  | .ok (kind, type), .ok controller, .ok signature =>
    match capabilityOf kind signature, argumentsOf (type.nameFor kind) signature with
    | .ok capability, .ok (captured, slots) =>
      some ⟨kind, type, controller, capability, captured, slots⟩
    | _, _ => none
  | _, _, _ => none

/-- The action below the controller: the explicit route, nothing for a conventional name, else the
name in kebab case. -/
def actionOf (d : Declaration) : Option String :=
  match (d.route.map fun route => Text.trimBy (· == '/') (Text.trim route)).filter
      (!·.isEmpty) with
  | some route => some route
  | none => if Endpoint.isConventional d.name then none else some (Text.kebab d.name)

/-- Who may call the endpoint: a policy asks for authorization even where the flag does not. -/
def accessOf (d : Declaration) : Access :=
  let policy := d.policy.bind Text.nonBlank?
  if d.requiresAuth || policy.isSome then .required policy else .anonymous

/-- Where requests of a kind are read from. -/
def sourceOf : Kind → Source
  | .command => .body
  | .query => .query

/-- The contract of a declaration. -/
def contractOf (d : Declaration) (kind : Kind) (type : RequestType) (capability : Capability) :
    Contract where
  id := ⟨d.namespaceName, d.name, kind⟩
  typeName := type.nameFor kind
  capability := capability
  validator := if type.validation then some (type.nameFor kind ++ "Validator") else none

/-- The route of a declaration below a prefix. -/
def routeOf (routePrefix : String) (d : Declaration) (controller : String)
    (statuses : Status × List Status) (contract : Contract) : Binding :=
  let controllerRoute := Text.kebab controller
  let action := actionOf d
  { endpoint := d.qualifiedName
    controller := controller
    controllerRoute := controllerRoute
    action := action
    method := d.method
    path := Route.joined [routePrefix, controllerRoute, action.getD ""]
    source := sourceOf contract.id.kind
    success := statuses.1
    otherStatuses := statuses.2
    responseBody := contract.capability.resultType?
    access := accessOf d
    contract := contract.id }

/-- The entry that the parts of a declaration make below a prefix. -/
def Parts.entry (routePrefix : String) (d : Declaration) (parts : Parts) : Entry :=
  let contract := contractOf d parts.kind parts.type parts.capability
  { route := routeOf routePrefix d parts.controller (producedStatuses d.statuses) contract
    contract := contract
    plan := ⟨contract.typeName ++ "Handler", contract.id, parts.captured, parts.slots⟩ }

/-- The entry of a declaration, or all that is wrong with the declaration alone. -/
def entryOf (routePrefix : String) (d : Declaration) : Check Entry :=
  match problemsOf d, partsOf? d with
  | [], some parts => .ok (parts.entry routePrefix d)
  | problems, _ => .error problems

end Catalogue
end Switchboard
