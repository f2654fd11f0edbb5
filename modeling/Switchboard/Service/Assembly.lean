import Switchboard.Catalogue.Compile
import Switchboard.Dispatch.Mediator

/-!
# Assembling a service

A service is assembled from endpoints, each a declaration with the handler that serves it and the
type as which its requests are read.  The declarations are compiled, each compiled entry takes the
endpoint with its contract out of a table and is checked against the handler, all dependencies must
be provided, and the handlers are registered.  The first thing found wrong stops the assembly.
-/

namespace Switchboard

open Catalogue (ContractId Entry)
open Dispatch (Handler Provider Mediator Registry RequestType Token)
open Endpoint (Declaration Kind)

namespace Service

/-- A declaration with the handler that serves it and the type as which requests to its route are
read. -/
structure Endpoint (σ ρ ι : Type) where
  declaration : Declaration
  handler : Handler σ ρ ι
  intake : RequestType ρ

/-- An endpoint whose requests are read as those that its handler takes. -/
def Endpoint.of {σ ρ ι : Type} (declaration : Declaration) (handler : Handler σ ρ ι) :
    Endpoint σ ρ ι :=
  ⟨declaration, handler, handler.request⟩

/-- The number of parameters of a handler, and the place of the request among them. -/
structure Shape where
  arity : Nat
  request : Option Nat
deriving DecidableEq, Repr

/-- The wording of a shape. -/
def Shape.describe (shape : Shape) : String :=
  match shape.request with
  | some position =>
    toString shape.arity ++ " parameter(s) with the request at " ++ toString position
  | none => toString shape.arity ++ " parameter(s) without the request"

/-- What can be wrong with endpoints that compile. -/
inductive RegistrationFault where
  | missingHandler (contract : ContractId)
  | kindMismatch (contract : ContractId) (declaresResult hasResult : Bool)
  | shapeMismatch (contract : ContractId) (declared bound : Shape)
  | missingDependency (request service : String)
  | duplicateHandler (request : String)
deriving DecidableEq, Repr

def RegistrationFault.message : RegistrationFault → String
  | .missingHandler contract => "No handler binding for contract " ++ contract.display
  | .kindMismatch contract declaresResult hasResult =>
    "Contract " ++ contract.display ++ " declares " ++ Catalogue.resultLabel declaresResult ++
      " but its handler is bound as " ++ Catalogue.resultLabel hasResult
  | .shapeMismatch contract declared bound =>
    "Contract " ++ contract.display ++ " declares a handler taking " ++ declared.describe ++
      " but the bound handler takes " ++ bound.describe
  | .missingDependency request service =>
    "Handler for " ++ request ++ " depends on " ++ service ++ ", which no service provides"
  | .duplicateHandler request => (⟨request⟩ : Dispatch.DuplicateHandler).message

/-- What can be wrong with endpoints. -/
inductive AssemblyFault where
  | uncompiled (diagnostics : List Catalogue.Diagnostic)
  | unregistered (fault : RegistrationFault)
deriving DecidableEq, Repr

/-- A route with the type as which requests to it are read. -/
structure Mount (ρ : Type) where
  route : Catalogue.Binding
  intake : RequestType ρ

end Service

/-- A service: its compiled endpoints, its mediator, and its routes. -/
structure Service (σ κ ρ ι : Type) where
  catalogue : Catalogue
  mediator : Mediator σ κ ρ ι
  mounts : List (Service.Mount ρ)

namespace Service

variable {σ κ ρ ι : Type}

/-- The contract of an endpoint, if exactly one kind of request is declared. -/
def Endpoint.contract? (endpoint : Endpoint σ ρ ι) : Option ContractId :=
  endpoint.declaration.request?.map fun (kind, _) =>
    ⟨endpoint.declaration.namespaceName, endpoint.declaration.name, kind⟩

/-- Endpoints by their contracts. -/
abbrev Table (σ ρ ι : Type) := List (ContractId × Endpoint σ ρ ι)

/-- The table without the endpoint under a contract. -/
def Table.without (table : Table σ ρ ι) (contract : ContractId) : Table σ ρ ι :=
  table.filter fun row => decide (row.1 ≠ contract)

/-- The table with an endpoint under its contract, in place of one that stood there.  An endpoint
without a contract is left out. -/
def Table.add (table : Table σ ρ ι) (endpoint : Endpoint σ ρ ι) : Table σ ρ ι :=
  match endpoint.contract? with
  | some contract => table.without contract ++ [(contract, endpoint)]
  | none => table

/-- The table of endpoints. -/
def Table.of (endpoints : List (Endpoint σ ρ ι)) : Table σ ρ ι :=
  endpoints.foldl Table.add []

/-- The endpoint under a contract, and the table without it. -/
def Table.take? (table : Table σ ρ ι) (contract : ContractId) :
    Option (Endpoint σ ρ ι × Table σ ρ ι) :=
  (Catalogue.lookup? contract table).map fun endpoint => (endpoint, table.without contract)

/-- Whether a handler hands back a result. -/
def hasResult (handler : Handler σ ρ ι) : Bool :=
  handler.kind == Kind.query

def declaredShape (plan : Catalogue.Plan) : Shape :=
  ⟨plan.arguments.length, plan.requestPosition?⟩

def boundShape (handler : Handler σ ρ ι) : Shape :=
  ⟨handler.arity, handler.requestPosition?⟩

/-- A handler must be of the kind and the shape that its entry declares. -/
def checkHandler (entry : Entry) (handler : Handler σ ρ ι) : Except RegistrationFault Unit :=
  let contract := entry.contract.id
  let declaresResult := entry.contract.capability.resultType?.isSome
  if declaresResult != hasResult handler then
    .error (.kindMismatch contract declaresResult (hasResult handler))
  else if declaredShape entry.plan ≠ boundShape handler then
    .error (.shapeMismatch contract (declaredShape entry.plan) (boundShape handler))
  else .ok ()

/-- Entries with the endpoints that they take out of a table, each one by its contract. -/
def pairEntries : Table σ ρ ι → List Entry →
    Except RegistrationFault (List (Entry × Endpoint σ ρ ι))
  | _, [] => .ok []
  | table, entry :: rest =>
    match table.take? entry.contract.id with
    | none => .error (.missingHandler entry.contract.id)
    | some (endpoint, table) =>
      match checkHandler entry endpoint.handler with
      | .error fault => .error fault
      | .ok () => (pairEntries table rest).map ((entry, endpoint) :: ·)

/-- The first dependency of a handler that is not provided. -/
def missingDependency? (provider : Provider σ κ ι) (handler : Handler σ ρ ι) :
    Option RegistrationFault :=
  (handler.dependencies.find? (!provider.provides ·)).map (.missingDependency handler.request.name)

/-- The registry of handlers whose dependencies are all provided. -/
def registryOf (provider : Provider σ κ ι) (handlers : List (Handler σ ρ ι)) :
    Except RegistrationFault (Registry σ ρ ι) :=
  match handlers.findSome? (missingDependency? provider) with
  | some fault => .error fault
  | none => (Registry.ofHandlers handlers).mapError fun fault => .duplicateHandler fault.request

/-- The routes of entries with what is read there, and the registry of the handlers. -/
def register (provider : Provider σ κ ι) (endpoints : List (Endpoint σ ρ ι))
    (entries : List Entry) : Except RegistrationFault (List (Mount ρ) × Registry σ ρ ι) :=
  (pairEntries (Table.of endpoints) entries).bind fun pairs =>
    (registryOf provider (pairs.map (·.2.handler))).map fun registry =>
      (pairs.map fun pair => ⟨pair.1.route, pair.2.intake⟩, registry)

/-- The service of endpoints below a route prefix. -/
def assemble (routePrefix : String) (provider : Provider σ κ ι) (isCancelled : Token → σ → Bool)
    (endpoints : List (Endpoint σ ρ ι)) : Except AssemblyFault (Service σ κ ρ ι) :=
  match Catalogue.compile routePrefix (endpoints.map (·.declaration)) with
  | .error diagnostics => .error (.uncompiled diagnostics)
  | .ok catalogue =>
    match register provider endpoints catalogue.entries with
    | .error fault => .error (.unregistered fault)
    | .ok (mounts, registry) => .ok ⟨catalogue, ⟨registry, provider, isCancelled⟩, mounts⟩

end Service
end Switchboard
