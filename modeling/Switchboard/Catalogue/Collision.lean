import Switchboard.Catalogue.Entry

/-!
# Collisions of entries

Entries are walked in the order of their declarations.  An entry collides with an earlier one if it
has the same contract, the same method and shape of path, or if it gives a route parameter another
name than an earlier entry gave it after a path of the same shape.  Of the parameters of one path
only the first fault is reported, and what follows it is not recorded.
-/

namespace Switchboard
namespace Catalogue

open Endpoint (Method)

/-- What the entries walked so far have taken. -/
structure Taken where
  contracts : List ContractId
  /-- The endpoint that first took a method and a shape. -/
  routes : List ((Method × String) × String)
  /-- The endpoint that first named the parameter at the end of a shape, and the name. -/
  parameters : List (String × String × String)

/-- Nothing taken. -/
def Taken.empty : Taken := ⟨[], [], []⟩

/-- The value that a list of entries gives to a key. -/
def lookup? {κ α : Type} [DecidableEq κ] (key : κ) (entries : List (κ × α)) : Option α :=
  (entries.find? fun entry => decide (entry.1 = key)).map (·.2)

/-- The names of the parameters of a path, each with the shape of the path up to it. -/
def namedShapes : List String → List String → List (String × String)
  | _, [] => []
  | before, segment :: rest =>
    let shapes := before ++ [Route.segmentShape segment]
    match Route.parameter? segment with
    | some parameter => (Text.glue '/' shapes, parameter.name) :: namedShapes shapes rest
    | none => namedShapes shapes rest

/-- The first fault in the parameters of a path, and the record of the parameters before it. -/
def checkParameters (endpoint path : String) :
    List (String × String) → List (String × String × String) →
      Option Problem × List (String × String × String)
  | [], taken => (none, taken)
  | (shape, name) :: rest, taken =>
    if name.isEmpty then (some (.unnamedParameter path), taken)
    else
      match lookup? shape taken with
      | some (other, otherName) =>
        if otherName = name then checkParameters endpoint path rest taken
        else (some (.renamedParameter path name other otherName), taken)
      | none => checkParameters endpoint path rest (taken ++ [(shape, endpoint, name)])

/-- The collisions of one entry, and what is taken after it. -/
def checkEntry (taken : Taken) (entry : Entry) : List Problem × Taken :=
  let id := entry.contract.id
  let endpoint := entry.route.endpoint
  let path := entry.route.path
  let contractProblems :=
    if id ∈ taken.contracts then [Problem.repeatedContract id.display] else []
  let key := (entry.route.method, Route.shape path)
  let (routeProblems, routes) :=
    match lookup? key taken.routes with
    | some other => ([Problem.takenRoute entry.route.method path other], taken.routes)
    | none => ([], taken.routes ++ [(key, endpoint)])
  let (parameterProblem, parameters) :=
    checkParameters endpoint path (namedShapes [] (Route.segments path)) taken.parameters
  (contractProblems ++ routeProblems ++ parameterProblem.toList,
    ⟨taken.contracts ++ [id], routes, parameters⟩)

/-- The collisions of entries in their order, with what is taken before them. -/
def collisionsAfter : Taken → List Entry → List Diagnostic
  | _, [] => []
  | taken, entry :: rest =>
    let (problems, taken) := checkEntry taken entry
    problems.map (⟨entry.route.endpoint, ·⟩) ++ collisionsAfter taken rest

/-- The collisions of entries in their order. -/
def collisions (entries : List Entry) : List Diagnostic :=
  collisionsAfter .empty entries

end Catalogue
end Switchboard
