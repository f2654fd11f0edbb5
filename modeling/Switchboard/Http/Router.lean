import Switchboard.Endpoint.Declaration
import Switchboard.Http.Pattern

/-!
# Routers

A router finds what a request asks for.  Its places are the paths of its routes, in the order of their
texts; one path may serve several methods.  Not every set of paths has a router, for their patterns
must be such that they can be tried together.
-/

namespace Switchboard
namespace Http

open Endpoint (Method)

/-- A path with what its methods lead to, in the order in which they were given. -/
structure Place (α : Type) where
  path : String
  targets : List (Method × α)

/-- The places of a router with their patterns. -/
structure Router (α : Type) where
  places : List (Pattern × Place α)

/-- What a router finds. -/
inductive Routing (α : Type) where
  | nothing
  /-- The path is known, but only with other methods. -/
  | otherMethods (methods : List Method)
  /-- The target, and whether only the head of its response is wanted. -/
  | found (target : α) (headOnly : Bool)

namespace Router

variable {α : Type}

/-- Places with one more target, in the order of their paths. -/
def addTarget (path : String) (method : Method) (target : α) : List (Place α) → List (Place α)
  | [] => [⟨path, [(method, target)]⟩]
  | place :: rest =>
    if path = place.path then
      { place with targets := place.targets ++ [(method, target)] } :: rest
    else if path < place.path then ⟨path, [(method, target)]⟩ :: place :: rest
    else place :: addTarget path method target rest

def placesOf (routes : List (String × Method × α)) : List (Place α) :=
  routes.foldl (fun places (path, method, target) => addTarget path method target places) []

/-- The router of routes; there is none if a path is no pattern, if the patterns cannot be tried
together, or if a path has a method twice. -/
def build? (routes : List (String × Method × α)) : Option (Router α) :=
  let places := placesOf routes
  match places.mapM fun place => Pattern.ofPath? place.path with
  | none => none
  | some patterns =>
    if Pattern.allFit [] patterns && places.all fun place => (place.targets.map (·.1)).Nodup then
      some ⟨patterns.zip places⟩
    else none

/-- The place that a path leads to. -/
def place? (router : Router α) (path : String) : Option (Place α) :=
  let matching := router.places.filter fun (pattern, _) => pattern.matchesPath path.toList
  (matching.find? fun (pattern, _) =>
    matching.all fun (other, _) => !other.isPreferred pattern).map (·.2)

/-- Where a request with a method and a path leads. -/
def route (router : Router α) (method path : String) : Routing α :=
  match router.place? path with
  | none => .nothing
  | some place =>
    let isHead := method == "HEAD"
    let wanted := if isHead then Method.get.name else method
    match place.targets.find? (·.1.name == wanted) with
    | some (_, target) => .found target isHead
    | none => .otherMethods (place.targets.map (·.1))

end Router

/-- What a method allows: whoever may get a path may also ask for the head alone. -/
def allowedNames (method : Method) : List String :=
  if method = .get then [method.name, "HEAD"] else [method.name]

/-- Methods as they are listed for a request that uses another one. -/
def allowText (methods : List Method) : String :=
  Text.listed "," (methods.flatMap allowedNames)

end Http
end Switchboard
