import Switchboard.Catalogue.Collision

/-!
# Compiling declarations

Declarations are compiled one by one and then checked for collisions; any problem, wherever it is,
leaves nothing compiled.  The entries stand by controller in the order of the controllers' names, and
in the order of their declarations within a controller.
-/

namespace Switchboard

open Endpoint (Declaration)

namespace Catalogue

/-- The entries of one controller. -/
structure Controller where
  name : String
  route : String
  entries : List Entry
deriving DecidableEq, Repr

end Catalogue

/-- Compiled endpoints by controller. -/
structure Catalogue where
  controllers : List Catalogue.Controller
deriving DecidableEq, Repr

namespace Catalogue

/-- The controllers with an entry added to its own, which is put in its place if it is new. -/
def addEntry (entry : Entry) : List Controller → List Controller
  | [] => [⟨entry.route.controller, Text.kebab entry.route.controller, [entry]⟩]
  | controller :: rest =>
    if entry.route.controller = controller.name then
      { controller with entries := controller.entries ++ [entry] } :: rest
    else if entry.route.controller < controller.name then
      ⟨entry.route.controller, Text.kebab entry.route.controller, [entry]⟩ :: controller :: rest
    else controller :: addEntry entry rest

def ofEntries (entries : List Entry) : Catalogue :=
  ⟨entries.foldl (fun controllers entry => addEntry entry controllers) []⟩

def entries (catalogue : Catalogue) : List Entry :=
  catalogue.controllers.flatMap (·.entries)

def size (catalogue : Catalogue) : Nat :=
  catalogue.entries.length

/-- The entry of a contract. -/
def find? (catalogue : Catalogue) (id : ContractId) : Option Entry :=
  catalogue.entries.find? (·.contract.id == id)

/-- The entries of the valid declarations, and the diagnostics of the others. -/
def compileEach (routePrefix : String) : List Declaration → List Diagnostic × List Entry
  | [] => ([], [])
  | d :: rest =>
    let (diagnostics, entries) := compileEach routePrefix rest
    match entryOf routePrefix d with
    | .ok entry => (diagnostics, entry :: entries)
    | .error problems => (problems.map (⟨d.qualifiedName, ·⟩) ++ diagnostics, entries)

/-- All that is wrong with declarations: what is wrong with each alone, then the collisions of the
others. -/
def diagnose (routePrefix : String) (declarations : List Declaration) : List Diagnostic :=
  let (diagnostics, entries) := compileEach routePrefix declarations
  diagnostics ++ collisions entries

/-- The catalogue of declarations below a prefix, or all that is wrong with them. -/
def compile (routePrefix : String) (declarations : List Declaration) :
    Except (List Diagnostic) Catalogue :=
  match diagnose routePrefix declarations with
  | [] => .ok (ofEntries (compileEach routePrefix declarations).2)
  | diagnostics => .error diagnostics

end Catalogue
end Switchboard
