import Switchboard.Endpoint.Declaration

/-!
# Problems of declarations

What can be wrong with one declaration, and how one can collide with declarations before it.  A check
hands back a value or all the problems it found.
-/

namespace Switchboard
namespace Catalogue

open Endpoint (Method Status)

/-- A structural problem of a declaration. -/
inductive Problem where
  | ambiguousKind
  | missingKind
  | missingHandler
  | unresolvedResult (type : Option String)
  | ambiguousRequest (params : List String)
  | repeatedParam (name : String)
  | missingController
  | failingSuccess (status : Status)
  | repeatedContract (contract : String)
  | takenRoute (method : Method) (path other : String)
  | renamedParameter (path name other otherName : String)
  | unnamedParameter (path : String)
deriving DecidableEq, Repr

/-- The wording of a problem, which follows the name of the endpoint. -/
def Problem.message : Problem → String
  | .ambiguousKind => "declares both a Command and a Query"
  | .missingKind => "declares neither a Command nor a Query"
  | .missingHandler => "has no handler"
  | .unresolvedResult none => "has an unresolved handler result type"
  | .unresolvedResult (some type) => "has an unresolved handler result type '" ++ type ++ "'"
  | .ambiguousRequest params =>
    "has more than one request parameter: " ++ Text.listed ", " params
  | .repeatedParam name => "repeats handler parameter '" ++ name ++ "'"
  | .missingController => "has no controller override and an empty namespace"
  | .failingSuccess status => "declares " ++ status.describe ++ " as its success status"
  | .repeatedContract contract => "reuses request contract '" ++ contract ++ "'"
  | .takenRoute method path other =>
    "maps " ++ method.name ++ " " ++ path ++ ", already taken by '" ++ other ++ "'"
  | .renamedParameter path name other otherName =>
    "names route parameter '" ++ name ++ "' in " ++ path ++ " where '" ++ other ++ "' names it '" ++
      otherName ++ "'"
  | .unnamedParameter path => "has an unnamed route parameter in " ++ path

/-- A problem with the endpoint in which it was found. -/
structure Diagnostic where
  endpoint : String
  problem : Problem
deriving DecidableEq, Repr

def Diagnostic.message (diagnostic : Diagnostic) : String :=
  diagnostic.endpoint ++ " " ++ diagnostic.problem.message

/-- The wording of a failed compilation. -/
def failureMessage (diagnostics : List Diagnostic) : String :=
  "endpoint compilation failed with " ++ toString diagnostics.length ++ " error(s): " ++
    Text.listed "; " (diagnostics.map Diagnostic.message)

/-- A value, or all the problems that were found instead. -/
abbrev Check (α : Type) := Except (List Problem) α

/-- The problems that a check found. -/
def Check.problems {α : Type} : Check α → List Problem
  | .ok _ => []
  | .error problems => problems

end Catalogue
end Switchboard
