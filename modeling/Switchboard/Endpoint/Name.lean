import Switchboard.Text.Blank

/-!
# Names of endpoints

The last segment of a qualified name, which names a controller or a type, and the endpoint names
that stand for the controller itself.
-/

namespace Switchboard
namespace Endpoint

/-- The last segment of a name qualified by colons or points that is not blank, trimmed. -/
def lastSegment? (path : String) : Option String :=
  (Text.pieces (fun c => c == ':' || c == '.') path).reverse.findSome? Text.nonBlank?

/-- Endpoint names that add nothing to the route of their controller. -/
def conventionalNames : List String :=
  ["Get", "GetAll", "GetById", "Create", "Update", "Delete", "Remove"]

/-- Whether the name is one of the conventional ones, letter for letter. -/
def isConventional (name : String) : Bool :=
  conventionalNames.contains name

end Endpoint
end Switchboard
