import Switchboard.Text.Split

/-!
# Result types

A result type is resolved when it is not empty, its angle brackets match, and no part of it between
brackets, commas, ampersands and blanks is the placeholder for a type.
-/

namespace Switchboard
namespace Catalogue

/-- Whether the angle brackets of a text match, with `depth` of them open in front of it. -/
def bracketsMatch : Nat → List Char → Bool
  | depth, [] => depth == 0
  | depth, c :: rest =>
    if c = '<' then bracketsMatch (depth + 1) rest
    else if c = '>' then
      match depth with
      | 0 => false
      | depth + 1 => bracketsMatch depth rest
    else bracketsMatch depth rest

/-- What separates the parts of a type. -/
def isTypeSeparator (c : Char) : Bool :=
  "<>,()[]& ".toList.contains c

/-- Whether a part of the type is the placeholder. -/
def hasPlaceholder (type : List Char) : Bool :=
  (Text.split isTypeSeparator type).contains ['_']

/-- Whether a type is resolved. -/
def isResolved (type : String) : Bool :=
  !type.isEmpty && bracketsMatch 0 type.toList && !hasPlaceholder type.toList

end Catalogue
end Switchboard
