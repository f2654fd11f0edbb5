import Switchboard.Text.Blank

/-!
# Route paths

A route path is a text of segments between slashes.  A segment may be a parameter, spelled `:name`,
`*name`, `{name}`, `{*name}`, or in braces with a constraint or an optional mark.  Two readings of a
path matter: the mounted form, with every parameter as `:name` or `*name`, on which requests are
matched, and the shape, in which the names are erased.
-/

namespace Switchboard
namespace Route

/-- A parameter of a route: a name, and whether it takes all that is left of a request path. -/
structure Parameter where
  name : String
  catchAll : Bool
deriving DecidableEq, Repr

/-- What stands between the braces of a segment in braces. -/
def braced? : List Char → Option (List Char)
  | '\x7b' :: rest => if rest.getLast? = some '\x7d' then some rest.dropLast else none
  | _ => none

/-- The name in braces without its constraint and its optional marks. -/
def bareName (inner : List Char) : List Char :=
  Text.dropEndWhile (· == '?') (inner.takeWhile (· != ':'))

/-- The untrimmed name of a parameter segment, and whether it is a catch-all. -/
def parameterChars (segment : List Char) : Option (List Char × Bool) :=
  match braced? segment with
  | some inner =>
    match bareName inner with
    | '*' :: name => some (name, true)
    | name => some (name, false)
  | none =>
    match segment with
    | ':' :: name => some (name, false)
    | '*' :: name => some (name, true)
    | _ => none

/-- The parameter that a segment spells, if it spells one. -/
def parameter? (segment : String) : Option Parameter :=
  (parameterChars segment.toList).map fun (name, catchAll) =>
    ⟨Text.trim (String.ofList name), catchAll⟩

def segments (path : String) : List String :=
  Text.pieces (· == '/') path

def mountedSegment (segment : String) : String :=
  match parameter? segment with
  | some ⟨name, true⟩ => "*" ++ name
  | some ⟨name, false⟩ => ":" ++ name
  | none => segment

def segmentShape (segment : String) : String :=
  match parameter? segment with
  | some ⟨_, true⟩ => "*"
  | some ⟨_, false⟩ => ":"
  | none => segment

/-- The path on which requests are matched. -/
def mounted (path : String) : String :=
  Text.glue '/' ((segments path).map mountedSegment)

/-- The path with the names of its parameters erased. -/
def shape (path : String) : String :=
  Text.glue '/' ((segments path).map segmentShape)

/-- One absolute path of several parts: slashes at the ends of a part and empty parts vanish. -/
def joined (parts : List String) : String :=
  "/" ++ Text.glue '/' ((parts.map (Text.trimBy (· == '/'))).filter (!·.isEmpty))

end Route
end Switchboard
