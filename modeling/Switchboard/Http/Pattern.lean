import Switchboard.Text.Split

/-!
# Path patterns

A pattern is a path in which some parts stand for others: a colon and a name for a part of a segment
that is not empty, up to the next slash, and a star and a name for all that is left, which is not
empty either.  Patterns that are tried together must differ by more than the names in them, and no two
of them may have different marks in one place.  Where several patterns match a path, the one counts
that has a plain character where the others have a mark.
-/

namespace Switchboard
namespace Http

/-- A part of a pattern. -/
inductive Part where
  | literal (c : Char)
  | param
  | rest
deriving DecidableEq, Repr

/-- A pattern with the names erased. -/
abbrev Pattern := List Part

/-- Whether a character marks a part that has a name. -/
def isMark (c : Char) : Bool := c == ':' || c == '*'

/-- A pattern may have fewer parameters than this. -/
def paramLimit : Nat := 26

/-- The pattern that a text spells: a name is not empty and holds no mark, and a star comes last. -/
def Pattern.read? : List Char → Option Pattern
  | [] => some []
  | c :: rest =>
    if isMark c then
      let name := rest.takeWhile (· != '/')
      if name.isEmpty || name.any isMark then none
      else if c == '*' then
        if name.length == rest.length then some [.rest] else none
      else (Pattern.read? (rest.drop name.length)).map (.param :: ·)
    else (Pattern.read? rest).map (.literal c :: ·)
termination_by text => text.length
decreasing_by all_goals simp only [List.length_drop, List.length_cons]; omega

/-- The pattern of a path. -/
def Pattern.ofPath? (path : String) : Option Pattern :=
  (Pattern.read? path.toList).filter fun pattern => pattern.count .param < paramLimit

/-- Whether two patterns cannot be tried together: they are equal, or have different marks in one
place, or a star in one place. -/
def Pattern.clashes : Pattern → Pattern → Bool
  | [], [] => true
  | .rest :: _, .rest :: _ => true
  | .param :: _, .rest :: _ => true
  | .rest :: _, .param :: _ => true
  | a :: p, b :: q => a == b && clashes p q
  | _, _ => false

/-- What stands before the star of a pattern, if it has one. -/
def Pattern.beforeRest? (pattern : Pattern) : Option Pattern :=
  if pattern.getLast? = some .rest then some pattern.dropLast else none

/-- Whether the star of a pattern is well placed: after a slash, or where an earlier pattern goes on
in another way. -/
def Pattern.isAnchored (earlier : List Pattern) (pattern : Pattern) : Bool :=
  match pattern.beforeRest? with
  | none => true
  | some before =>
    before.getLast? == some (.literal '/') || earlier.any fun other => before.isPrefixOf other

/-- Whether a pattern can be tried together with earlier ones. -/
def Pattern.fits (earlier : List Pattern) (pattern : Pattern) : Bool :=
  !earlier.any (pattern.clashes ·) && pattern.isAnchored earlier

/-- Whether patterns can be tried together, after earlier ones. -/
def Pattern.allFit : List Pattern → List Pattern → Bool
  | _, [] => true
  | earlier, pattern :: rest => pattern.fits earlier && allFit (earlier ++ [pattern]) rest

/-- Whether a pattern matches a path. -/
def Pattern.matchesPath : Pattern → List Char → Bool
  | [], path => path.isEmpty
  | .literal c :: rest, path =>
    match path with
    | d :: path => c == d && matchesPath rest path
    | [] => false
  | .param :: rest, path =>
    match path.takeWhile (· != '/') with
    | [] => false
    | segment => matchesPath rest (path.drop segment.length)
  | .rest :: rest, path => rest.isEmpty && !path.isEmpty

/-- Whether a pattern has a plain character at the first place where another one differs from it. -/
def Pattern.isPreferred : Pattern → Pattern → Bool
  | .literal _ :: _, .param :: _ => true
  | .literal _ :: _, .rest :: _ => true
  | a :: p, b :: q => a == b && isPreferred p q
  | _, _ => false

end Http
end Switchboard
