import Switchboard.Text.Split

/-!
# Media types

A media type is a type, a subtype that may end in a suffix, and parameters.  Only one question is
asked of it here: whether it is JSON, by its subtype or by its suffix.
-/

namespace Switchboard
namespace Http

/-- A character of a token. -/
def isTokenChar (c : Char) : Bool :=
  c.isAlphanum || "!#$%&'*+-.^_\x60|~".toList.contains c

/-- A media type without its parameters, in lower case. -/
structure MediaType where
  type : String
  subtype : String
  suffix : Option String
deriving DecidableEq, Repr

/-- What is left after a quoted value, from its first character on; it may not be empty. -/
def skipQuoted? : Bool → Bool → List Char → Option (List Char)
  | _, _, [] => none
  | first, true, c :: rest =>
    if c.toNat > 31 && c.toNat != 127 then skipQuoted? first false rest else none
  | first, false, c :: rest =>
    if c == '"' && !first then some rest
    else if c == '\\' then skipQuoted? false true rest
    else if c.toNat > 31 && c.toNat != 127 then skipQuoted? false false rest
    else none

/-- Whether a text is a list of parameters with semicolons between them; `fuel` bounds their
number. -/
def areParameters : Nat → List Char → Bool
  | 0, _ => false
  | fuel + 1, text =>
    match text.dropWhile (· == ' ') with
    | [] => true
    | text =>
      let name := text.takeWhile isTokenChar
      match text.drop name.length with
      | '=' :: '"' :: rest =>
        !name.isEmpty &&
          (match (skipQuoted? true false rest).map fun rest => rest.dropWhile (· == ' ') with
          | some [] => true
          | some (';' :: rest) => areParameters fuel rest
          | _ => false)
      | '=' :: rest =>
        let value := rest.takeWhile isTokenChar
        !name.isEmpty &&
          (match rest.drop value.length with
          | [] => true
          | ';' :: rest => !value.isEmpty && areParameters fuel rest
          | _ => false)
      | _ => false

/-- A text in lower case, for the first 128 characters. -/
def lowered (cs : List Char) : String := String.ofList (cs.map Char.toLower)

/-- A subtype cut at its last plus sign, unless that comes first. -/
def cutSuffix (subtype : List Char) : String × Option String :=
  match subtype.reverse.span (· != '+') with
  | (_, []) | (_, [_]) => (lowered subtype, none)
  | (suffix, _ :: front) => (lowered front.reverse, some (lowered suffix.reverse))

/-- The media type that a text spells. -/
def MediaType.parse? (text : String) : Option MediaType :=
  let cs := text.toList
  let type := cs.takeWhile isTokenChar
  match cs.drop type.length with
  | '/' :: rest =>
    let subtype := rest.takeWhile isTokenChar
    let (name, suffix) := cutSuffix subtype
    let isWhole :=
      match rest.drop subtype.length with
      | [] => true
      | ';' :: rest => !subtype.isEmpty && areParameters (rest.length + 1) rest
      | _ => false
    if type.isEmpty || !isWhole then none else some ⟨lowered type, name, suffix⟩
  | _ => none

/-- Whether a media type is JSON. -/
def MediaType.isJson (media : MediaType) : Bool :=
  media.type == "application" && (media.subtype == "json" || media.suffix == some "json")

end Http
end Switchboard
