import Switchboard.Text.Split

/-!
# Request targets

What a request asks for: a path with a query, or an authority that may have both.  The rules are those
of the characters: which of them may stand in a path, in a query and in an authority.
-/

namespace Switchboard
namespace Http

/-- The path and the query of a target; a target that is an authority alone has an empty path. -/
structure Uri where
  path : String
  query : Option String
deriving DecidableEq, Repr

/-- Why a text is no target. -/
inductive UriFault where
  | empty
  | tooLong
  | character
  | authority
  | scheme
  | format
deriving DecidableEq, Repr

def UriFault.message : UriFault → String
  | .empty => "empty string"
  | .tooLong => "uri too long"
  | .character => "invalid uri character"
  | .authority => "invalid authority"
  | .scheme => "scheme too long"
  | .format => "invalid format"

/-- The greatest number of octets of a target. -/
def uriLimit : Nat := 65534

/-- The characters of a path. -/
def isPathChar (c : Char) : Bool :=
  let n := c.toNat
  n == 0x21 || n == 0x22 || (0x24 ≤ n && n ≤ 0x3B) || n == 0x3D || (0x40 ≤ n && n ≤ 0x5F) ||
    (0x61 ≤ n && n != 0x60)

/-- The characters of a query. -/
def isQueryChar (c : Char) : Bool :=
  let n := c.toNat
  n == 0x21 || (0x24 ≤ n && n ≤ 0x3B) || n == 0x3D || 0x3F ≤ n

/-- A path with an optional query; what follows a number sign is dropped. -/
def readPath (text : List Char) : Except UriFault Uri :=
  let path := text.takeWhile fun c => c != '?' && c != '#'
  if !path.all isPathChar then .error .character
  else
    match text.drop path.length with
    | '?' :: rest =>
      let query := rest.takeWhile (· != '#')
      if query.all isQueryChar then .ok ⟨String.ofList path, some (String.ofList query)⟩
      else .error .character
    | _ => .ok ⟨String.ofList path, none⟩

/-- A path after an authority, where an empty one is the root. -/
def readPathAfterHost (text : List Char) : Except UriFault Uri :=
  (readPath text).map fun uri => if uri.path.isEmpty then { uri with path := "/" } else uri

/-- How far an authority has been read. -/
structure AuthorityState where
  colons : Nat := 0
  opened : Bool := false
  closed : Bool := false
  percent : Bool := false
  /-- Whether an at sign came last. -/
  atSign : Bool := false

/-- The marks that may stand in an authority besides letters, digits and those that are looked at. -/
def authorityMarks : List Char := "!$&'()*+,-.;=_~".toList

/-- The greatest number of colons in an authority. -/
def colonLimit : Nat := 8

/-- The authority after one more character. -/
def AuthorityState.next (state : AuthorityState) (c : Char) : Except UriFault AuthorityState :=
  let state := { state with atSign := false }
  if c == ':' then
    if state.colons ≥ colonLimit then .error .authority
    else .ok { state with colons := state.colons + 1 }
  else if c == '[' then
    if state.percent || state.opened then .error .authority else .ok { state with opened := true }
  else if c == ']' then
    if !state.opened || state.closed then .error .authority
    else .ok { state with closed := true, colons := 0, percent := false }
  else if c == '@' then .ok { state with colons := 0, percent := false, atSign := true }
  else if c == '%' then .ok { state with percent := true }
  else if c.isAlphanum || authorityMarks.contains c then .ok state
  else .error .character

/-- Whether an authority may end. -/
def AuthorityState.isComplete (state : AuthorityState) : Bool :=
  state.opened == state.closed && state.colons ≤ 1 && !state.atSign && !state.percent

/-- The authority at the start of a text, and what is left. -/
def readAuthority (text : List Char) : Except UriFault (List Char × List Char) :=
  let authority := text.takeWhile fun c => c != '/' && c != '?' && c != '#'
  (authority.foldlM AuthorityState.next {}).bind fun state =>
    if state.isComplete then .ok (authority, text.drop authority.length) else .error .authority

/-- The characters of a scheme. -/
def isSchemeChar (c : Char) : Bool :=
  c.isAlphanum || c == '+' || c == '-' || c == '.'

/-- The greatest length of a scheme. -/
def schemeLimit : Nat := 64

/-- What follows a scheme, if the text starts with one. -/
def afterScheme? (text : List Char) : Except UriFault (Option (List Char)) :=
  let scheme := text.takeWhile isSchemeChar
  match text.drop scheme.length with
  | ':' :: '/' :: '/' :: rest =>
    if scheme.length > schemeLimit then .error .scheme else .ok (some rest)
  | _ => .ok none

/-- The target that a text spells. -/
def Uri.parse (text : String) : Except UriFault Uri :=
  if text.utf8ByteSize > uriLimit then .error .tooLong
  else
    match text.toList with
    | [] => .error .empty
    | ['*'] => .ok ⟨"*", none⟩
    | '/' :: rest => readPath ('/' :: rest)
    | text =>
      (afterScheme? text).bind fun rest =>
        match rest with
        | none =>
          (readAuthority text).bind fun (authority, rest) =>
            if authority.isEmpty || !rest.isEmpty then .error .format else .ok ⟨"", none⟩
        | some rest =>
          (readAuthority rest).bind fun (authority, rest) =>
            if authority.isEmpty then .error .format else readPathAfterHost rest

end Http
end Switchboard
