import Switchboard.Settings.Value

/-!
# Merging settings

A source of settings is laid over another: tables merge key by key at every depth, any other value
replaces what was there, and a table that takes part in a merge has no origin of its own.  The
top-level keys of a source may be addresses that lead into tables and lists.
-/

namespace Switchboard
namespace Setting

mutual

/-- The setting at a place after `value` is laid over what was there. -/
def merged : Option Setting → Setting → Setting
  | existing, .table _ [] => existing.getD (.table none [])
  | existing, .table _ (entry :: incoming) =>
    .table none (mergedEntries ((existing.map entries).getD []) (entry :: incoming))
  | _, .nothing origin => .nothing origin
  | _, .boolean origin value => .boolean origin value
  | _, .integer origin value => .integer origin value
  | _, .double origin value => .double origin value
  | _, .text origin value => .text origin value
  | _, .list origin items => .list origin items

/-- Entries after further entries are laid over them. -/
def mergedEntries : List (String × Setting) → List (String × Setting) → List (String × Setting)
  | present, [] => present
  | present, (key, value) :: rest =>
    mergedEntries (Json.insertKey key (merged (find? key present) value) present) rest

end

/-- One step of an address below its first key. -/
inductive Step where
  | key (name : String)
  | index (position : Nat)
deriving DecidableEq, Repr

/-- An address: a key, and steps into the value of the key. -/
structure Address where
  root : String
  steps : List Step
deriving DecidableEq, Repr

/-- The characters of the keys in an address. -/
def isKeyChar (c : Char) : Bool :=
  c.isAlphanum || c == ' ' || c == '_' || c == '-'

/-- A number in brackets, possibly between blanks, and what is left. -/
def readIndex? (cs : List Char) : Option (Nat × List Char) :=
  let isGap (c : Char) : Bool := c == ' ' || c == '\t'
  let cs := cs.dropWhile isGap
  let digits := cs.takeWhile Char.isDigit
  if digits.isEmpty then none
  else
    match (cs.dropWhile Char.isDigit).dropWhile isGap with
    | ']' :: rest =>
      some (digits.foldl (fun n c => n * 10 + (c.toNat - '0'.toNat)) 0, rest)
    | _ => none

/-- The steps that a text spells, with fuel for each. -/
def readSteps? : Nat → List Char → Option (List Step)
  | _, [] => some []
  | 0, _ => none
  | fuel + 1, '.' :: rest =>
    let name := rest.takeWhile isKeyChar
    if name.isEmpty then none
    else (readSteps? fuel (rest.dropWhile isKeyChar)).map (.key (String.ofList name) :: ·)
  | fuel + 1, '[' :: rest =>
    match readIndex? rest with
    | some (position, rest) => (readSteps? fuel rest).map (.index position :: ·)
    | none => none
  | _, _ => none

/-- The address that a key spells; a key that spells none stands for itself. -/
def Address.ofKey (key : String) : Address :=
  let cs := key.toList
  let root := cs.takeWhile isKeyChar
  match readSteps? cs.length (cs.dropWhile isKeyChar) with
  | some steps => if root.isEmpty then ⟨key, []⟩ else ⟨String.ofList root, steps⟩
  | none => ⟨key, []⟩

/-- A table with the entries changed; what is no table becomes an empty one first. -/
def inTable (change : List (String × Setting) → List (String × Setting)) : Setting → Setting
  | .table origin entries => .table origin (change entries)
  | _ => .table none (change [])

/-- A list with an element changed, filled up with nothing as far as needed; what is no list becomes
an empty one first. -/
def inList (position : Nat) (change : Setting → Setting) (setting : Setting) : Setting :=
  let (origin, items) :=
    match setting with
    | .list origin items => (origin, items)
    | _ => (none, [])
  let items := items ++ List.replicate (position + 1 - items.length) (.nothing none)
  .list origin (items.modify position change)

/-- The setting with a value placed at the end of the steps. -/
def placeAt (value : Setting) : List Step → Setting → Setting
  | [], _ => value
  | [.key name], setting =>
    inTable (fun entries => Json.insertKey name (merged (find? name entries) value) entries) setting
  | [.index position], setting => inList position (fun _ => value) setting
  | .key name :: step :: rest, setting =>
    inTable (fun entries =>
      let inner := placeAt value (step :: rest) ((find? name entries).getD (.nothing none))
      Json.insertKey name inner entries) setting
  | .index position :: step :: rest, setting =>
    inList position (placeAt value (step :: rest)) setting

/-- The entries with a value placed at an address. -/
def place (address : Address) (value : Setting) (entries : List (String × Setting)) :
    List (String × Setting) :=
  match address.steps with
  | [] => mergedEntries entries [(address.root, value)]
  | step :: steps =>
    let inner := placeAt value (step :: steps) ((find? address.root entries).getD (.nothing none))
    Json.insertKey address.root inner entries

/-- The entries of a source laid over the entries of the sources before it. -/
def layer (below source : List (String × Setting)) : List (String × Setting) :=
  source.foldl (fun entries entry => place (Address.ofKey entry.1) entry.2 entries) below

end Setting
end Switchboard
