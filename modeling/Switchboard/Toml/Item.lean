import Switchboard.Decimal.Binary64

/-!
# TOML items

The items of a document and how they are put in.  A table is open for what the document says about
it in one of four ways: it is written in braces, it came from a dotted key, it is implied by the
headers of tables inside it, or a header defines it.  Nothing is put in twice.
-/

namespace Switchboard
namespace Toml

/-- How a table came to be. -/
inductive Origin where
  | inline
  | dotted
  | implied
  | defined
deriving DecidableEq, Repr

/-- An item of a document. -/
inductive Item where
  | text (value : String)
  | integer (value : Int)
  | double (value : Decimal.Binary64)
  | boolean (value : Bool)
  | list (items : List Item)
  | table (origin : Origin) (entries : List (String × Item))
  /-- A list of tables, each with a header of its own; the last one comes first. -/
  | tables (elements : List (List (String × Item)))

/-- A flag, for want of another item. -/
instance : Inhabited Item := ⟨.boolean false⟩

/-- The entries of a table. -/
abbrev Entries := List (String × Item)

/-- The item of a key. -/
def get? (key : String) (entries : Entries) : Option Item :=
  (entries.find? (·.1 == key)).map (·.2)

/-- The entries with the item of a key replaced, or put at the end. -/
def set (key : String) (item : Item) : Entries → Entries
  | [] => [(key, item)]
  | (other, old) :: rest =>
    if other == key then (key, item) :: rest else (other, old) :: set key item rest

/-- An item put in under a dotted key. -/
def put? (item : Item) : List String → Entries → Option Entries
  | [], _ => none
  | [key], entries => if (get? key entries).isSome then none else some (set key item entries)
  | key :: keys, entries =>
    match get? key entries with
    | none => (put? item keys []).map fun inner => set key (.table .dotted inner) entries
    | some (.table .dotted inner) =>
      (put? item keys inner).map fun inner => set key (.table .dotted inner) entries
    | some _ => none

/-- A change of the table that a header names, or that its keys so far lead to; where a list of
tables stands, the last of them is meant. -/
def within? (change : Entries → Option Entries) : List String → Entries → Option Entries
  | [], entries => change entries
  | key :: keys, entries =>
    match get? key entries with
    | none =>
      (within? change keys []).map fun inner => set key (.table .implied inner) entries
    | some (.table origin inner) =>
      if origin == .implied || origin == .defined then
        (within? change keys inner).map fun inner => set key (.table origin inner) entries
      else none
    | some (.tables (last :: before)) =>
      (within? change keys last).map fun last => set key (.tables (last :: before)) entries
    | some _ => none

/-- A table defined under a key. -/
def define? (key : String) (entries : Entries) : Option Entries :=
  match get? key entries with
  | none => some (set key (.table .defined []) entries)
  | some (.table .implied inner) => some (set key (.table .defined inner) entries)
  | some _ => none

/-- A further table in the list of tables under a key. -/
def append? (key : String) (entries : Entries) : Option Entries :=
  match get? key entries with
  | none => some (set key (.tables [[]]) entries)
  | some (.tables elements) => some (set key (.tables ([] :: elements)) entries)
  | some _ => none

/-- The table of a header put into the document. -/
def open? (isList : Bool) (header : List String) (entries : Entries) : Option Entries :=
  match header.getLast? with
  | none => none
  | some key => within? (if isList then append? key else define? key) header.dropLast entries

end Toml
end Switchboard
