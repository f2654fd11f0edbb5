import Switchboard.Document.Fault

/-!
# Reading records

A dialect says how a format presents texts, flags, numbers, lists, choices and records, and how it
reports what is wrong.  A record is read into a draft field by field: from entries in their order,
where a field has one name and other accepted spellings and may come once, or from elements in the
order of the fields, where only fields with a default may be left out at the end.
-/

namespace Switchboard
namespace Document

/-- A record as a format holds it: named entries, or elements in the order of the fields. -/
inductive Form (V : Type) where
  | entries (entries : List (String × V))
  | elements (elements : List V)

/-- How a format with values `V` and errors `ε` presents what a reader asks for. -/
structure Dialect (V ε : Type) where
  text : V → Except ε String
  flag : V → Except ε Bool
  natural : (limit : Nat) → (type : String) → V → Except ε Nat
  /-- Whether the value stands for the absence of an optional one. -/
  isNothing : V → Bool
  list : V → Except ε (List V)
  /-- The name among `names` that a value of the enumeration `type` chooses. -/
  choice : (type : String) → (names : List String) → V → Except ε String
  form : (record : String) → V → Except ε (Form V)
  /-- Whether elements after the last field are a fault. -/
  closed : Bool
  fault : RecordFault → ε
  /-- An error seen from outside the entry of a key. -/
  underKey : String → ε → ε
  /-- An error seen from outside an element. -/
  underIndex : Nat → ε → ε

namespace Dialect

variable {V ε α : Type}

/-- An optional value. -/
def optional (dialect : Dialect V ε) (read : V → Except ε α) (value : V) : Except ε (Option α) :=
  if dialect.isNothing value then .ok none else (read value).map some

/-- The elements read one after another, from the given position. -/
def readEach (dialect : Dialect V ε) (read : V → Except ε α) : Nat → List V → Except ε (List α)
  | _, [] => .ok []
  | index, value :: rest =>
    match read value with
    | .error e => .error (dialect.underIndex index e)
    | .ok first => (dialect.readEach read (index + 1) rest).map (first :: ·)

/-- A list of values. -/
def listOf (dialect : Dialect V ε) (read : V → Except ε α) (value : V) : Except ε (List α) :=
  (dialect.list value).bind (dialect.readEach read 0)

/-- One of named values. -/
def oneOf (dialect : Dialect V ε) (type : String) (names : List (String × α)) (fallback : α)
    (value : V) : Except ε α :=
  (dialect.choice type (names.map (·.1)) value).map fun name =>
    ((names.find? (·.1 == name)).map (·.2)).getD fallback

end Dialect

/-- A field of a record with values `V` that is read into a draft `δ`. -/
structure Field (V ε δ : Type) where
  name : String
  aliases : List String
  /-- Whether the draft has the field already. -/
  isSet : δ → Bool
  /-- The draft with the field read from a value. -/
  read : V → δ → Except ε δ
  /-- Whether a record given by its elements may end before the field. -/
  hasDefault : Bool

/-- A field with one name that keeps the value in the draft's place for it. -/
def Field.of {V ε δ α : Type} (name : String) (hasDefault : Bool) (get : δ → Option α)
    (set : α → δ → δ) (read : V → Except ε α) : Field V ε δ where
  name := name
  aliases := []
  isSet draft := (get draft).isSome
  read value draft := (read value).map fun a => set a draft
  hasDefault := hasDefault

/-- The field with a further accepted spelling. -/
def Field.orNamed {V ε δ : Type} (field : Field V ε δ) (spelling : String) : Field V ε δ :=
  { field with aliases := field.aliases ++ [spelling] }

/-- Whether a key is a spelling of the field. -/
def Field.hasKey {V ε δ : Type} (field : Field V ε δ) (key : String) : Bool :=
  field.name == key || field.aliases.contains key

variable {V ε δ : Type}

/-- The draft after one entry: unknown keys are passed over. -/
def readEntry (dialect : Dialect V ε) (fields : List (Field V ε δ)) (draft : δ)
    (entry : String × V) : Except ε δ :=
  match fields.find? (·.hasKey entry.1) with
  | none => .ok draft
  | some field =>
    if field.isSet draft then .error (dialect.fault (.duplicateField field.name))
    else
      match field.read entry.2 draft with
      | .error e => .error (dialect.underKey entry.1 e)
      | .ok draft => .ok draft

/-- The draft after elements for the fields from position `index` on. -/
def readElements (dialect : Dialect V ε) (record : String) (size : Nat) :
    Nat → List (Field V ε δ) → List V → δ → Except ε δ
  | index, [], rest, draft =>
    if dialect.closed && !rest.isEmpty then
      .error (dialect.fault (.tooMany (index + rest.length)))
    else .ok draft
  | index, field :: fields, [], draft =>
    if field.hasDefault then readElements dialect record size (index + 1) fields [] draft
    else .error (dialect.fault (.tooFew index record size))
  | index, field :: fields, value :: rest, draft =>
    match field.read value draft with
    | .error e => .error (dialect.underIndex index e)
    | .ok draft => readElements dialect record size (index + 1) fields rest draft

/-- The draft of a record. -/
def readDraft (dialect : Dialect V ε) (record : String) (fields : List (Field V ε δ)) (empty : δ)
    (value : V) : Except ε δ :=
  (dialect.form record value).bind fun form =>
    match form with
    | .entries entries => entries.foldlM (readEntry dialect fields) empty
    | .elements elements => readElements dialect record fields.length 0 fields elements empty

/-- The value of a field that must be there. -/
def required {α : Type} (dialect : Dialect V ε) (name : String) : Option α → Except ε α
  | some value => .ok value
  | none => .error (dialect.fault (.missingField name))

end Document
end Switchboard
