import Switchboard.Dispatch.Handler

/-!
# Sample requests

The types of request that the sample handlers take: what they hold, how they are read from documents,
and the rules by which they are validated.
-/

namespace Switchboard
namespace Sample

open Dispatch (FieldError RequestType failing)
open Document (Dialect Field readDraft required)

/-- The contents of a request. -/
inductive Contents where
  | ping
  | getAll (start : Option String)
  | create (name : String)
  | find (name : String)
  | rename (name newName : String)
  | page (offset limit : Nat) (desc : Option Bool)
  | fail (kind detail : String)
  | work (name : String) (steps : Nat) (cancelAt : Option Nat) (failure : Option String)
  | greet (name : String)
  | echo (value : Json.Value)

variable {V ε : Type}

/-- The greatest number of 8 binary digits. -/
def maxUInt8 : Nat := Nat.pow 2 8 - 1

/-- The greatest number of 32 binary digits. -/
def maxUInt32 : Nat := Nat.pow 2 32 - 1

/-- A number of 32 binary digits. -/
def readWord32 (dialect : Dialect V ε) : V → Except ε Nat :=
  dialect.natural maxUInt32 "u32"

def readPing (dialect : Dialect V ε) (value : V) : Except ε Contents :=
  (readDraft dialect "Ping" [] () value).map fun _ => .ping

/-- A request for all names that is being read. -/
structure GetAllDraft where
  start : Option (Option String) := none

/-- A request for all names, or for those with a given start. -/
def readGetAll (dialect : Dialect V ε) (value : V) : Except ε Contents :=
  let fields : List (Field V ε GetAllDraft) :=
    [.of "prefix" true (·.start) (fun a draft => { draft with start := some a })
      (dialect.optional dialect.text)]
  (readDraft dialect "GetAll" fields {} value).map fun draft => .getAll (draft.start.getD none)

/-- A request with a name that is being read. -/
structure NameDraft where
  name : Option String := none

/-- A request of the given type that holds a name only. -/
def readNamed (type : String) (make : String → Contents) (dialect : Dialect V ε) (value : V) :
    Except ε Contents := do
  let fields : List (Field V ε NameDraft) :=
    [.of "name" false (·.name) (fun a draft => { draft with name := some a }) dialect.text]
  let draft ← readDraft dialect type fields {} value
  let name ← required dialect "name" draft.name
  return make name

/-- A request with two texts that is being read. -/
structure TwoTextsDraft where
  first : Option String := none
  second : Option String := none

/-- A request of the given type that holds two texts. -/
def readTwoTexts (type first second : String) (make : String → String → Contents)
    (dialect : Dialect V ε) (value : V) : Except ε Contents := do
  let fields : List (Field V ε TwoTextsDraft) :=
    [.of first false (·.first) (fun a draft => { draft with first := some a }) dialect.text,
      .of second false (·.second) (fun a draft => { draft with second := some a }) dialect.text]
  let draft ← readDraft dialect type fields {} value
  let one ← required dialect first draft.first
  let other ← required dialect second draft.second
  return make one other

/-- A request for a page that is being read. -/
structure PageDraft where
  offset : Option Nat := none
  limit : Option Nat := none
  desc : Option (Option Bool) := none

def readPage (dialect : Dialect V ε) (value : V) : Except ε Contents := do
  let fields : List (Field V ε PageDraft) :=
    [.of "offset" true (·.offset) (fun a draft => { draft with offset := some a })
        (readWord32 dialect),
      .of "limit" false (·.limit) (fun a draft => { draft with limit := some a })
        (dialect.natural maxUInt8 "u8"),
      .of "desc" false (·.desc) (fun a draft => { draft with desc := some a })
        (dialect.optional dialect.flag)]
  let draft ← readDraft dialect "Page" fields {} value
  let limit ← required dialect "limit" draft.limit
  return .page (draft.offset.getD 0) limit (draft.desc.getD none)

/-- A request for work that is being read. -/
structure WorkDraft where
  name : Option String := none
  steps : Option Nat := none
  cancelAt : Option (Option Nat) := none
  failure : Option (Option String) := none

def readWork (dialect : Dialect V ε) (value : V) : Except ε Contents := do
  let fields : List (Field V ε WorkDraft) :=
    [.of "name" false (·.name) (fun a draft => { draft with name := some a }) dialect.text,
      .of "steps" true (·.steps) (fun a draft => { draft with steps := some a })
        (readWord32 dialect),
      .of "cancel_at" false (·.cancelAt) (fun a draft => { draft with cancelAt := some a })
        (dialect.optional (readWord32 dialect)),
      .of "fail" false (·.failure) (fun a draft => { draft with failure := some a })
        (dialect.optional dialect.text)]
  let draft ← readDraft dialect "Work" fields {} value
  let name ← required dialect "name" draft.name
  return .work name (draft.steps.getD 0) (draft.cancelAt.getD none) (draft.failure.getD none)

/-- Form data as a JSON value: the last value of each name. -/
def jsonOfForm : Http.FormValue → Json.Value
  | .pairs pairs => .object (Json.ordered (pairs.map fun (name, value) => (name, .text value)))
  | .text value => .text value

def createRules (name : String) : List FieldError :=
  failing (Text.trim name).isEmpty "name" "must not be empty" ++
    failing (12 < name.length) "name" "is too long" ++
    failing (name.toList.contains '!') "name" "must not shout"

def renameRules (name newName : String) : List FieldError :=
  failing name.isEmpty "name" "must not be empty" ++
    failing newName.isEmpty "to" "must not be empty" ++
    failing (newName == name) "to" "must differ"

def pageRules (offset limit : Nat) : List FieldError :=
  failing (limit == 0) "limit" "must be positive" ++
    failing (1000 < offset) "offset" "is too large"

/-- The rules that fail for a request. -/
def Contents.validate : Contents → List FieldError
  | .create name => createRules name
  | .rename name newName => renameRules name newName
  | .page offset limit _ => pageRules offset limit
  | _ => []

/-- A type of request that is a record. -/
def recordType (name : String)
    (read : {V ε : Type} → Dialect V ε → V → Except ε Contents) : RequestType Contents where
  name := name
  ofJson := read Json.dialect
  ofForm := read Http.formDialect
  validate contents := Dispatch.checkRules contents.validate

def pingType : RequestType Contents := recordType "Ping" readPing

def getAllType : RequestType Contents := recordType "GetAll" readGetAll

def createType : RequestType Contents := recordType "Create" (readNamed "Create" .create)

def findType : RequestType Contents := recordType "Find" (readNamed "Find" .find)

def renameType : RequestType Contents :=
  recordType "Rename" (readTwoTexts "Rename" "name" "to" .rename)

def pageType : RequestType Contents := recordType "Page" readPage

def failType : RequestType Contents :=
  recordType "Fail" (readTwoTexts "Fail" "kind" "detail" .fail)

def workType : RequestType Contents := recordType "Work" readWork

def greetType : RequestType Contents := recordType "Greet" (readNamed "Greet" .greet)

/-- Requests that hold any value. -/
def echoType : RequestType Contents where
  name := "Echo"
  ofJson value := .ok (.echo value)
  ofForm value := .ok (.echo (jsonOfForm value))
  validate contents := Dispatch.checkRules contents.validate

def requestTypes : List (RequestType Contents) :=
  [pingType, getAllType, createType, findType, renameType, pageType, failType, workType, greetType,
    echoType]

/-- The type of request with a name. -/
def requestType? (name : String) : Option (RequestType Contents) :=
  requestTypes.find? (·.name == name)

/-- Why a request cannot be made. -/
inductive RequestFault where
  | unknownType (name : String)
  | unreadable (fault : Json.Fault)

def RequestFault.message : RequestFault → String
  | .unknownType name => "unknown request type " ++ name
  | .unreadable fault => fault.message

/-- The request of a type with the given fields. -/
def makeRequest (type : String) (fields : Json.Value) :
    Except RequestFault (Dispatch.Request Contents) :=
  match requestType? type with
  | none => .error (.unknownType type)
  | some found =>
    match found.ofJson fields with
    | .error fault => .error (.unreadable fault)
    | .ok contents => .ok ⟨type, contents⟩

end Sample
end Switchboard
