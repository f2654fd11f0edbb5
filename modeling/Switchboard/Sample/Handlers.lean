import Switchboard.Sample.Contents
import Switchboard.Sample.World

/-!
# Sample handlers

The handlers of the sample world by their names.  A handler that is given other arguments than its
parameters ask for ends at once without a value.
-/

namespace Switchboard
namespace Sample

open Dispatch (Activity Argument Failure Handler Outcome Parameter RequestType Token)
open Endpoint (Kind)

/-- What a sample handler is given. -/
abbrev Arguments := List (Argument Contents Component)

/-- What a sample handler does. -/
abbrev Doing := Activity State Outcome

abbrev SampleHandler := Handler State Contents Component

abbrev SampleParameter := Parameter State Contents Component

def finish (value : Json.Value) : Doing := .done (.ok value)

def finishEmpty : Doing := finish .null

def finishFailed (failure : Failure) : Doing := .done (.error failure)

/-- Ends with what a function makes of the state. -/
def answer (outcome : State → Outcome) : Doing :=
  .act id fun state => .done (outcome state)

/-- Ends without a value after an event. -/
def note (event : String) : Doing :=
  .act (State.record event) fun _ => finishEmpty

/-- Changes the names in a directory, or fails. -/
def changeNames (place : Nat) (change : List String → Except Failure (List String)) : Doing :=
  .act
    (fun state =>
      match change (state.names place) with
      | .ok names => state.setNames place names
      | .error _ => state)
    fun state => .done ((change (state.names place)).map fun _ => .null)

def namesValue (names : List String) : Json.Value := .array (names.map .text)

/-- A list with the first occurrence of a member replaced, if there is one. -/
def replaceFirst? (old new : String) : List String → Option (List String)
  | [] => none
  | name :: rest =>
    if name = old then some (new :: rest) else (replaceFirst? old new rest).map (name :: ·)

/-- The names with one more name at the end, unless it is there already. -/
def addName (name : String) (names : List String) : Except Failure (List String) :=
  if names.contains name then .error (.rejected (.badRequest (name ++ " exists")))
  else .ok (names ++ [name])

/-- The names with one of them changed. -/
def changeName (name newName : String) (names : List String) : Except Failure (List String) :=
  match replaceFirst? name newName names with
  | some names => .ok names
  | none => .error (.rejected (.notFound name))

/-- A name that must be among others. -/
def findName (name : String) (names : List String) : Outcome :=
  if names.contains name then .ok (.text name) else .error (.rejected (.notFound name))

/-- The names that start with a text. -/
def startingWith (start : Option String) (names : List String) : List String :=
  names.filter fun name => (start.getD "").toList.isPrefixOf name.toList

/-- A page of names, the last ones first if they are wanted in descending order. -/
def pageOf (offset limit : Nat) (desc : Option Bool) (names : List String) : Json.Value :=
  let inOrder := if desc = some true then names.reverse else names
  .object [("items", namesValue ((inOrder.drop offset).take limit)),
    ("total", .integer names.length)]

/-- The failure that a request asks for by its kind. -/
def failureOf (kind detail : String) : Option Failure :=
  match kind with
  | "bad_request" => some (.rejected (.badRequest detail))
  | "unauthorized" => some (.rejected (.unauthorized detail))
  | "not_found" => some (.rejected (.notFound detail))
  | "plain" => some (.plain detail)
  | "typed" => some (.named "StorageOffline" "storage offline")
  | "context" => some (.inContext "while looking up" (.rejected (.notFound detail)))
  | _ => none

/-- Fails as a request asks for. -/
def failAsAsked : Arguments → Doing
  | [.request (.fail kind detail)] =>
    match failureOf kind detail with
    | some failure => finishFailed failure
    | none => finishEmpty
  | _ => finishEmpty

/-- The state with a token cancelled, if the time for it has come. -/
def cancelIf (isTime : Bool) (token : Token) (state : State) : State :=
  if isTime then state.cancel token else state

/-- The end of work. -/
def endWork (name : String) (steps : Nat) (failure : Option String) : Doing :=
  match failure with
  | some text => .act (State.record (name ++ " failed")) fun _ => finishFailed (.plain text)
  | none => .act (State.record (name ++ " done")) fun _ => finish (.integer steps)

/-- Work from step `done` on, with `left` steps left, and a pause after each of them. -/
def workFrom (name : String) (cancelAt : Option Nat) (failure : Option String) (token : Token) :
    (done left : Nat) → Doing
  | done, 0 => .act (cancelIf (cancelAt = some done) token) fun _ => endWork name done failure
  | done, left + 1 =>
    .act (fun state => cancelIf (cancelAt = some done) token
        (state.record (name ++ " step " ++ toString done)))
      fun _ => .pause (State.record (name ++ " dropped"))
        fun _ => workFrom name cancelAt failure token (done + 1) left

/-- Works step by step. -/
def working : Arguments → Doing
  | [.token token, .request (.work name steps cancelAt failure), .service ⟨_, .log⟩] =>
    workFrom name cancelAt failure token 0 steps
  | _ => finishEmpty

/-- The text of an argument. -/
def argumentText (state : State) : Argument Contents Component → String
  | .request (.greet name) => name
  | .service ⟨_, .word text⟩ => text
  | .token token => if state.isCancelled token then "cancelled" else "live"
  | _ => ""

/-- The parameter that a letter stands for. -/
def parameterOf (letter : Char) : SampleParameter :=
  match letter with
  | 'r' => .request
  | 'a' => .service "Greeting"
  | 'b' => .service "Punct"
  | 'c' => .service "Unit"
  | _ => .token

/-- The handler that greets with the texts of the arguments for some letters. -/
def greeter (letters : List Char) : SampleHandler where
  request := greetType
  response := "alloc::string::String"
  kind := .query
  parameters := letters.map parameterOf
  run arguments := answer fun state =>
    .ok (.text (Text.listed "|" (arguments.map (argumentText state))))

def commandHandler (request : RequestType Contents) (parameters : List SampleParameter)
    (run : Arguments → Doing) : SampleHandler :=
  ⟨request, "()", .command, parameters, run⟩

def queryHandler (request : RequestType Contents) (response : String)
    (parameters : List SampleParameter) (run : Arguments → Doing) : SampleHandler :=
  ⟨request, response, .query, parameters, run⟩

def directory : SampleParameter := .service "Directory"

def log : SampleParameter := .service "Log"

/-- The handlers other than those that greet. -/
def plainHandlers : List (String × SampleHandler) :=
  [("ping", commandHandler pingType [] fun _ => finishEmpty),
    ("ping_query", queryHandler pingType "()" [] fun _ => finishEmpty),
    ("ping_r", commandHandler pingType [.request] fun _ => finishEmpty),
    ("ping_log", commandHandler pingType [log, .request] fun _ => note "ping"),
    ("get_all", queryHandler getAllType "alloc::vec::Vec<alloc::string::String>"
      [.request, directory] fun
        | [.request (.getAll start), .service ⟨_, .directory place⟩] =>
          answer fun state => .ok (namesValue (startingWith start (state.names place)))
        | _ => finishEmpty),
    ("get_all_d", queryHandler getAllType "alloc::vec::Vec<alloc::string::String>" [directory] fun
        | [.service ⟨_, .directory place⟩] =>
          answer fun state => .ok (namesValue (state.names place))
        | _ => finishEmpty),
    ("create", commandHandler createType [directory, .request] fun
        | [.service ⟨_, .directory place⟩, .request (.create name)] =>
          changeNames place (addName name)
        | _ => finishEmpty),
    ("find", queryHandler findType "alloc::string::String" [.request, directory] fun
        | [.request (.find name), .service ⟨_, .directory place⟩] =>
          answer fun state => findName name (state.names place)
        | _ => finishEmpty),
    ("rename", commandHandler renameType [.request, directory] fun
        | [.request (.rename name newName), .service ⟨_, .directory place⟩] =>
          changeNames place (changeName name newName)
        | _ => finishEmpty),
    ("page", queryHandler pageType "PageResult" [.request, directory] fun
        | [.request (.page offset limit desc), .service ⟨_, .directory place⟩] =>
          answer fun state => .ok (pageOf offset limit desc (state.names place))
        | _ => finishEmpty),
    ("fail", commandHandler failType [.request] failAsAsked),
    ("fail_query", queryHandler failType "()" [.request] failAsAsked),
    ("work", queryHandler workType "u32" [.token, .request, log] working),
    ("echo", queryHandler echoType "serde_json::value::Value" [.request] fun
        | [.request (.echo value)] => finish value
        | _ => finishEmpty)]

/-- The letters of the handlers that greet. -/
def greeterLetters : List String :=
  ["", "r", "a", "t", "ra", "ar", "tr", "ab", "ba", "rab", "arb", "abr", "aar", "atr", "rabc",
    "arbc", "abrc", "abcr", "ctar"]

def greeters : List (String × SampleHandler) :=
  greeterLetters.map fun letters =>
    ("greet_" ++ (if letters.isEmpty then "0" else letters), greeter letters.toList)

/-- The handler with a name. -/
def handler? (name : String) : Option SampleHandler :=
  Catalogue.lookup? name (plainHandlers ++ greeters)

end Sample
end Switchboard
