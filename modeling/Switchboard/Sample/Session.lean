import Switchboard.Sample.Host

/-!
# Sessions

A session holds calls by name and gives them turns in any order.  Tokens have names too, so that calls
can share them; a token is made when it is first named.  When a session ends, the calls that are left
are dropped in the order of their names.
-/

namespace Switchboard
namespace Sample

open Catalogue (lookup?)
open Dispatch (Answer Token)

abbrev SampleCall := Dispatch.Call State (Dispatch.Scope State Component) Contents

/-- A mediator with the calls that are open, in the order of their names. -/
structure Session where
  mediator : SampleMediator
  calls : List (String × SampleCall)
  tokens : List (String × Token)
  state : State

/-- A step of a session. -/
inductive Step where
  /-- Makes a call, which drops the call that had its name. -/
  | start (call type : String) (fields : Json.Value) (token : Option String)
  /-- Makes a call without a name and gives it turns until it ends. -/
  | run (type : String) (fields : Json.Value) (token : Option String)
  | poll (call : String)
  | drop (call : String)
  | cancel (token : String)
  | contains (type : String)

/-- What a step says. -/
inductive StepResult where
  | done
  | started
  | pending
  | ended (answer : Answer)
  | settled (answer : Answer) (turns : Nat)
  | noRequest (fault : RequestFault)
  | noCall
  | flag (value : Bool)
  | noType

namespace Session

/-- A session in which no call has been made. -/
def begin (mediator : SampleMediator) (state : State) : Session :=
  ⟨mediator, [], [], state⟩

/-- The token of a name; without a name it is a new one. -/
def token (name : Option String) (session : Session) : Token × Session :=
  match name.bind (lookup? · session.tokens) with
  | some token => (token, session)
  | none =>
    let (token, state) := session.state.newToken
    let named := name.toList.map (·, token)
    (token, { session with state := state, tokens := named ++ session.tokens })

/-- The session without a call, and whether there was one. -/
def dropCall (name : String) (session : Session) : Bool × Session :=
  match lookup? name session.calls with
  | none => (false, session)
  | some call =>
    (true, { session with
      calls := session.calls.filter (·.1 != name)
      state := session.mediator.drop call session.state })

/-- One turn of the call with a name. -/
def pollCall (name : String) (session : Session) : StepResult × Session :=
  match lookup? name session.calls with
  | none => (.noCall, session)
  | some call =>
    match session.mediator.poll call session.state with
    | (.inl answer, state) =>
      (.ended answer, { session with calls := session.calls.filter (·.1 != name), state := state })
    | (.inr call, state) =>
      (.pending, { session with calls := Json.insertKey name call session.calls, state := state })

def perform (step : Step) (session : Session) : StepResult × Session :=
  match step with
  | .start call type fields tokenName =>
    match makeRequest type fields with
    | .error fault => (.noRequest fault, session)
    | .ok request =>
      let (token, session) := session.token tokenName
      let (_, session) := session.dropCall call
      (.started, { session with
        calls := Json.insertKey call (.waiting request token) session.calls })
  | .run type fields tokenName =>
    match makeRequest type fields with
    | .error fault => (.noRequest fault, session)
    | .ok request =>
      let (token, session) := session.token tokenName
      let (answer, turns, state) := session.mediator.dispatch request token session.state
      (.settled answer turns, { session with state := state })
  | .poll call => session.pollCall call
  | .drop call =>
    let (existed, session) := session.dropCall call
    (.flag existed, session)
  | .cancel tokenName =>
    let (token, session) := session.token (some tokenName)
    (.done, { session with state := session.state.cancel token })
  | .contains type =>
    match requestType? type with
    | none => (.noType, session)
    | some _ => (.flag (session.mediator.registry.contains type), session)

def finish (session : Session) : State :=
  session.calls.foldl (fun state (_, call) => session.mediator.drop call state) session.state

end Session
end Sample
end Switchboard
