import Switchboard.Dispatch.Registry

/-!
# The mediator

The mediator gives each request to the one handler registered for its type.  A call does nothing
before its first turn.  Then the handler is looked up, the token is looked at, a scope is opened
and the dependencies are resolved from it.  At the start of every turn of the handler the token is
looked at again.  Whichever way the call ends, the handler is gone before the scope closes, and the
scope is closed.
-/

namespace Switchboard
namespace Dispatch

/-- A registry, the provider of its handlers' dependencies, and how tokens are read. -/
structure Mediator (σ κ ρ ι : Type) where
  registry : Registry σ ρ ι
  provider : Provider σ κ ι
  isCancelled : Token → σ → Bool

/-- How a call ends. -/
abbrev Answer := Except DispatchError Json.Value

/-- The answer that a handler's outcome makes. -/
def Answer.ofOutcome (outcome : Outcome) : Answer :=
  outcome.mapError .failed

/-- A call whose handler has its arguments: the scope, what is to be done if the call is dropped
now, and how the handler goes on. -/
structure Running (σ κ : Type) where
  request : String
  token : Token
  scope : κ
  onDrop : σ → σ
  next : σ → Activity σ Outcome

/-- A call that has not ended. -/
inductive Call (σ κ ρ : Type) where
  | waiting (request : Request ρ) (token : Token)
  | running (running : Running σ κ)

namespace Mediator

variable {σ κ ρ ι : Type}

/-- What comes before the handler's first turn: a scope and the activity of the handler, or the
error with which the call ends. -/
def start (mediator : Mediator σ κ ρ ι) (request : Request ρ) (token : Token) (state : σ) :
    Except DispatchError (κ × Activity σ Outcome) × σ :=
  match mediator.registry.find? request.type with
  | none => (.error (.noHandler request.type), state)
  | some handler =>
    if mediator.isCancelled token state then (.error (.cancelled request.type), state)
    else
      let (scope, state) := mediator.provider.openScope state
      match resolveAll mediator.provider request.contents token handler.parameters scope state with
      | (.error cause, scope, state) =>
        (.error (.unresolved request.type cause), mediator.provider.closeScope scope state)
      | (.ok arguments, scope, state) =>
        match handler.handle request arguments with
        | none => (.error (.noHandler request.type), mediator.provider.closeScope scope state)
        | some activity => (.ok (scope, activity), state)

/-- One turn of a running call: its answer, or the call that is left. -/
def advance (mediator : Mediator σ κ ρ ι) (running : Running σ κ) (state : σ) :
    (Answer ⊕ Running σ κ) × σ :=
  if mediator.isCancelled running.token state then
    (.inl (.error (.cancelled running.request)),
      mediator.provider.closeScope running.scope (running.onDrop state))
  else
    match (running.next state).turn state with
    | (.ended outcome, state) =>
      (.inl (.ofOutcome outcome), mediator.provider.closeScope running.scope state)
    | (.paused onDrop next, state) =>
      (.inr { running with onDrop := onDrop, next := next }, state)

/-- One turn of a call: its answer, or the call that is left. -/
def poll (mediator : Mediator σ κ ρ ι) (call : Call σ κ ρ) (state : σ) :
    (Answer ⊕ Call σ κ ρ) × σ :=
  let advanced (running : Running σ κ) (state : σ) : (Answer ⊕ Call σ κ ρ) × σ :=
    match mediator.advance running state with
    | (.inl answer, state) => (.inl answer, state)
    | (.inr running, state) => (.inr (.running running), state)
  match call with
  | .running running => advanced running state
  | .waiting request token =>
    match mediator.start request token state with
    | (.error error, state) => (.inl (.error error), state)
    | (.ok (scope, activity), state) =>
      advanced ⟨request.type, token, scope, id, fun _ => activity⟩ state

/-- The state after a call is dropped. -/
def drop (mediator : Mediator σ κ ρ ι) (call : Call σ κ ρ) (state : σ) : σ :=
  match call with
  | .waiting _ _ => state
  | .running running => mediator.provider.closeScope running.scope (running.onDrop state)

/-- The answer to a request whose call is given turn after turn until it ends, and the number of
turns. -/
def dispatch (mediator : Mediator σ κ ρ ι) (request : Request ρ) (token : Token) (state : σ) :
    Answer × Nat × σ :=
  match mediator.start request token state with
  | (.error error, state) => (.error error, 1, state)
  | (.ok (scope, activity), state) =>
    if mediator.isCancelled token state then
      (.error (.cancelled request.type), 1, mediator.provider.closeScope scope state)
    else
      let (outcome, turns, state) := activity.settle (mediator.isCancelled token) 0 state
      let answer : Answer :=
        match outcome with
        | some outcome => .ofOutcome outcome
        | none => .error (.cancelled request.type)
      (answer, turns, mediator.provider.closeScope scope state)

end Mediator
end Dispatch
end Switchboard
