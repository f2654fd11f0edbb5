import Switchboard.Dispatch.Failure
import Switchboard.Dispatch.Services

/-!
# Resolvers

A resolver draws something from a scope.  It asks the scope for services one after another, and what
it asks for next may depend on what it was given before.  In between it may change the state, and in
the end it hands over what it has made, or the reason why there is nothing.
-/

namespace Switchboard
namespace Dispatch

/-- How something is drawn from a scope of services with values `ι` in a state `σ`. -/
inductive Resolver (σ ι α : Type) where
  | done (result : Except ResolveError α)
  /-- A service is asked for; what follows depends on its value, or on why there is none. -/
  | ask (type : String) (next : Except ResolveError ι → Resolver σ ι α)
  /-- A change of the state; what follows may depend on the state before it. -/
  | act (change : σ → σ) (next : σ → Resolver σ ι α)

/-- The value of an instance, if it has the type that was asked for. -/
def Instance.as {ι : Type} (type : String) : Option (Instance ι) → Except ResolveError ι
  | none => .error (.missing type)
  | some found => if found.type = type then .ok found.value else .error (.mismatch type)

namespace Resolver

variable {σ κ ι α : Type}

/-- What is drawn from a scope, with the scope and the state afterwards. -/
def run (provider : Provider σ κ ι) : Resolver σ ι α → κ → σ → Except ResolveError α × κ × σ
  | .done result, scope, state => (result, scope, state)
  | .ask type next, scope, state =>
    let (found, scope, state) := provider.resolve type scope state
    (next (Instance.as type found)).run provider scope state
  | .act change next, scope, state => (next state).run provider scope (change state)

end Resolver
end Dispatch
end Switchboard
