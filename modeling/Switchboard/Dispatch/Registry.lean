import Switchboard.Dispatch.Handler

/-!
# Registries

A registry holds one handler for each type of request it knows.  Registering a second handler for a
type is refused and leaves the registry as it was.
-/

namespace Switchboard
namespace Dispatch

/-- Handlers, no two of which are meant for the same type of request. -/
structure Registry (σ ρ ι : Type) where
  handlers : List (Handler σ ρ ι)

/-- A request type for which a second handler was registered. -/
structure DuplicateHandler where
  request : String
deriving DecidableEq, Repr

def DuplicateHandler.message (fault : DuplicateHandler) : String :=
  "Duplicate handler registered for " ++ fault.request

namespace Registry

variable {σ ρ ι : Type}

def empty : Registry σ ρ ι := ⟨[]⟩

def find? (registry : Registry σ ρ ι) (request : String) : Option (Handler σ ρ ι) :=
  registry.handlers.find? (·.request.name == request)

/-- Whether there is a handler for a type of request. -/
def contains (registry : Registry σ ρ ι) (request : String) : Bool :=
  (registry.find? request).isSome

def size (registry : Registry σ ρ ι) : Nat :=
  registry.handlers.length

/-- The registry with one more handler, if its type of request is new. -/
def register (registry : Registry σ ρ ι) (handler : Handler σ ρ ι) :
    Except DuplicateHandler (Registry σ ρ ι) :=
  if registry.contains handler.request.name then .error ⟨handler.request.name⟩
  else .ok ⟨registry.handlers ++ [handler]⟩

/-- A handler is registered in place: its type is looked up, and only then is it put in. -/
def enter (handler : Handler σ ρ ι) : EStateM DuplicateHandler (Registry σ ρ ι) Unit := do
  let registry ← get
  if registry.contains handler.request.name then
    throw ⟨handler.request.name⟩
  set (⟨registry.handlers ++ [handler]⟩ : Registry σ ρ ι)

/-- The registry of handlers that take different types of request. -/
def ofHandlers (handlers : List (Handler σ ρ ι)) : Except DuplicateHandler (Registry σ ρ ι) :=
  handlers.foldlM register empty

end Registry
end Dispatch
end Switchboard
