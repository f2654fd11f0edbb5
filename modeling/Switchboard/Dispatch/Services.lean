import Switchboard.Catalogue.Collision

/-!
# Services

A provider opens a scope for each call and resolves the dependencies of the call from it.  The
bundled provider holds registrations by type, of which the last one counts: a shared instance is the
same in every scope, and a scoped one is built when a scope first resolves it, once in that scope.
An instance keeps the type as which it was registered, wherever it is found again.  The state that
factories may change is passed through every step.
-/

namespace Switchboard
namespace Dispatch

open Catalogue (lookup?)

/-- An instance of a service: the type it really has, and its value. -/
structure Instance (ι : Type) where
  type : String
  value : ι
deriving DecidableEq, Repr

/-- A factory of instances of a type, from one of values. -/
def Instance.builder {σ ι : Type} (type : String) (build : σ → ι × σ) (state : σ) :
    Instance ι × σ :=
  let (value, state) := build state
  (⟨type, value⟩, state)

/-- How the scopes `κ` of one source of services with values `ι` behave in a state `σ`. -/
structure Provider (σ κ ι : Type) where
  /-- Whether scopes can resolve a type. -/
  provides : String → Bool
  openScope : σ → κ × σ
  /-- The instance that a scope gives for a type, with the scope and the state afterwards. -/
  resolve : String → κ → σ → Option (Instance ι) × κ × σ
  closeScope : κ → σ → σ

/-- How a registered type is served. -/
inductive Registration (σ ι : Type) where
  | shared (made : Instance ι)
  | perScope (slot : Nat) (build : σ → Instance ι × σ)

/-- Registered services by type, and the number of slots handed out for scoped ones. -/
structure Services (σ ι : Type) where
  table : List (String × Registration σ ι)
  slots : Nat

namespace Services

variable {σ ι : Type}

def empty : Services σ ι := ⟨[], 0⟩

/-- A table with a registration that replaces an earlier one of its type. -/
def register (type : String) (registration : Registration σ ι) :
    List (String × Registration σ ι) → List (String × Registration σ ι)
  | [] => [(type, registration)]
  | (other, old) :: rest =>
    if type = other then (type, registration) :: rest
    else (other, old) :: register type registration rest

/-- The services with a value that all scopes share. -/
def shared (services : Services σ ι) (type : String) (value : ι) : Services σ ι :=
  { services with table := register type (.shared ⟨type, value⟩) services.table }

/-- The services with a value that each scope builds for itself, in a slot of its own. -/
def perScope (services : Services σ ι) (type : String) (build : σ → ι × σ) : Services σ ι where
  table := register type (.perScope services.slots (Instance.builder type build)) services.table
  slots := services.slots + 1

/-- Whether a type is registered. -/
def provides (services : Services σ ι) (type : String) : Bool :=
  (lookup? type services.table).isSome

end Services

/-- A scope: the registrations as they were when it was opened, and what has been built in it. -/
structure Scope (σ ι : Type) where
  table : List (String × Registration σ ι)
  cells : List (Option (Instance ι))

namespace Scope

variable {σ ι : Type}

def ofServices (services : Services σ ι) : Scope σ ι :=
  ⟨services.table, List.replicate services.slots none⟩

/-- The instance in a slot, which is built if it is not there yet. -/
def fill (slot : Nat) (build : σ → Instance ι × σ) (scope : Scope σ ι) (state : σ) :
    Option (Instance ι) × Scope σ ι × σ :=
  match scope.cells[slot]? with
  | none => (none, scope, state)
  | some (some made) => (some made, scope, state)
  | some none =>
    let (made, state) := build state
    (some made, { scope with cells := scope.cells.set slot (some made) }, state)

/-- The instance that is registered for a type, or built in its slot. -/
def resolve (type : String) (scope : Scope σ ι) (state : σ) :
    Option (Instance ι) × Scope σ ι × σ :=
  match lookup? type scope.table with
  | none => (none, scope, state)
  | some (.shared made) => (some made, scope, state)
  | some (.perScope slot build) => scope.fill slot build state

end Scope

/-- Registered services as a provider; nothing is done when a scope closes. -/
def Services.provider {σ ι : Type} (services : Services σ ι) : Provider σ (Scope σ ι) ι where
  provides := services.provides
  openScope state := (.ofServices services, state)
  resolve := Scope.resolve
  closeScope _ state := state

end Dispatch
end Switchboard
