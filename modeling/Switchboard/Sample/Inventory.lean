import Switchboard.Sample.World

/-!
# Inventories

An inventory holds services and scopes by name, so that registrations and scopes can be mixed in any
order.  Components are numbered as they are first seen, which shows whether two scopes share one.
-/

namespace Switchboard
namespace Sample

open Catalogue (lookup?)
open Dispatch (Scope Services)

/-- Named services and scopes, and the components seen so far. -/
structure Inventory where
  services : List (String × Services State Component)
  scopes : List (String × Scope State Component)
  seen : List Nat
  state : State

/-- A step in an inventory. -/
inductive Handling where
  | register (services : String) (offer : Offer)
  | copy (services target : String)
  | provides (services type : String)
  | openScope (services scope : String)
  | dropScope (scope : String)
  | resolve (scope type : String)

/-- What a step in an inventory says. -/
inductive HandlingResult where
  | done
  | flag (value : Bool)
  | noScope
  | nothing
  | found (number : Nat) (component : Component)

namespace Inventory

def empty : Inventory := ⟨[], [], [], .empty⟩

/-- The services of a name; there are none under a new name. -/
def servicesOf (name : String) (inventory : Inventory) : Services State Component :=
  (lookup? name inventory.services).getD .empty

/-- The number of a component, and the components seen. -/
def number (id : Nat) (seen : List Nat) : Nat × List Nat :=
  match seen.findIdx? (· == id) with
  | some index => (index, seen)
  | none => (seen.length, seen ++ [id])

/-- The component that a scope gives for a type. -/
def resolve (scope type : String) (inventory : Inventory) : HandlingResult × Inventory :=
  match lookup? scope inventory.scopes with
  | none => (.noScope, inventory)
  | some found =>
    let (result, found, state) := found.resolve type inventory.state
    let inventory := { inventory with
      scopes := Json.insertKey scope found inventory.scopes
      state := state }
    match result with
    | none => (.nothing, inventory)
    | some component =>
      let (index, seen) := number component.value.id inventory.seen
      (.found index component.value, { inventory with seen := seen })

def perform (step : Handling) (inventory : Inventory) : HandlingResult × Inventory :=
  match step with
  | .register name offer =>
    let (services, state) := offer.register (inventory.servicesOf name) inventory.state
    (.done, { inventory with
      services := Json.insertKey name services inventory.services
      state := state })
  | .copy name target =>
    (.done, { inventory with
      services := Json.insertKey target (inventory.servicesOf name) inventory.services })
  | .provides name type => (.flag ((inventory.servicesOf name).provides type), inventory)
  | .openScope name scope =>
    (.done, { inventory with
      scopes := Json.insertKey scope (.ofServices (inventory.servicesOf name)) inventory.scopes })
  | .dropScope scope =>
    (.flag (lookup? scope inventory.scopes).isSome,
      { inventory with scopes := inventory.scopes.filter (·.1 != scope) })
  | .resolve scope type => inventory.resolve scope type

end Inventory
end Sample
end Switchboard
