import Switchboard.Dispatch.Handler
import Switchboard.Proofs.Catalogue.Collision
import Mathlib.Data.List.Induction
import Mathlib.Data.List.Nodup

/-!
# What scopes of registered services give

Services are registered one after another, and of the registrations of a type the last one counts.
Slots are handed out by a counter that runs beside the table, and a registration that is replaced
leaves its slot behind.  Still each scoped registration in the table has a slot below the counter
that no other type has (`Services.WellFormed`), so a scope has a cell for each scoped type, and only
instances of that type ever stand in it (`Scope.IsOf`).  Hence a type is provided exactly if scopes
resolve it, and what they give is an instance of that very type, from its last registration.

Of factories nothing is assumed here but that they end.
-/

namespace Switchboard
namespace Dispatch

open Catalogue (lookup?)

variable {σ ι : Type}

/-- A call that registers a service. -/
inductive Registering (σ ι : Type) where
  | shared (type : String) (value : ι)
  | perScope (type : String) (build : σ → ι × σ)

namespace Registering

/-- The type as which the service is registered. -/
def type : Registering σ ι → String
  | .shared type _ => type
  | .perScope type _ => type

/-- The first instance that a scope is given, and the state afterwards: the shared one, or one that
the factory makes. -/
def supply : Registering σ ι → σ → Instance ι × σ
  | .shared type value, state => (⟨type, value⟩, state)
  | .perScope type build, state => Instance.builder type build state

end Registering

/-- The last call that registers a type. -/
def lastFor (type : String) (calls : List (Registering σ ι)) : Option (Registering σ ι) :=
  calls.reverse.find? fun call => decide (call.type = type)

theorem lastFor_append_singleton (type : String) (calls : List (Registering σ ι))
    (call : Registering σ ι) :
    lastFor type (calls ++ [call]) =
      if call.type = type then some call else lastFor type calls := by
  unfold lastFor
  rw [List.reverse_append, List.reverse_singleton, List.singleton_append, List.find?_cons]
  by_cases hType : call.type = type
  · simp [hType]
  · simp [hType]

theorem lastFor_eq_none_iff (type : String) (calls : List (Registering σ ι)) :
    lastFor type calls = none ↔ ∀ call ∈ calls, call.type ≠ type := by
  simp [lastFor, List.find?_eq_none]

theorem type_of_lastFor {type : String} {calls : List (Registering σ ι)}
    {call : Registering σ ι} (hLast : lastFor type calls = some call) : call.type = type := by
  simpa using List.find?_some hLast

namespace Services

/-- The services after one more call. -/
def perform (services : Services σ ι) : Registering σ ι → Services σ ι
  | .shared type value => services.shared type value
  | .perScope type build => services.perScope type build

/-- The services that calls register, from none at all. -/
def ofCalls (calls : List (Registering σ ι)) : Services σ ι :=
  calls.foldl perform .empty

theorem ofCalls_append_singleton (calls : List (Registering σ ι)) (call : Registering σ ι) :
    ofCalls (calls ++ [call]) = (ofCalls calls).perform call := by
  simp [ofCalls]

/-! ### The table -/

theorem lookup?_register (key type : String) (registration : Registration σ ι)
    (table : List (String × Registration σ ι)) :
    lookup? key (register type registration table) =
      if key = type then some registration else lookup? key table := by
  unfold lookup?
  induction table with
  | nil =>
      by_cases hKey : key = type
      · simp [register, hKey]
      · simp [register, hKey, Ne.symm hKey]
  | cons row rest ih =>
      obtain ⟨other, old⟩ := row
      by_cases hType : type = other
      · subst hType
        by_cases hKey : key = type
        · simp [register, hKey]
        · simp [register, hKey, Ne.symm hKey]
      · rw [register, if_neg hType, List.find?_cons, List.find?_cons]
        by_cases hOther : other = key
        · have hKey : key ≠ type := fun hSame => hType (hSame.symm.trans hOther.symm)
          simp [hOther, hKey]
        · simpa [hOther] using ih

theorem map_fst_register (type : String) (registration : Registration σ ι)
    (table : List (String × Registration σ ι)) :
    (register type registration table).map (·.1) =
      if type ∈ table.map (·.1) then table.map (·.1) else table.map (·.1) ++ [type] := by
  induction table with
  | nil => simp [register]
  | cons row rest ih =>
      obtain ⟨other, old⟩ := row
      by_cases hType : type = other
      · simp [register, hType]
      · rw [register, if_neg hType, List.map_cons, ih]
        by_cases hMem : type ∈ rest.map (·.1)
        · simp [hMem]
        · simp [hMem, hType]

/-- The registration that a call makes when `slots` have been handed out. -/
def registrationOf (slots : Nat) : Registering σ ι → Registration σ ι
  | .shared type value => .shared ⟨type, value⟩
  | .perScope type build => .perScope slots (Instance.builder type build)

theorem lookup?_perform (services : Services σ ι) (call : Registering σ ι) (key : String) :
    lookup? key (services.perform call).table =
      if key = call.type then some (registrationOf services.slots call)
      else lookup? key services.table := by
  cases call with
  | shared type value => exact lookup?_register key type _ services.table
  | perScope type build => exact lookup?_register key type _ services.table

theorem types_perform (services : Services σ ι) (call : Registering σ ι) :
    (services.perform call).table.map (·.1) =
      if call.type ∈ services.table.map (·.1) then services.table.map (·.1)
      else services.table.map (·.1) ++ [call.type] := by
  cases call with
  | shared type value => exact map_fst_register type _ services.table
  | perScope type build => exact map_fst_register type _ services.table

/-- A type that is registered again keeps its one row. -/
theorem types_nodup (calls : List (Registering σ ι)) :
    ((ofCalls calls).table.map (·.1)).Nodup := by
  induction calls using List.reverseRecOn with
  | nil => exact List.nodup_nil
  | append_singleton calls call ih =>
      rw [ofCalls_append_singleton, types_perform]
      split_ifs with hMem
      · exact ih
      · rw [← List.concat_eq_append]
        exact List.Nodup.concat hMem ih

theorem lookup?_of_mem_table {calls : List (Registering σ ι)} {type : String}
    {registration : Registration σ ι} (hRow : (type, registration) ∈ (ofCalls calls).table) :
    lookup? type (ofCalls calls).table = some registration := by
  unfold lookup?
  cases hFound : (ofCalls calls).table.find? fun row => decide (row.1 = type) with
  | none =>
      have hNone := List.find?_eq_none.mp hFound _ hRow
      simp at hNone
  | some row =>
      have hType : row.1 = type := by simpa using List.find?_some hFound
      have hSame := List.inj_on_of_nodup_map (types_nodup calls)
        (List.mem_of_find?_eq_some hFound) hRow hType
      rw [hSame]
      rfl

theorem slots_le_perform (services : Services σ ι) (call : Registering σ ι) :
    services.slots ≤ (services.perform call).slots := by
  cases call with
  | shared type value => exact Nat.le_refl _
  | perScope type build => exact Nat.le_succ _

/-- The table holds, for each type, what its last call registered. -/
theorem lookup?_ofCalls (calls : List (Registering σ ι)) (type : String) :
    (lookup? type (ofCalls calls).table = none ∧ lastFor type calls = none) ∨
      ∃ slots call, lastFor type calls = some call ∧
        lookup? type (ofCalls calls).table = some (registrationOf slots call) := by
  induction calls using List.reverseRecOn with
  | nil => exact Or.inl ⟨rfl, rfl⟩
  | append_singleton calls call ih =>
      rw [ofCalls_append_singleton, lookup?_perform, lastFor_append_singleton]
      by_cases hType : call.type = type
      · right
        exact ⟨(ofCalls calls).slots, call, if_pos hType, if_pos hType.symm⟩
      · rw [if_neg hType, if_neg (Ne.symm hType)]
        exact ih

/-- Services in which each scoped type has a slot of its own, and all types are told truly. -/
structure WellFormed (services : Services σ ι) : Prop where
  slot_lt : ∀ type slot build,
    lookup? type services.table = some (.perScope slot build) → slot < services.slots
  slots_apart : ∀ type other slot build build',
    lookup? type services.table = some (.perScope slot build) →
      lookup? other services.table = some (.perScope slot build') → type = other
  shared_type : ∀ type made,
    lookup? type services.table = some (.shared made) → made.type = type
  built_type : ∀ type slot build,
    lookup? type services.table = some (.perScope slot build) →
      ∀ state, (build state).1.type = type

theorem wellFormed_empty : (empty : Services σ ι).WellFormed where
  slot_lt _ _ _ hNone := nomatch hNone
  slots_apart _ _ _ _ _ hNone := nomatch hNone
  shared_type _ _ hNone := nomatch hNone
  built_type _ _ _ hNone := nomatch hNone

/-- A scoped type in services after a call: it was just given the slot at the counter, or it is
another type and was there before. -/
theorem perScope_of_lookup?_perform {services : Services σ ι} {call : Registering σ ι}
    {type : String} {slot : Nat} {build : σ → Instance ι × σ}
    (hRow : lookup? type (services.perform call).table = some (.perScope slot build)) :
    (∃ make, call = .perScope type make ∧ slot = services.slots ∧
        build = Instance.builder type make) ∨
      (call.type ≠ type ∧ lookup? type services.table = some (.perScope slot build)) := by
  rw [lookup?_perform] at hRow
  by_cases hType : type = call.type
  · left
    rw [if_pos hType] at hRow
    cases call with
    | shared other value => simp [registrationOf] at hRow
    | perScope other make =>
        obtain rfl : type = other := hType
        obtain ⟨hSlot, hBuild⟩ : services.slots = slot ∧ Instance.builder type make = build := by
          simpa [registrationOf] using hRow
        exact ⟨make, rfl, hSlot.symm, hBuild.symm⟩
  · right
    rw [if_neg hType] at hRow
    exact ⟨Ne.symm hType, hRow⟩

theorem WellFormed.perform {services : Services σ ι} (hFormed : services.WellFormed)
    (call : Registering σ ι) : (services.perform call).WellFormed := by
  refine ⟨?_, ?_, ?_, ?_⟩
  · intro type slot build hRow
    rcases perScope_of_lookup?_perform hRow with ⟨make, rfl, rfl, -⟩ | ⟨-, hOld⟩
    · exact Nat.lt_succ_self _
    · exact Nat.lt_of_lt_of_le (hFormed.slot_lt type slot build hOld)
        (slots_le_perform services call)
  · intro type other slot build build' hRow hOther
    rcases perScope_of_lookup?_perform hRow with ⟨make, rfl, rfl, -⟩ | ⟨hApart, hOld⟩
    · -- The slot of the new row is at the counter, and those of all old rows are below it.
      rcases perScope_of_lookup?_perform hOther with ⟨make', hSame, -, -⟩ | ⟨-, hBefore⟩
      · exact (Registering.perScope.inj hSame).1
      · exact absurd (hFormed.slot_lt _ _ _ hBefore) (Nat.lt_irrefl _)
    · rcases perScope_of_lookup?_perform hOther with ⟨make', rfl, rfl, -⟩ | ⟨-, hBefore⟩
      · exact absurd (hFormed.slot_lt _ _ _ hOld) (Nat.lt_irrefl _)
      · exact hFormed.slots_apart type other slot build build' hOld hBefore
  · intro type made hRow
    rw [lookup?_perform] at hRow
    by_cases hType : type = call.type
    · rw [if_pos hType] at hRow
      cases call with
      | shared other value =>
          obtain rfl : (⟨other, value⟩ : Instance ι) = made := by
            simpa [registrationOf] using hRow
          exact hType.symm
      | perScope other make => simp [registrationOf] at hRow
    · rw [if_neg hType] at hRow
      exact hFormed.shared_type type made hRow
  · intro type slot build hRow state
    rcases perScope_of_lookup?_perform hRow with ⟨make, rfl, -, rfl⟩ | ⟨-, hOld⟩
    · rfl
    · exact hFormed.built_type type slot build hOld state

theorem wellFormed_ofCalls (calls : List (Registering σ ι)) : (ofCalls calls).WellFormed := by
  induction calls using List.reverseRecOn with
  | nil => exact wellFormed_empty
  | append_singleton calls call ih =>
      rw [ofCalls_append_singleton]
      exact ih.perform call

end Services

/-! ### Scopes -/

namespace Scope

/-- The instance that has been built for a type. -/
def built? (type : String) (scope : Scope σ ι) : Option (Instance ι) :=
  match lookup? type scope.table with
  | some (.perScope slot _) => scope.cells[slot]?.join
  | _ => none

/-- A scope that was opened from services and has been used since. -/
structure IsOf (services : Services σ ι) (scope : Scope σ ι) : Prop where
  table : scope.table = services.table
  cells_length : scope.cells.length = services.slots
  built_type : ∀ type made, scope.built? type = some made → made.type = type

theorem isOf_ofServices (services : Services σ ι) : IsOf services (ofServices services) where
  table := rfl
  cells_length := List.length_replicate
  built_type type made hBuilt := by
    unfold built? at hBuilt
    split at hBuilt
    · next slot build hRow =>
        by_cases hSlot : slot < services.slots
        · simp [ofServices, hSlot] at hBuilt
        · simp [ofServices, hSlot] at hBuilt
    · exact nomatch hBuilt

theorem built?_ofServices (services : Services σ ι) (type : String) :
    (ofServices services).built? type = none := by
  unfold built?
  split
  · next slot build hRow =>
      by_cases hSlot : slot < services.slots
      · simp [ofServices, hSlot]
      · simp [ofServices, hSlot]
  · rfl

variable {services : Services σ ι} {scope : Scope σ ι}

/-- The scope with an instance in a slot. -/
def withCell (scope : Scope σ ι) (slot : Nat) (made : Instance ι) : Scope σ ι :=
  { scope with cells := scope.cells.set slot (some made) }

/-- What a type can be to a scope. -/
inductive Stands (services : Services σ ι) (scope : Scope σ ι) (type : String) : Prop where
  | unregistered (hRow : lookup? type services.table = none)
  | shared (made : Instance ι) (hRow : lookup? type services.table = some (.shared made))
  | kept (slot : Nat) (build : σ → Instance ι × σ) (made : Instance ι)
      (hRow : lookup? type services.table = some (.perScope slot build))
      (hBuilt : scope.built? type = some made)
  | unbuilt (slot : Nat) (build : σ → Instance ι × σ)
      (hRow : lookup? type services.table = some (.perScope slot build))
      (hBuilt : scope.built? type = none)

theorem stands (services : Services σ ι) (scope : Scope σ ι) (type : String) :
    Stands services scope type := by
  cases hRow : lookup? type services.table with
  | none => exact .unregistered hRow
  | some registration =>
      cases registration with
      | shared made => exact .shared made hRow
      | perScope slot build =>
          cases hBuilt : scope.built? type with
          | none => exact .unbuilt slot build hRow hBuilt
          | some made => exact .kept slot build made hRow hBuilt

theorem IsOf.built?_eq (hScope : IsOf services scope) {type : String} {slot : Nat}
    {build : σ → Instance ι × σ}
    (hRow : lookup? type services.table = some (.perScope slot build)) :
    scope.built? type = scope.cells[slot]?.join := by
  unfold built?
  rw [hScope.table, hRow]

theorem IsOf.resolve_unregistered (hScope : IsOf services scope) {type : String}
    (hRow : lookup? type services.table = none) (state : σ) :
    scope.resolve type state = (none, scope, state) := by
  unfold resolve
  rw [hScope.table, hRow]

theorem IsOf.resolve_shared (hScope : IsOf services scope) {type : String} {made : Instance ι}
    (hRow : lookup? type services.table = some (.shared made)) (state : σ) :
    scope.resolve type state = (some made, scope, state) := by
  unfold resolve
  rw [hScope.table, hRow]

theorem IsOf.resolve_kept (hScope : IsOf services scope) {type : String} {slot : Nat}
    {build : σ → Instance ι × σ} {made : Instance ι}
    (hRow : lookup? type services.table = some (.perScope slot build))
    (hBuilt : scope.built? type = some made) (state : σ) :
    scope.resolve type state = (some made, scope, state) := by
  rw [hScope.built?_eq hRow, Option.join_eq_some_iff] at hBuilt
  unfold resolve fill
  rw [hScope.table, hRow]
  simp only [hBuilt]

/-- A scope has a cell for each scoped type, so a factory that has not run yet runs now. -/
theorem IsOf.resolve_unbuilt (hScope : IsOf services scope) (hFormed : services.WellFormed)
    {type : String} {slot : Nat} {build : σ → Instance ι × σ}
    (hRow : lookup? type services.table = some (.perScope slot build))
    (hBuilt : scope.built? type = none) (state : σ) :
    scope.resolve type state =
      (some (build state).1, scope.withCell slot (build state).1, (build state).2) := by
  have hSlot : slot < scope.cells.length := by
    rw [hScope.cells_length]
    exact hFormed.slot_lt type slot build hRow
  rw [hScope.built?_eq hRow] at hBuilt
  have hCell : scope.cells[slot]? = some none := by
    rw [List.getElem?_eq_getElem hSlot] at hBuilt ⊢
    simpa using hBuilt
  unfold resolve fill
  rw [hScope.table, hRow]
  simp only [hCell, withCell, hScope.table]

/-- An instance in the slot of one type is not seen as that of another. -/
theorem IsOf.built?_withCell (hScope : IsOf services scope) (hFormed : services.WellFormed)
    {type : String} {slot : Nat} {build : σ → Instance ι × σ}
    (hRow : lookup? type services.table = some (.perScope slot build)) (made : Instance ι)
    (other : String) :
    (scope.withCell slot made).built? other =
      if other = type then some made else scope.built? other := by
  have hSlot : slot < scope.cells.length := by
    rw [hScope.cells_length]
    exact hFormed.slot_lt type slot build hRow
  by_cases hSame : other = type
  · subst hSame
    unfold built? withCell
    simp only [hScope.table, hRow, if_true, List.getElem?_set_self hSlot, Option.join_some]
  · rw [if_neg hSame]
    unfold built? withCell
    rw [hScope.table]
    split
    · next slot' build' hOther =>
        have hApart : slot ≠ slot' := by
          rintro rfl
          exact hSame (hFormed.slots_apart _ _ _ _ _ hOther hRow)
        rw [List.getElem?_set_ne hApart]
    · rfl

theorem IsOf.withCell (hScope : IsOf services scope) (hFormed : services.WellFormed)
    {type : String} {slot : Nat} {build : σ → Instance ι × σ}
    (hRow : lookup? type services.table = some (.perScope slot build)) {made : Instance ι}
    (hType : made.type = type) : IsOf services (scope.withCell slot made) where
  table := hScope.table
  cells_length := by simp [Scope.withCell, hScope.cells_length]
  built_type other found hFound := by
    rw [hScope.built?_withCell hFormed hRow] at hFound
    split_ifs at hFound with hSame
    · obtain rfl := Option.some.inj hFound
      exact hType.trans hSame.symm
    · exact hScope.built_type other found hFound

theorem IsOf.resolve (hScope : IsOf services scope) (hFormed : services.WellFormed)
    (type : String) (state : σ) : IsOf services (scope.resolve type state).2.1 := by
  cases stands services scope type with
  | unregistered hRow => rwa [hScope.resolve_unregistered hRow]
  | shared made hRow => rwa [hScope.resolve_shared hRow]
  | kept slot build made hRow hBuilt => rwa [hScope.resolve_kept hRow hBuilt]
  | unbuilt slot build hRow hBuilt =>
      rw [hScope.resolve_unbuilt hFormed hRow hBuilt]
      exact hScope.withCell hFormed hRow (hFormed.built_type type slot build hRow state)

/-- What a scope gives for a type is of that type. -/
theorem IsOf.type_of_resolve (hScope : IsOf services scope) (hFormed : services.WellFormed)
    {type : String} {state : σ} {made : Instance ι}
    (hFound : (scope.resolve type state).1 = some made) : made.type = type := by
  cases stands services scope type with
  | unregistered hRow =>
      rw [hScope.resolve_unregistered hRow] at hFound
      exact nomatch hFound
  | shared shared hRow =>
      rw [hScope.resolve_shared hRow] at hFound
      obtain rfl := Option.some.inj hFound
      exact hFormed.shared_type type shared hRow
  | kept slot build kept hRow hBuilt =>
      rw [hScope.resolve_kept hRow hBuilt] at hFound
      obtain rfl := Option.some.inj hFound
      exact hScope.built_type type kept hBuilt
  | unbuilt slot build hRow hBuilt =>
      rw [hScope.resolve_unbuilt hFormed hRow hBuilt] at hFound
      obtain rfl := Option.some.inj hFound
      exact hFormed.built_type type slot build hRow state

/-- A scope gives nothing exactly for the types that are not provided. -/
theorem IsOf.resolve_eq_none_iff (hScope : IsOf services scope) (hFormed : services.WellFormed)
    (type : String) (state : σ) :
    (scope.resolve type state).1 = none ↔ services.provides type = false := by
  unfold Services.provides
  cases stands services scope type with
  | unregistered hRow => simp [hScope.resolve_unregistered hRow, hRow]
  | shared made hRow => simp [hScope.resolve_shared hRow, hRow]
  | kept slot build made hRow hBuilt => simp [hScope.resolve_kept hRow hBuilt, hRow]
  | unbuilt slot build hRow hBuilt => simp [hScope.resolve_unbuilt hFormed hRow hBuilt, hRow]

/-- What a scope gives when it is asked for types one after another, each time in a state of its
own, and the scope afterwards. -/
def replay : List (String × σ) → Scope σ ι → List (Option (Instance ι)) × Scope σ ι
  | [], scope => ([], scope)
  | (type, state) :: rest, scope =>
    let (found, scope, _) := scope.resolve type state
    let (others, scope) := scope.replay rest
    (found :: others, scope)

theorem replay_append_singleton (asked : List (String × σ)) (type : String) (state : σ)
    (scope : Scope σ ι) :
    scope.replay (asked ++ [(type, state)]) =
      ((scope.replay asked).1 ++ [((scope.replay asked).2.resolve type state).1],
        ((scope.replay asked).2.resolve type state).2.1) := by
  induction asked generalizing scope with
  | nil => rfl
  | cons first rest ih => simp [replay, ih]

theorem isOf_replay (hFormed : services.WellFormed) (asked : List (String × σ)) :
    IsOf services ((ofServices services).replay asked).2 := by
  induction asked using List.reverseRecOn with
  | nil => exact isOf_ofServices services
  | append_singleton asked last ih =>
      rw [replay_append_singleton]
      exact ih.resolve hFormed last.1 last.2

/-- A new scope gives what the last registration of a type supplies. -/
theorem resolve_ofServices (calls : List (Registering σ ι)) (type : String) (state : σ) :
    let (found, _, after) := (ofServices (.ofCalls calls)).resolve type state
    found = (lastFor type calls).map (fun call => (call.supply state).1) ∧
      after = ((lastFor type calls).map fun call => (call.supply state).2).getD state := by
  have hScope := isOf_ofServices (Services.ofCalls calls)
  rcases Services.lookup?_ofCalls calls type with ⟨hRow, hLast⟩ | ⟨slots, call, hLast, hRow⟩
  · rw [hScope.resolve_unregistered hRow, hLast]
    exact ⟨rfl, rfl⟩
  · rw [hLast]
    cases call with
    | shared other value =>
        rw [hScope.resolve_shared hRow]
        exact ⟨rfl, rfl⟩
    | perScope other make =>
        rw [hScope.resolve_unbuilt (Services.wellFormed_ofCalls calls) hRow
          (built?_ofServices _ type)]
        exact ⟨rfl, rfl⟩

end Scope

/-! ### Instances of the type that was asked for -/

theorem Instance.as_some {type : String} {made : Instance ι} (hType : made.type = type) :
    Instance.as type (some made) = .ok made.value := if_pos hType

/-- What is of the right type, if it is there, is not mistaken for something else. -/
theorem Instance.as_of_type {type : String} {found : Option (Instance ι)}
    (hType : ∀ made, found = some made → made.type = type) :
    (∀ other, Instance.as type found ≠ .error (.mismatch other)) ∧
      (Instance.as type found = .error (.missing type) ↔ found = none) := by
  cases found with
  | none => simp [Instance.as]
  | some made => simp [Instance.as_some (hType made rfl)]

theorem Services.provides_eq_false_iff (calls : List (Registering σ ι)) (type : String) :
    (Services.ofCalls calls).provides type = false ↔ ∀ call ∈ calls, call.type ≠ type := by
  rw [← lastFor_eq_none_iff, Services.provides, Option.isSome_eq_false_iff,
    Option.isNone_iff_eq_none]
  rcases Services.lookup?_ofCalls calls type with ⟨hRow, hLast⟩ | ⟨slots, call, hLast, hRow⟩
  · simp [hRow, hLast]
  · simp [hRow, hLast]

/-- Whatever a scope of services is asked for, after whatever it has been asked for before, it gives
an instance of that type, or nothing if the type was never registered. -/
theorem Scope.as_resolve_replay (calls : List (Registering σ ι)) (asked : List (String × σ))
    (type : String) (state : σ) :
    let services := Services.ofCalls calls
    let found := (((Scope.ofServices services).replay asked).2.resolve type state).1
    (∀ made, found = some made → made.type = type) ∧
      (∀ other, Instance.as type found ≠ .error (.mismatch other)) ∧
      (Instance.as type found = .error (.missing type) ↔ ∀ call ∈ calls, call.type ≠ type) := by
  intro services found
  have hFormed := Services.wellFormed_ofCalls calls
  have hScope := Scope.isOf_replay hFormed asked
  have hType : ∀ made, found = some made → made.type = type :=
    fun made hFound => hScope.type_of_resolve hFormed hFound
  have hNone : found = none ↔ ∀ call ∈ calls, call.type ≠ type :=
    (hScope.resolve_eq_none_iff hFormed type state).trans
      (Services.provides_eq_false_iff calls type)
  obtain ⟨hMismatch, hMissing⟩ := Instance.as_of_type hType
  exact ⟨hType, hMismatch, hMissing.trans hNone⟩

/-- However services are registered, each scoped type has a slot of its own below the counter.  A
type is provided exactly if a new scope resolves it, and then to what its last registration
supplies; and no scope, new or used, ever gives an instance of another type than it was asked for,
or nothing for a type that was registered. -/
theorem scopes_give_last_registration (calls : List (Registering σ ι)) :
    let services := Services.ofCalls calls
    (∀ type slot build, (type, .perScope slot build) ∈ services.table →
        slot < services.slots) ∧
      (∀ type other slot build build', (type, .perScope slot build) ∈ services.table →
        (other, .perScope slot build') ∈ services.table → type = other) ∧
      ∀ type state,
        let found := ((Scope.ofServices services).resolve type state).1
        services.provides type = found.isSome ∧
          found = (lastFor type calls).map (fun call => (call.supply state).1) ∧
          ∀ asked,
            let found := (((Scope.ofServices services).replay asked).2.resolve type state).1
            (∀ made, found = some made → made.type = type) ∧
              (∀ other, Instance.as type found ≠ .error (.mismatch other)) ∧
              (Instance.as type found = .error (.missing type) ↔
                ∀ call ∈ calls, call.type ≠ type) := by
  intro services
  have hFormed : services.WellFormed := Services.wellFormed_ofCalls calls
  refine ⟨?_, ?_, ?_⟩
  · intro type slot build hRow
    exact hFormed.slot_lt type slot build (Services.lookup?_of_mem_table hRow)
  · intro type other slot build build' hRow hOther
    exact hFormed.slots_apart type other slot build build' (Services.lookup?_of_mem_table hRow)
      (Services.lookup?_of_mem_table hOther)
  · intro type state found
    have hNone := (Scope.isOf_ofServices services).resolve_eq_none_iff hFormed type state
    refine ⟨?_, (Scope.resolve_ofServices calls type state).1,
      fun asked => Scope.as_resolve_replay calls asked type state⟩
    cases hProvides : services.provides type with
    | false => rw [show found = none from hNone.mpr hProvides, Option.isSome_none]
    | true =>
        symm
        rw [Option.isSome_iff_ne_none]
        intro hFound
        rw [hNone.mp hFound] at hProvides
        exact Bool.false_ne_true hProvides

/-- Counted units, a shared clock that a scoped one replaces, and units again under another slot. -/
def sampleCalls : List (Registering Nat Nat) :=
  [.perScope "Unit" fun state => (state, state + 1), .shared "Clock" 7,
    .perScope "Clock" fun state => (0, state),
    .perScope "Unit" fun state => (state + 100, state + 1)]

/-- The units are in the third slot, apart from the clock in the second, and a scope gives those of
the second factory. -/
theorem sample_scopes_give_last_registration :
    2 < (Services.ofCalls sampleCalls).slots ∧
      ((Scope.ofServices (.ofCalls sampleCalls)).resolve "Unit" 5).1 = some ⟨"Unit", 105⟩ ∧
      (∀ other, Instance.as "Unit"
        (((Scope.ofServices (.ofCalls sampleCalls)).replay
          [("Clock", 1), ("Unit", 2)]).2.resolve "Unit" 5).1 ≠ .error (.mismatch other)) := by
  obtain ⟨hSlots, -, hTypes⟩ := scopes_give_last_registration sampleCalls
  obtain ⟨-, hFound, hAsked⟩ := hTypes "Unit" 5
  have hRow : ("Unit", .perScope 2 (Instance.builder "Unit" fun state =>
      (state + 100, state + 1))) ∈ (Services.ofCalls sampleCalls).table := List.mem_cons_self
  exact ⟨hSlots _ _ _ hRow, hFound, (hAsked [("Clock", 1), ("Unit", 2)]).2.1⟩

end Dispatch
end Switchboard
