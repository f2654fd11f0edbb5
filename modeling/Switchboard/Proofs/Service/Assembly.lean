import Switchboard.Sample.Host
import Switchboard.Proofs.Catalogue.Grouping
import Switchboard.Proofs.Dispatch.Registry
import Mathlib.Data.List.Perm.Basic

/-!
# The parts of an assembled service

The entries of a catalogue stand by controller and not in the order of the endpoints, and each finds
its endpoint again by a contract that is read from the declaration a second time.  No two endpoints
of a list that compiles share a contract, so each entry takes the very endpoint from which it was
compiled, and in the end every endpoint has been taken once (`IsPaired`).
-/

namespace Switchboard

open Catalogue (Apart Compiles ContractId Entry compile contractIdOf? entryOf
  exists_of_compile_eq_ok lookup? lookup?_append_singleton lookup?_filter_ne of_entryOf_eq_ok)
open Dispatch (Handler Provider Registry Token)

namespace Service

variable {σ κ ρ ι : Type}

/-! ### The table of endpoints -/

theorem Endpoint.contract?_eq (endpoint : Endpoint σ ρ ι) :
    endpoint.contract? = contractIdOf? endpoint.declaration := rfl

theorem lookup?_without (table : Table σ ρ ι) (contract other : ContractId) :
    lookup? other (table.without contract) =
      if other = contract then none else lookup? other table :=
  lookup?_filter_ne other contract table

/-- An endpoint that is added is found under its contract, in place of an earlier one. -/
theorem lookup?_add (table : Table σ ρ ι) (endpoint : Endpoint σ ρ ι) (contract : ContractId) :
    lookup? contract (table.add endpoint) =
      if endpoint.contract? = some contract then some endpoint else lookup? contract table := by
  unfold Table.add
  cases hOwn : endpoint.contract? with
  | none => simp
  | some own =>
      simp only [lookup?_append_singleton, lookup?_without, Option.some.injEq]
      by_cases hSame : own = contract
      · simp [hSame]
      · simp [hSame, Ne.symm hSame]

/-- What a table gives after endpoints are added: the last of them with the contract. -/
theorem lookup?_foldl_add (endpoints : List (Endpoint σ ρ ι)) (table : Table σ ρ ι)
    (contract : ContractId) :
    lookup? contract (endpoints.foldl Table.add table) =
      (endpoints.reverse.find? fun endpoint => decide (endpoint.contract? = some contract)).or
        (lookup? contract table) := by
  induction endpoints generalizing table with
  | nil => simp
  | cons endpoint rest ih =>
      rw [List.foldl_cons, ih, List.reverse_cons, List.find?_append, Option.or_assoc, lookup?_add]
      by_cases hOwn : endpoint.contract? = some contract
      · simp [hOwn]
      · simp [hOwn]

/-- Where no two endpoints share a contract, the table gives each under its own. -/
theorem lookup?_of_mem {endpoints : List (Endpoint σ ρ ι)}
    (hNodup : (endpoints.map Endpoint.contract?).Nodup) {endpoint : Endpoint σ ρ ι}
    (hMem : endpoint ∈ endpoints) {contract : ContractId}
    (hContract : endpoint.contract? = some contract) :
    lookup? contract (Table.of endpoints) = some endpoint := by
  unfold Table.of
  rw [lookup?_foldl_add]
  cases hFound : endpoints.reverse.find?
      fun endpoint => decide (endpoint.contract? = some contract) with
  | none =>
      have hNone := List.find?_eq_none.mp hFound endpoint (List.mem_reverse.mpr hMem)
      exact absurd (decide_eq_true hContract) hNone
  | some found =>
      -- What is found has the same contract, so it is the same endpoint.
      have hIn : found ∈ endpoints :=
        List.mem_reverse.mp (List.mem_of_find?_eq_some hFound)
      have hSame : found.contract? = some contract := by
        simpa using List.find?_some hFound
      rw [List.inj_on_of_nodup_map hNodup hIn hMem (hSame.trans hContract.symm)]
      rfl

/-! ### Entries that take their endpoints -/

theorem pairEntries_cons (table : Table σ ρ ι) (entry : Entry) (rest : List Entry) :
    pairEntries table (entry :: rest) =
      match lookup? entry.contract.id table with
      | none => .error (.missingHandler entry.contract.id)
      | some endpoint =>
        match checkHandler entry endpoint.handler with
        | .error fault => .error fault
        | .ok () =>
          (pairEntries (table.without entry.contract.id) rest).map ((entry, endpoint) :: ·) := by
  rw [pairEntries, Table.take?]
  cases lookup? entry.contract.id table <;> rfl

/-- The pairs of entries: the first with what the table holds for it, and those of the others with
what is left. -/
theorem pairEntries_cons_eq_ok_iff (table : Table σ ρ ι) (entry : Entry) (rest : List Entry)
    (pairs : List (Entry × Endpoint σ ρ ι)) :
    pairEntries table (entry :: rest) = .ok pairs ↔
      ∃ endpoint others, lookup? entry.contract.id table = some endpoint ∧
        checkHandler entry endpoint.handler = .ok () ∧
        pairEntries (table.without entry.contract.id) rest = .ok others ∧
        pairs = (entry, endpoint) :: others := by
  rw [pairEntries_cons]
  cases lookup? entry.contract.id table with
  | none => simp
  | some endpoint =>
      cases hCheck : checkHandler entry endpoint.handler with
      | error fault => simp [hCheck]
      | ok checked =>
          cases pairEntries (table.without entry.contract.id) rest with
          | error fault => simp [hCheck, Except.map]
          | ok others => simp [hCheck, Except.map, eq_comm]

theorem checkHandler_ne_missing (entry : Entry) (handler : Handler σ ρ ι)
    (contract : ContractId) : checkHandler entry handler ≠ .error (.missingHandler contract) := by
  simp only [checkHandler]
  split
  · simp
  · split <;> simp

/-- A handler is missed for the first entry, if the table holds none for it, or later. -/
theorem missing_of_pairEntries_cons {table : Table σ ρ ι} {entry : Entry} {rest : List Entry}
    {contract : ContractId}
    (hMissing : pairEntries table (entry :: rest) = .error (.missingHandler contract)) :
    lookup? entry.contract.id table = none ∨
      pairEntries (table.without entry.contract.id) rest =
        .error (.missingHandler contract) := by
  rw [pairEntries_cons] at hMissing
  cases hFound : lookup? entry.contract.id table with
  | none => exact Or.inl rfl
  | some endpoint =>
      right
      simp only [hFound] at hMissing
      cases hCheck : checkHandler entry endpoint.handler with
      | error fault =>
          simp only [hCheck] at hMissing
          obtain rfl := Except.error.inj hMissing
          exact absurd hCheck (checkHandler_ne_missing entry _ contract)
      | ok checked =>
          simp only [hCheck] at hMissing
          cases hOthers : pairEntries (table.without entry.contract.id) rest with
          | error fault => simpa [hOthers, Except.map] using hMissing
          | ok others => simp [hOthers, Except.map] at hMissing

theorem lookup?_without_of_forall_ne {table : Table σ ρ ι} {entry : Entry} {rest : List Entry}
    (hApart : ∀ other ∈ rest, entry.contract.id ≠ other.contract.id) {other : Entry}
    (hOther : other ∈ rest) :
    lookup? other.contract.id (table.without entry.contract.id) =
      lookup? other.contract.id table := by
  rw [lookup?_without, if_neg (Ne.symm (hApart other hOther))]

/-- If the table holds an endpoint for each entry, no handler is missed on the way. -/
theorem pairEntries_ne_missing {table : Table σ ρ ι} {entries : List Entry}
    (hApart : entries.Pairwise fun a b => a.contract.id ≠ b.contract.id)
    (hHeld : ∀ entry ∈ entries, lookup? entry.contract.id table ≠ none)
    (contract : ContractId) :
    pairEntries table entries ≠ .error (.missingHandler contract) := by
  -- The table loses only contracts that no later entry has, so it still holds what they need.
  induction entries generalizing table with
  | nil => simp [pairEntries]
  | cons entry rest ih =>
      obtain ⟨hFirst, hRest⟩ := List.pairwise_cons.mp hApart
      intro hMissing
      rcases missing_of_pairEntries_cons hMissing with hNone | hLater
      · exact hHeld entry (by simp) hNone
      · refine ih hRest ?_ hLater
        intro other hOther
        rw [lookup?_without_of_forall_ne hFirst hOther]
        exact hHeld other (List.mem_cons_of_mem _ hOther)

/-- Each entry takes what the table holds for it, in the order of the entries. -/
theorem map_of_pairEntries_eq_ok {table : Table σ ρ ι} {entries : List Entry}
    {pairs : List (Entry × Endpoint σ ρ ι)}
    (hApart : entries.Pairwise fun a b => a.contract.id ≠ b.contract.id)
    (hPairs : pairEntries table entries = .ok pairs) :
    pairs.map (fun pair => (pair.1, some pair.2)) =
      entries.map fun entry => (entry, lookup? entry.contract.id table) := by
  induction entries generalizing table pairs with
  | nil =>
      obtain rfl := Except.ok.inj hPairs
      rfl
  | cons entry rest ih =>
      obtain ⟨hFirst, hRest⟩ := List.pairwise_cons.mp hApart
      obtain ⟨endpoint, others, hFound, -, hOthers, rfl⟩ :=
        (pairEntries_cons_eq_ok_iff _ _ _ _).mp hPairs
      rw [List.map_cons, List.map_cons, hFound, ih hRest hOthers]
      congr 1
      refine List.map_congr_left fun other hOther => ?_
      rw [lookup?_without_of_forall_ne hFirst hOther]

/-! ### Entries and the endpoints from which they were compiled -/

variable {routePrefix : String} {endpoints : List (Endpoint σ ρ ι)} {entries : List Entry}

theorem map_contract? (hAll : Compiles routePrefix (endpoints.map (·.declaration)) entries) :
    endpoints.map Endpoint.contract? = entries.map fun entry => some entry.contract.id := by
  rw [← hAll.map_contractIdOf?, List.map_map]
  exact List.map_congr_left fun endpoint _ => endpoint.contract?_eq

/-- Endpoints whose entries are apart do not share a contract. -/
theorem nodup_contracts (hAll : Compiles routePrefix (endpoints.map (·.declaration)) entries)
    (hApart : entries.Pairwise Apart) : (endpoints.map Endpoint.contract?).Nodup := by
  rw [map_contract? hAll, List.nodup_iff_pairwise_ne, List.pairwise_map]
  exact hApart.imp fun hEntries hSame => hEntries.contract (Option.some.inj hSame)

/-- A table that holds each endpoint under its contract gives to each entry the endpoint from which
it was compiled. -/
theorem map_lookup? (hAll : Compiles routePrefix (endpoints.map (·.declaration)) entries)
    {table : Table σ ρ ι} (hHeld : ∀ endpoint ∈ endpoints, ∀ contract,
      endpoint.contract? = some contract → lookup? contract table = some endpoint) :
    entries.map (fun entry => (entry, lookup? entry.contract.id table)) =
      (entries.zip endpoints).map fun pair => (pair.1, some pair.2) := by
  induction List.forall₂_map_left_iff.mp hAll with
  | nil => rfl
  | cons hEntry hRest ih =>
      have hContract := (Endpoint.contract?_eq _).trans (of_entryOf_eq_ok hEntry).1
      have hOwn := hHeld _ (by simp) _ hContract
      rw [List.map_cons, List.zip_cons_cons, List.map_cons, hOwn]
      congr 1
      exact ih (List.forall₂_map_left_iff.mpr hRest)
        fun endpoint hEndpoint => hHeld endpoint (List.mem_cons_of_mem _ hEndpoint)

/-- Each endpoint stands beside the entry that was compiled from it. -/
theorem entryOf_of_mem_zip (hAll : Compiles routePrefix (endpoints.map (·.declaration)) entries)
    {pair : Entry × Endpoint σ ρ ι} (hPair : pair ∈ entries.zip endpoints) :
    entryOf routePrefix pair.2.declaration = .ok pair.1 := by
  have hEach : List.Forall₂ (fun entry (endpoint : Endpoint σ ρ ι) =>
      entryOf routePrefix endpoint.declaration = .ok entry) entries endpoints :=
    (List.forall₂_map_left_iff.mp hAll).flip
  exact (List.forall₂_iff_zip.mp hEach).2 hPair

theorem map_snd_zip (hAll : Compiles routePrefix (endpoints.map (·.declaration)) entries) :
    (entries.zip endpoints).map Prod.snd = endpoints :=
  List.map_snd_zip (List.forall₂_map_left_iff.mp hAll).length_eq.le

/-- In whatever order the entries come, each takes the endpoint from which it was compiled. -/
theorem pairs_perm_zip (hAll : Compiles routePrefix (endpoints.map (·.declaration)) entries)
    (hApart : entries.Pairwise Apart) {ordered : List Entry} (hPerm : ordered.Perm entries)
    {pairs : List (Entry × Endpoint σ ρ ι)}
    (hPairs : pairs.map (fun pair => (pair.1, some pair.2)) =
      ordered.map fun entry => (entry, lookup? entry.contract.id (Table.of endpoints))) :
    pairs.Perm (entries.zip endpoints) := by
  have hInjective : Function.Injective
      fun pair : Entry × Endpoint σ ρ ι => (pair.1, some pair.2) := by
    rintro ⟨entry, endpoint⟩ ⟨other, otherEndpoint⟩ hEq
    simpa using hEq
  -- What the table gives for an entry does not depend on when the entry comes.
  have hHeld := map_lookup? hAll fun endpoint hMem contract =>
    lookup?_of_mem (nodup_contracts hAll hApart) hMem
  rw [← List.map_perm_map_iff hInjective, hPairs, ← hHeld]
  exact hPerm.map _

theorem lookup?_ne_none (hAll : Compiles routePrefix (endpoints.map (·.declaration)) entries)
    (hApart : entries.Pairwise Apart) {entry : Entry} (hEntry : entry ∈ entries) :
    lookup? entry.contract.id (Table.of endpoints) ≠ none := by
  have hMem : (entry, lookup? entry.contract.id (Table.of endpoints)) ∈
      entries.map fun entry => (entry, lookup? entry.contract.id (Table.of endpoints)) :=
    List.mem_map.mpr ⟨entry, hEntry, rfl⟩
  rw [map_lookup? hAll fun endpoint hEndpoint contract =>
    lookup?_of_mem (nodup_contracts hAll hApart) hEndpoint] at hMem
  obtain ⟨⟨_, endpoint⟩, -, hPair⟩ := List.mem_map.mp hMem
  rw [← (Prod.mk.inj hPair).2]
  exact Option.some_ne_none endpoint

/-! ### Assembled services -/

/-- All that a handler depends on is provided. -/
def IsProvided (provider : Provider σ κ ι) (handler : Handler σ ρ ι) : Prop :=
  ∀ service ∈ handler.dependencies, provider.provides service = true

theorem missingDependency?_eq_none_iff (provider : Provider σ κ ι) (handler : Handler σ ρ ι) :
    missingDependency? provider handler = none ↔ IsProvided provider handler := by
  simp [missingDependency?, IsProvided]

/-- Handlers are registered exactly if all that they depend on is provided and they take different
types of request. -/
theorem registryOf_eq_ok_iff (provider : Provider σ κ ι) (handlers : List (Handler σ ρ ι))
    (registry : Registry σ ρ ι) :
    registryOf provider handlers = .ok registry ↔
      (∀ handler ∈ handlers, IsProvided provider handler) ∧
        (handlers.map (·.request.name)).Nodup ∧ registry = ⟨handlers⟩ := by
  simp only [← missingDependency?_eq_none_iff]
  rw [← Registry.ofHandlers_eq_ok_iff, ← List.findSome?_eq_none_iff]
  unfold registryOf
  cases handlers.findSome? (missingDependency? provider) with
  | some fault => simp
  | none => cases Registry.ofHandlers handlers <;> simp [Except.mapError]

theorem registryOf_ne_missing (provider : Provider σ κ ι) (handlers : List (Handler σ ρ ι))
    (contract : ContractId) : registryOf provider handlers ≠ .error (.missingHandler contract) := by
  unfold registryOf
  cases hFault : handlers.findSome? (missingDependency? provider) with
  | some fault =>
      obtain ⟨handler, -, hHandler⟩ := List.exists_of_findSome?_eq_some hFault
      obtain ⟨service, -, rfl⟩ := Option.map_eq_some_iff.mp hHandler
      simp
  | none => cases Registry.ofHandlers handlers <;> simp [Except.mapError]

/-- The routes and the registry are those of the pairs of entries and endpoints. -/
theorem register_eq_ok_iff (provider : Provider σ κ ι) (endpoints : List (Endpoint σ ρ ι))
    (entries : List Entry) (mounts : List (Mount ρ)) (registry : Registry σ ρ ι) :
    register provider endpoints entries = .ok (mounts, registry) ↔
      ∃ pairs, pairEntries (Table.of endpoints) entries = .ok pairs ∧
        registryOf provider (pairs.map (·.2.handler)) = .ok registry ∧
        mounts = pairs.map fun pair => ⟨pair.1.route, pair.2.intake⟩ := by
  unfold register
  cases pairEntries (Table.of endpoints) entries with
  | error fault => simp [Except.bind]
  | ok pairs =>
      cases hMade : registryOf provider (pairs.map (·.2.handler)) with
      | error fault => simp [Except.bind, Except.map, hMade]
      | ok made =>
          simp only [Except.bind, Except.map, hMade, Except.ok.injEq, Prod.mk.injEq]
          constructor
          · rintro ⟨rfl, rfl⟩
            exact ⟨pairs, rfl, hMade, rfl⟩
          · rintro ⟨_, rfl, hRegistry, rfl⟩
            exact ⟨rfl, Except.ok.inj (hMade.symm.trans hRegistry)⟩

/-- A handler is missed only where entries look for their endpoints. -/
theorem register_ne_missing {entries : List Entry} {contract : ContractId}
    (hPairs : pairEntries (Table.of endpoints) entries ≠ .error (.missingHandler contract))
    (provider : Provider σ κ ι) :
    register provider endpoints entries ≠ .error (.missingHandler contract) := by
  unfold register
  cases hFound : pairEntries (Table.of endpoints) entries with
  | error fault =>
      rw [hFound] at hPairs
      simpa [Except.bind] using hPairs
  | ok pairs =>
      have hRegistry := registryOf_ne_missing provider (pairs.map (·.2.handler)) contract
      simp only [Except.bind]
      cases hMade : registryOf provider (pairs.map (·.2.handler)) with
      | error fault =>
          rw [hMade] at hRegistry
          simpa [Except.map] using hRegistry
      | ok registry => simp [Except.map]

/-- A service is assembled from what the compiler and the registration hand back. -/
theorem assemble_eq_ok_iff (provider : Provider σ κ ι) (isCancelled : Token → σ → Bool)
    (service : Service σ κ ρ ι) :
    assemble routePrefix provider isCancelled endpoints = .ok service ↔
      ∃ catalogue mounts registry,
        compile routePrefix (endpoints.map (·.declaration)) = .ok catalogue ∧
        register provider endpoints catalogue.entries = .ok (mounts, registry) ∧
        service = ⟨catalogue, ⟨registry, provider, isCancelled⟩, mounts⟩ := by
  unfold assemble
  cases compile routePrefix (endpoints.map (·.declaration)) with
  | error diagnostics => simp
  | ok catalogue =>
      cases hMade : register provider endpoints catalogue.entries with
      | error fault => simp [hMade]
      | ok made =>
          obtain ⟨mounts, registry⟩ := made
          simp [hMade, eq_comm]

/-- Pairs of an entry and the endpoint from which it was compiled, of which a service is made. -/
structure IsPaired (routePrefix : String) (endpoints : List (Endpoint σ ρ ι))
    (service : Service σ κ ρ ι) (pairs : List (Entry × Endpoint σ ρ ι)) : Prop where
  entries : pairs.map (·.1) = service.catalogue.entries
  endpoints : (pairs.map (·.2)).Perm endpoints
  compiled : ∀ pair ∈ pairs, entryOf routePrefix pair.2.declaration = .ok pair.1
  apart : pairs.Pairwise fun a b => Apart a.1 b.1
  mounts : service.mounts = pairs.map fun pair => ⟨pair.1.route, pair.2.intake⟩
  handlers : service.mediator.registry.handlers = pairs.map (·.2.handler)
  requests_nodup : (service.mediator.registry.handlers.map (·.request.name)).Nodup

/-- An assembled service is made of its endpoints, each with the entry that was compiled from it. -/
theorem exists_isPaired {provider : Provider σ κ ι} {isCancelled : Token → σ → Bool}
    {service : Service σ κ ρ ι}
    (hService : assemble routePrefix provider isCancelled endpoints = .ok service) :
    ∃ pairs, IsPaired routePrefix endpoints service pairs := by
  obtain ⟨catalogue, mounts, registry, hCompile, hRegister, rfl⟩ :=
    (assemble_eq_ok_iff provider isCancelled service).mp hService
  obtain ⟨pairs, hPairs, hRegistry, rfl⟩ := (register_eq_ok_iff _ _ _ _ _).mp hRegister
  obtain ⟨-, hNodup, rfl⟩ := (registryOf_eq_ok_iff _ _ _).mp hRegistry
  obtain ⟨entries, hAll, hHolds, hApart, hOrdered⟩ := exists_of_compile_eq_ok hCompile
  have hTaken := map_of_pairEntries_eq_ok (hOrdered.imp fun h => h.contract) hPairs
  have hEntries : pairs.map (·.1) = catalogue.entries := by
    simpa [List.map_map, Function.comp_def] using congrArg (List.map Prod.fst) hTaken
  have hZip := pairs_perm_zip hAll hApart hHolds.perm hTaken
  refine ⟨pairs, hEntries, ?_, ?_, ?_, rfl, rfl, hNodup⟩
  · have hEndpoints := hZip.map Prod.snd
    rwa [map_snd_zip hAll] at hEndpoints
  · exact fun pair hPair => entryOf_of_mem_zip hAll (hZip.subset hPair)
  · rw [← List.pairwise_map, hEntries]
    exact hOrdered

/-- Whatever else can be wrong with endpoints that compile, none of them is missed. -/
theorem assemble_ne_missing (routePrefix : String) (provider : Provider σ κ ι)
    (isCancelled : Token → σ → Bool) (endpoints : List (Endpoint σ ρ ι)) (contract : ContractId) :
    assemble routePrefix provider isCancelled endpoints ≠
      .error (.unregistered (.missingHandler contract)) := by
  unfold assemble
  cases hCompile : compile routePrefix (endpoints.map (·.declaration)) with
  | error diagnostics => simp
  | ok catalogue =>
      obtain ⟨entries, hAll, hHolds, hApart, hOrdered⟩ := exists_of_compile_eq_ok hCompile
      have hPairs := pairEntries_ne_missing (hOrdered.imp fun h => h.contract)
        (fun entry hEntry => lookup?_ne_none hAll hApart (hHolds.perm.subset hEntry)) contract
      have hRegister := register_ne_missing hPairs provider
      cases hMade : register provider endpoints catalogue.entries with
      | error fault =>
          rw [hMade] at hRegister
          simpa [hMade] using hRegister
      | ok made => simp [hMade]

/-- Of pairs of which any two are apart, one alone has the route of its entry. -/
theorem filter_route_eq_singleton {pairs : List (Entry × Endpoint σ ρ ι)}
    (hApart : pairs.Pairwise fun a b => Apart a.1 b.1) {pair : Entry × Endpoint σ ρ ι}
    (hPair : pair ∈ pairs) :
    pairs.filter (fun other => decide (other.1.route = pair.1.route)) = [pair] := by
  have hNone : ∀ others : List (Entry × Endpoint σ ρ ι),
      (∀ other ∈ others, Apart other.1 pair.1) →
        others.filter (fun other => decide (other.1.route = pair.1.route)) = [] := by
    intro others hOthers
    rw [List.filter_eq_nil_iff]
    intro other hOther hSame
    exact (hOthers other hOther).route (by rw [of_decide_eq_true hSame])
  obtain ⟨before, after, rfl⟩ := List.append_of_mem hPair
  obtain ⟨-, hAfter, hBefore⟩ := List.pairwise_append.mp hApart
  rw [List.filter_append, List.filter_cons_of_pos (by simp),
    hNone before fun other hOther => hBefore other hOther pair (by simp),
    hNone after fun other hOther => ((List.pairwise_cons.mp hAfter).1 other hOther).symm]
  rfl

/-- A service in which each endpoint keeps its parts: it has one mount, with the route that was
compiled from its declaration and the type as which its requests are read, and its handler is the
one that is registered for its type of request.  Nothing else is mounted or registered. -/
structure ServesEach (routePrefix : String) (endpoints : List (Endpoint σ ρ ι))
    (service : Service σ κ ρ ι) : Prop where
  mounted : ∀ endpoint ∈ endpoints, ∃ entry,
    entryOf routePrefix endpoint.declaration = .ok entry ∧
      service.mounts.filter (fun mount => decide (mount.route = entry.route)) =
        [⟨entry.route, endpoint.intake⟩]
  registered : ∀ endpoint ∈ endpoints,
    service.mediator.registry.find? endpoint.handler.request.name = some endpoint.handler
  of_mount : ∀ mount ∈ service.mounts, ∃ endpoint ∈ endpoints, ∃ entry,
    entryOf routePrefix endpoint.declaration = .ok entry ∧
      mount = ⟨entry.route, endpoint.intake⟩
  of_handler : ∀ handler ∈ service.mediator.registry.handlers,
    ∃ endpoint ∈ endpoints, endpoint.handler = handler
  mounts_length : service.mounts.length = endpoints.length
  handlers_size : service.mediator.registry.size = endpoints.length

theorem IsPaired.servesEach {service : Service σ κ ρ ι} {pairs : List (Entry × Endpoint σ ρ ι)}
    (hPaired : IsPaired routePrefix endpoints service pairs) :
    ServesEach routePrefix endpoints service := by
  have hPairOf : ∀ endpoint ∈ endpoints, ∃ entry, (entry, endpoint) ∈ pairs := by
    intro endpoint hEndpoint
    obtain ⟨⟨entry, _⟩, hPair, rfl⟩ := List.mem_map.mp (hPaired.endpoints.symm.subset hEndpoint)
    exact ⟨entry, hPair⟩
  have hEndpointOf : ∀ pair ∈ pairs, pair.2 ∈ endpoints := fun pair hPair =>
    hPaired.endpoints.subset (List.mem_map_of_mem hPair)
  have hLength : pairs.length = endpoints.length := by
    rw [← hPaired.endpoints.length_eq, List.length_map]
  refine ⟨?_, ?_, ?_, ?_, ?_, ?_⟩
  · intro endpoint hEndpoint
    obtain ⟨entry, hPair⟩ := hPairOf endpoint hEndpoint
    refine ⟨entry, hPaired.compiled _ hPair, ?_⟩
    have hOne := filter_route_eq_singleton hPaired.apart hPair
    rw [hPaired.mounts, List.filter_map]
    simp only [Function.comp_def, hOne, List.map_cons, List.map_nil]
  · intro endpoint hEndpoint
    obtain ⟨entry, hPair⟩ := hPairOf endpoint hEndpoint
    rw [Registry.find?_eq_some_iff hPaired.requests_nodup, hPaired.handlers]
    exact ⟨List.mem_map.mpr ⟨_, hPair, rfl⟩, rfl⟩
  · intro mount hMount
    rw [hPaired.mounts] at hMount
    obtain ⟨pair, hPair, rfl⟩ := List.mem_map.mp hMount
    exact ⟨pair.2, hEndpointOf pair hPair, pair.1, hPaired.compiled pair hPair, rfl⟩
  · intro handler hHandler
    rw [hPaired.handlers] at hHandler
    obtain ⟨pair, hPair, rfl⟩ := List.mem_map.mp hHandler
    exact ⟨pair.2, hEndpointOf pair hPair, rfl⟩
  · rw [hPaired.mounts, List.length_map, hLength]
  · rw [Registry.size, hPaired.handlers, List.length_map, hLength]

/-- Assembling finds an endpoint for each compiled entry, and the service that is assembled serves
each endpoint with its own handler and its own way to read requests. -/
theorem assemble_serves_each (routePrefix : String) (provider : Provider σ κ ι)
    (isCancelled : Token → σ → Bool) (endpoints : List (Endpoint σ ρ ι)) :
    (∀ contract, assemble routePrefix provider isCancelled endpoints ≠
        .error (.unregistered (.missingHandler contract))) ∧
      ∀ service, assemble routePrefix provider isCancelled endpoints = .ok service →
        ServesEach routePrefix endpoints service := by
  refine ⟨assemble_ne_missing routePrefix provider isCancelled endpoints, ?_⟩
  intro service hService
  obtain ⟨pairs, hPaired⟩ := exists_isPaired hService
  exact hPaired.servesEach

/-! ### A service of the sample world -/

/-- The sample declarations with handlers of the sample world. -/
def sampleEndpoints : List Sample.SampleEndpoint :=
  [.of Catalogue.findOrder (Sample.queryHandler Sample.findType "Order"
      [.request, Sample.directory] fun _ => Sample.finishEmpty),
    .of Catalogue.createCustomer (Sample.commandHandler Sample.createType
      [Sample.directory, .request] fun _ => Sample.finishEmpty),
    .of Catalogue.renameOrder (Sample.commandHandler Sample.renameType
      [.request, Sample.directory] fun _ => Sample.finishEmpty)]

/-- The sample world with one empty directory. -/
def sampleProvider :
    Provider Sample.State (Dispatch.Scope Sample.State Sample.Component) Sample.Component :=
  Sample.provider (Sample.register [.directory []] .empty).1 {}

theorem exists_eq_ok_of_isSome {ε α : Type} {result : Except ε α}
    (hSome : result.toOption.isSome = true) : ∃ value, result = .ok value := by
  cases result with
  | error error => exact nomatch hSome
  | ok value => exact ⟨value, rfl⟩

theorem exists_assemble_sampleEndpoints :
    ∃ service, assemble "/api" sampleProvider Sample.State.isCancelled sampleEndpoints =
      .ok service := by
  have hSome : (assemble "/api" sampleProvider Sample.State.isCancelled
      sampleEndpoints).toOption.isSome = true := by
    decide +kernel
  exact exists_eq_ok_of_isSome hSome

/-- The orders are served by their own handlers although the customer is declared between them. -/
theorem sample_service_serves_each :
    ∃ service, assemble "/api" sampleProvider Sample.State.isCancelled sampleEndpoints =
        .ok service ∧ ServesEach "/api" sampleEndpoints service := by
  obtain ⟨service, hService⟩ := exists_assemble_sampleEndpoints
  exact ⟨service, hService, (assemble_serves_each _ _ _ _).2 service hService⟩

end Service
end Switchboard
