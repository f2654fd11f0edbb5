import Switchboard.Proofs.Dispatch.Resolution
import Switchboard.Proofs.Service.Assembly

/-!
# Which fault stops an assembly

`IsAssemblable` says of endpoints, in no order, when a service can be assembled from them.  If they
cannot, several things may be wrong at once, and the assembly reports one of them.  Which one is told
by `FirstFault`: the endpoints are taken in the order of their compiled entries, and no handler is
looked at for its dependencies before every handler agrees with its entry, nor for its type of
request before all dependencies are provided.  What is wrong with declarations that do not compile is
not looked into here.
-/

namespace Switchboard

open Catalogue (Apart Capability Compiles Entry compile entryOf exists_of_compile_eq_ok lookup?
  of_entryOf_eq_ok)
open Dispatch (Handler Provider Registry Token)
open Endpoint (Declaration Kind)

namespace Service

variable {σ κ ρ ι : Type}

/-! ### First members -/

/-- A member of a list has a property, and none before it has it. -/
def IsFirst {α : Type} (p : α → Prop) (xs : List α) (a : α) : Prop :=
  ∃ before after, xs = before ++ a :: after ∧ p a ∧ ∀ b ∈ before, ¬ p b

theorem isFirst_cons_iff {α : Type} (p : α → Prop) (x : α) (xs : List α) (a : α) :
    IsFirst p (x :: xs) a ↔ p x ∧ a = x ∨ ¬ p x ∧ IsFirst p xs a := by
  constructor
  · rintro ⟨before, after, hSplit, hHolds, hBefore⟩
    cases before with
    | nil =>
        obtain ⟨rfl, rfl⟩ := List.cons.inj hSplit
        exact Or.inl ⟨hHolds, rfl⟩
    | cons first more =>
        obtain ⟨rfl, rfl⟩ := List.cons.inj hSplit
        exact Or.inr ⟨hBefore x (by simp), more, after, rfl, hHolds,
          fun b hb => hBefore b (List.mem_cons_of_mem _ hb)⟩
  · rintro (⟨hHolds, rfl⟩ | ⟨hNot, before, after, rfl, hHolds, hBefore⟩)
    · exact ⟨[], xs, rfl, hHolds, by simp⟩
    · refine ⟨x :: before, after, rfl, hHolds, fun b hb => ?_⟩
      rcases List.mem_cons.mp hb with rfl | hb
      · exact hNot
      · exact hBefore b hb

theorem find?_eq_some_iff_isFirst {α : Type} (q : α → Bool) (xs : List α) (a : α) :
    xs.find? q = some a ↔ IsFirst (fun b => q b = true) xs a := by
  rw [List.find?_eq_some_iff_append]
  constructor
  · rintro ⟨hHolds, before, after, hSplit, hBefore⟩
    exact ⟨before, after, hSplit, hHolds, fun b hb => by simpa using hBefore b hb⟩
  · rintro ⟨before, after, hSplit, hHolds, hBefore⟩
    exact ⟨hHolds, before, after, hSplit, fun b hb => by simpa using hBefore b hb⟩

theorem findSome?_eq_some_iff_isFirst {α β : Type} (f : α → Option β) (xs : List α) (b : β) :
    xs.findSome? f = some b ↔ ∃ a, IsFirst (fun a => f a ≠ none) xs a ∧ f a = some b := by
  rw [List.findSome?_eq_some_iff]
  constructor
  · rintro ⟨before, a, after, hSplit, hSome, hBefore⟩
    exact ⟨a, ⟨before, after, hSplit, by simp [hSome], fun c hc => not_not.mpr (hBefore c hc)⟩,
      hSome⟩
  · rintro ⟨a, ⟨before, after, hSplit, -, hBefore⟩, hSome⟩
    exact ⟨before, a, after, hSplit, hSome, fun c hc => not_not.mp (hBefore c hc)⟩

/-! ### Handlers that agree with their entries -/

/-- A handler of a command hands back no result, and a handler of a query produces one. -/
inductive KindAgrees : Capability → Kind → Prop where
  | noResult : KindAgrees .noResult .command
  | produces (type : String) : KindAgrees (.produces type) .query

/-- A handler that is of the kind and the shape that its entry declares. -/
structure Agrees (entry : Entry) (handler : Handler σ ρ ι) : Prop where
  kind : KindAgrees entry.contract.capability handler.kind
  /-- The numbers of parameters agree, and so do the places of the request among them. -/
  shape : (entry.plan.arguments.length, entry.plan.requestPosition?) =
    (handler.arity, handler.requestPosition?)

theorem kindAgrees_iff (capability : Capability) (handler : Handler σ ρ ι) :
    KindAgrees capability handler.kind ↔
      (capability.resultType?.isSome != hasResult handler) = false := by
  unfold hasResult
  cases capability with
  | noResult =>
      cases handler.kind with
      | command => exact ⟨fun _ => rfl, fun _ => .noResult⟩
      | query => exact ⟨nofun, nofun⟩
  | produces type =>
      cases handler.kind with
      | command => exact ⟨nofun, nofun⟩
      | query => exact ⟨fun _ => rfl, fun _ => .produces type⟩

theorem declaredShape_eq_iff (entry : Entry) (handler : Handler σ ρ ι) :
    declaredShape entry.plan = boundShape handler ↔
      (entry.plan.arguments.length, entry.plan.requestPosition?) =
        (handler.arity, handler.requestPosition?) := by
  simp [declaredShape, boundShape]

theorem checkHandler_eq_ok_iff (entry : Entry) (handler : Handler σ ρ ι) :
    checkHandler entry handler = .ok () ↔ Agrees entry handler := by
  have hAgrees : Agrees entry handler ↔
      (entry.contract.capability.resultType?.isSome != hasResult handler) = false ∧
        declaredShape entry.plan = boundShape handler := by
    rw [← kindAgrees_iff, declaredShape_eq_iff]
    exact ⟨fun h => ⟨h.kind, h.shape⟩, fun h => ⟨h.1, h.2⟩⟩
  rw [hAgrees]
  simp only [checkHandler]
  split_ifs with hKind hShape
  · simp [hKind]
  · simp [hShape]
  · exact ⟨fun _ => ⟨by simpa using hKind, not_not.mp hShape⟩, fun _ => rfl⟩

/-- A handler is refused for its kind, and only if its kind agrees for its shape. -/
theorem checkHandler_eq_error_iff (entry : Entry) (handler : Handler σ ρ ι)
    (fault : RegistrationFault) :
    checkHandler entry handler = .error fault ↔
      ¬ KindAgrees entry.contract.capability handler.kind ∧
          fault = .kindMismatch entry.contract.id
            entry.contract.capability.resultType?.isSome (hasResult handler) ∨
        KindAgrees entry.contract.capability handler.kind ∧
          declaredShape entry.plan ≠ boundShape handler ∧
          fault = .shapeMismatch entry.contract.id (declaredShape entry.plan)
            (boundShape handler) := by
  rw [kindAgrees_iff]
  simp only [checkHandler]
  split_ifs with hKind hShape
  · simp [hKind, eq_comm]
  · simp [hKind, hShape, eq_comm]
  · simp [hKind, hShape]

/-! ### Endpoints in the order of their entries -/

/-- The endpoints in the order of the entries that were compiled from them. -/
structure Pairing (routePrefix : String) (endpoints : List (Endpoint σ ρ ι))
    (entries : List Entry) (pairs : List (Entry × Endpoint σ ρ ι)) : Prop where
  entries : pairs.map (·.1) = entries
  endpoints : (pairs.map (·.2)).Perm endpoints
  compiled : ∀ pair ∈ pairs, entryOf routePrefix pair.2.declaration = .ok pair.1

/-- A table that holds for each entry the endpoint beside it. -/
def Holds (table : Table σ ρ ι) (pairs : List (Entry × Endpoint σ ρ ι)) : Prop :=
  ∀ pair ∈ pairs, lookup? pair.1.contract.id table = some pair.2

theorem Holds.without {table : Table σ ρ ι} {pair : Entry × Endpoint σ ρ ι}
    {rest : List (Entry × Endpoint σ ρ ι)} (hHolds : Holds table (pair :: rest))
    (hApart : ∀ other ∈ rest, pair.1.contract.id ≠ other.1.contract.id) :
    Holds (table.without pair.1.contract.id) rest := by
  intro other hOther
  rw [lookup?_without, if_neg (hApart other hOther).symm]
  exact hHolds other (List.mem_cons_of_mem _ hOther)

theorem Holds.pairEntries_eq_ok_iff {table : Table σ ρ ι}
    {pairs : List (Entry × Endpoint σ ρ ι)} (hHolds : Holds table pairs)
    (hApart : pairs.Pairwise fun a b => a.1.contract.id ≠ b.1.contract.id)
    (others : List (Entry × Endpoint σ ρ ι)) :
    pairEntries table (pairs.map (·.1)) = .ok others ↔
      (∀ pair ∈ pairs, Agrees pair.1 pair.2.handler) ∧ others = pairs := by
  induction pairs generalizing table others with
  | nil => simp [pairEntries, eq_comm]
  | cons pair rest ih =>
      obtain ⟨hFirst, hRest⟩ := List.pairwise_cons.mp hApart
      have hOthers := ih (hHolds.without hFirst) hRest
      rw [List.map_cons, pairEntries_cons_eq_ok_iff, hHolds pair (by simp)]
      simp only [Option.some.injEq, exists_and_left, exists_eq_left', checkHandler_eq_ok_iff,
        hOthers, List.forall_mem_cons]
      constructor
      · rintro ⟨hPair, more, ⟨hMore, rfl⟩, rfl⟩
        exact ⟨⟨hPair, hMore⟩, rfl⟩
      · rintro ⟨⟨hPair, hMore⟩, rfl⟩
        exact ⟨hPair, rest, ⟨hMore, rfl⟩, rfl⟩

/-- Entries are paired up to the first handler that does not agree with its entry. -/
theorem Holds.pairEntries_eq_error_iff {table : Table σ ρ ι}
    {pairs : List (Entry × Endpoint σ ρ ι)} (hHolds : Holds table pairs)
    (hApart : pairs.Pairwise fun a b => a.1.contract.id ≠ b.1.contract.id)
    (fault : RegistrationFault) :
    pairEntries table (pairs.map (·.1)) = .error fault ↔
      ∃ pair, IsFirst (fun pair => ¬ Agrees pair.1 pair.2.handler) pairs pair ∧
        checkHandler pair.1 pair.2.handler = .error fault := by
  induction pairs generalizing table with
  | nil => simp [pairEntries, IsFirst]
  | cons pair rest ih =>
      obtain ⟨hFirst, hRest⟩ := List.pairwise_cons.mp hApart
      have hLater := ih (hHolds.without hFirst) hRest
      rw [List.map_cons, pairEntries_cons, hHolds pair (by simp)]
      simp only [isFirst_cons_iff]
      by_cases hAgrees : Agrees pair.1 pair.2.handler
      · rw [(checkHandler_eq_ok_iff pair.1 pair.2.handler).mpr hAgrees]
        simp only [Dispatch.map_eq_error_iff, hLater, hAgrees, not_true_eq_false, false_and,
          false_or, not_false_eq_true, true_and]
      · obtain ⟨other, hOther⟩ : ∃ other,
            checkHandler pair.1 pair.2.handler = .error other := by
          cases hCheck : checkHandler pair.1 pair.2.handler with
          | error other => exact ⟨other, rfl⟩
          | ok checked => exact absurd ((checkHandler_eq_ok_iff _ _).mp hCheck) hAgrees
        simp [hOther, hAgrees]

variable {routePrefix : String} {endpoints : List (Endpoint σ ρ ι)} {catalogue : Catalogue}

/-- Endpoints whose declarations compile can be put in the order of their entries. -/
theorem exists_pairing
    (hCompile : compile routePrefix (endpoints.map (·.declaration)) = .ok catalogue) :
    ∃ pairs, Pairing routePrefix endpoints catalogue.entries pairs := by
  obtain ⟨entries, hAll, hHolds, hApart, -⟩ := exists_of_compile_eq_ok hCompile
  -- Each entry with what the table holds for it, and the table holds something for each.
  have hFound : ∀ ordered : List Entry, ordered ⊆ entries →
      ∃ pairs : List (Entry × Endpoint σ ρ ι), pairs.map (fun pair => (pair.1, some pair.2)) =
        ordered.map fun entry => (entry, lookup? entry.contract.id (Table.of endpoints)) := by
    intro ordered hSubset
    induction ordered with
    | nil => exact ⟨[], rfl⟩
    | cons entry rest ih =>
        obtain ⟨hMem, hRest⟩ := List.cons_subset.mp hSubset
        obtain ⟨endpoint, hSome⟩ :=
          Option.ne_none_iff_exists'.mp (lookup?_ne_none hAll hApart hMem)
        obtain ⟨pairs, hPairs⟩ := ih hRest
        exact ⟨(entry, endpoint) :: pairs, by simp [hSome, hPairs]⟩
  obtain ⟨pairs, hPairs⟩ := hFound catalogue.entries hHolds.perm.subset
  have hZip := pairs_perm_zip hAll hApart hHolds.perm hPairs
  refine ⟨pairs, ?_, ?_, fun pair hPair => entryOf_of_mem_zip hAll (hZip.subset hPair)⟩
  · simpa [List.map_map, Function.comp_def] using congrArg (List.map Prod.fst) hPairs
  · have hEndpoints := hZip.map Prod.snd
    rwa [map_snd_zip hAll] at hEndpoints

/-- The table of endpoints holds each under the contract of its entry, and no two entries have the
same contract. -/
theorem Pairing.holds {pairs : List (Entry × Endpoint σ ρ ι)}
    (hPairing : Pairing routePrefix endpoints catalogue.entries pairs)
    (hCompile : compile routePrefix (endpoints.map (·.declaration)) = .ok catalogue) :
    Holds (Table.of endpoints) pairs ∧
      pairs.Pairwise fun a b => a.1.contract.id ≠ b.1.contract.id := by
  obtain ⟨entries, hAll, -, hApart, hOrdered⟩ := exists_of_compile_eq_ok hCompile
  constructor
  · intro pair hPair
    have hMem : pair.2 ∈ endpoints := hPairing.endpoints.subset (List.mem_map_of_mem hPair)
    have hContract : pair.2.contract? = some pair.1.contract.id :=
      (of_entryOf_eq_ok (hPairing.compiled pair hPair)).1
    exact lookup?_of_mem (nodup_contracts hAll hApart) hMem hContract
  · rw [← hPairing.entries, List.pairwise_map] at hOrdered
    exact hOrdered.imp fun hPair => hPair.contract

/-! ### Registering -/

theorem missingDependency?_eq_some_iff (provider : Provider σ κ ι) (handler : Handler σ ρ ι)
    (fault : RegistrationFault) :
    missingDependency? provider handler = some fault ↔
      ∃ service, IsFirst (fun service => provider.provides service = false)
        handler.dependencies service ∧ fault = .missingDependency handler.request.name service := by
  have hFirst := find?_eq_some_iff_isFirst (fun service => !provider.provides service)
    handler.dependencies
  simp only [Bool.not_eq_true'] at hFirst
  rw [missingDependency?, Option.map_eq_some_iff]
  simp only [hFirst]
  exact exists_congr fun service => and_congr_right fun _ => eq_comm

/-- The dependencies of all handlers come before the types of their requests. -/
theorem registryOf_eq_error_iff (provider : Provider σ κ ι) (handlers : List (Handler σ ρ ι))
    (fault : RegistrationFault) :
    registryOf provider handlers = .error fault ↔
      (∃ handler, IsFirst (fun handler => ¬ IsProvided provider handler) handlers handler ∧
        missingDependency? provider handler = some fault) ∨
      (∀ handler ∈ handlers, IsProvided provider handler) ∧
        ∃ duplicate, Registry.ofHandlers handlers = .error duplicate ∧
          fault = .duplicateHandler duplicate.request := by
  simp only [← missingDependency?_eq_none_iff]
  rw [← findSome?_eq_some_iff_isFirst, ← List.findSome?_eq_none_iff, registryOf]
  cases handlers.findSome? (missingDependency? provider) with
  | some found => simp
  | none => cases Registry.ofHandlers handlers <;> simp [Except.mapError, eq_comm]

/-! ### The first fault -/

/-- The fault of endpoints, in the order of their entries, with which registering them stops. -/
inductive FirstFault (provider : Provider σ κ ι) (pairs : List (Entry × Endpoint σ ρ ι)) :
    RegistrationFault → Prop where
  /-- The first handler that does not agree with its entry is of another kind. -/
  | kind {pair : Entry × Endpoint σ ρ ι}
      (hFirst : IsFirst (fun pair => ¬ Agrees pair.1 pair.2.handler) pairs pair)
      (hKind : ¬ KindAgrees pair.1.contract.capability pair.2.handler.kind) :
      FirstFault provider pairs (.kindMismatch pair.1.contract.id
        pair.1.contract.capability.resultType?.isSome (hasResult pair.2.handler))
  /-- The first handler that does not agree with its entry is of its kind, but of another shape. -/
  | shape {pair : Entry × Endpoint σ ρ ι}
      (hFirst : IsFirst (fun pair => ¬ Agrees pair.1 pair.2.handler) pairs pair)
      (hKind : KindAgrees pair.1.contract.capability pair.2.handler.kind) :
      FirstFault provider pairs (.shapeMismatch pair.1.contract.id
        (declaredShape pair.1.plan) (boundShape pair.2.handler))
  /-- All handlers agree with their entries, and the first that depends on something that is not
  provided depends on this first. -/
  | dependency {handler : Handler σ ρ ι} {service : String}
      (hAgree : ∀ pair ∈ pairs, Agrees pair.1 pair.2.handler)
      (hFirst : IsFirst (fun handler => ¬ IsProvided provider handler)
        (pairs.map (·.2.handler)) handler)
      (hService : IsFirst (fun service => provider.provides service = false)
        handler.dependencies service) :
      FirstFault provider pairs (.missingDependency handler.request.name service)
  /-- All handlers agree with their entries and all dependencies are provided, and this is the first
  handler whose type of request is taken by one before it. -/
  | duplicate {before after : List (Handler σ ρ ι)} {handler : Handler σ ρ ι}
      (hAgree : ∀ pair ∈ pairs, Agrees pair.1 pair.2.handler)
      (hProvided : ∀ pair ∈ pairs, IsProvided provider pair.2.handler)
      (hHandlers : pairs.map (·.2.handler) = before ++ handler :: after)
      (hFresh : (before.map (·.request.name)).Nodup)
      (hTaken : handler.request.name ∈ before.map (·.request.name)) :
      FirstFault provider pairs (.duplicateHandler handler.request.name)

/-- The first fault is found by the check of the handlers, or else by what registers them. -/
theorem firstFault_iff (provider : Provider σ κ ι) (pairs : List (Entry × Endpoint σ ρ ι))
    (fault : RegistrationFault) :
    FirstFault provider pairs fault ↔
      (∃ pair, IsFirst (fun pair => ¬ Agrees pair.1 pair.2.handler) pairs pair ∧
        checkHandler pair.1 pair.2.handler = .error fault) ∨
      (∀ pair ∈ pairs, Agrees pair.1 pair.2.handler) ∧
        registryOf provider (pairs.map (·.2.handler)) = .error fault := by
  rw [registryOf_eq_error_iff]
  constructor
  · intro hFault
    cases hFault with
    | kind hFirst hKind =>
        exact Or.inl ⟨_, hFirst, (checkHandler_eq_error_iff _ _ _).mpr (Or.inl ⟨hKind, rfl⟩)⟩
    | shape hFirst hKind =>
        obtain ⟨-, -, -, hDisagrees, -⟩ := id hFirst
        have hShape : declaredShape _ ≠ boundShape _ := fun hSame =>
          hDisagrees ⟨hKind, (declaredShape_eq_iff _ _).mp hSame⟩
        exact Or.inl ⟨_, hFirst,
          (checkHandler_eq_error_iff _ _ _).mpr (Or.inr ⟨hKind, hShape, rfl⟩)⟩
    | dependency hAgree hFirst hService =>
        exact Or.inr ⟨hAgree, Or.inl ⟨_, hFirst,
          (missingDependency?_eq_some_iff _ _ _).mpr ⟨_, hService, rfl⟩⟩⟩
    | duplicate hAgree hProvided hHandlers hFresh hTaken =>
        refine Or.inr ⟨hAgree, Or.inr ⟨?_, _, (Registry.ofHandlers_eq_error_iff _ _).mpr
          ⟨_, _, _, hHandlers, hFresh, hTaken, rfl⟩, rfl⟩⟩
        intro handler hHandler
        obtain ⟨pair, hPair, rfl⟩ := List.mem_map.mp hHandler
        exact hProvided pair hPair
  · rintro (⟨pair, hFirst, hCheck⟩ | ⟨hAgree, ⟨handler, hFirst, hMissing⟩ | ⟨hProvided, hTwice⟩⟩)
    · rcases (checkHandler_eq_error_iff _ _ _).mp hCheck with ⟨hKind, rfl⟩ | ⟨hKind, -, rfl⟩
      · exact .kind hFirst hKind
      · exact .shape hFirst hKind
    · obtain ⟨service, hService, rfl⟩ := (missingDependency?_eq_some_iff _ _ _).mp hMissing
      exact .dependency hAgree hFirst hService
    · obtain ⟨duplicate, hDuplicate, rfl⟩ := hTwice
      obtain ⟨before, handler, after, hHandlers, hFresh, hTaken, rfl⟩ :=
        (Registry.ofHandlers_eq_error_iff _ _).mp hDuplicate
      exact .duplicate hAgree (fun pair hPair => hProvided _ (List.mem_map_of_mem hPair))
        hHandlers hFresh hTaken

/-- Registering stops with the first fault of the endpoints in the order of their entries. -/
theorem Pairing.register_eq_error_iff {pairs : List (Entry × Endpoint σ ρ ι)}
    (hPairing : Pairing routePrefix endpoints catalogue.entries pairs)
    (hCompile : compile routePrefix (endpoints.map (·.declaration)) = .ok catalogue)
    (provider : Provider σ κ ι) (fault : RegistrationFault) :
    register provider endpoints catalogue.entries = .error fault ↔
      FirstFault provider pairs fault := by
  obtain ⟨hHolds, hApart⟩ := hPairing.holds hCompile
  have hOk := hHolds.pairEntries_eq_ok_iff hApart
  have hError := hHolds.pairEntries_eq_error_iff hApart
  rw [hPairing.entries] at hOk hError
  rw [firstFault_iff, ← hError fault, register]
  -- Either some handler does not agree with its entry, or the handlers are registered.
  cases hPairs : pairEntries (Table.of endpoints) catalogue.entries with
  | error first =>
      have hSome : ¬ ∀ pair ∈ pairs, Agrees pair.1 pair.2.handler := fun hAgree =>
        nomatch hPairs.symm.trans ((hOk pairs).mpr ⟨hAgree, rfl⟩)
      simp only [Except.bind, Except.error.injEq]
      exact ⟨Or.inl, fun hEither => hEither.resolve_right fun hAll => hSome hAll.1⟩
  | ok others =>
      obtain ⟨hAgree, rfl⟩ := (hOk others).mp hPairs
      simp only [Except.bind, Dispatch.map_eq_error_iff, reduceCtorEq, false_or]
      exact ⟨fun hRegistry => ⟨hAgree, hRegistry⟩, fun h => h.2⟩

/-! ### Endpoints that can be assembled -/

/-- Endpoints from which a service can be assembled, whatever their order. -/
structure IsAssemblable (routePrefix : String) (provider : Provider σ κ ι)
    (endpoints : List (Endpoint σ ρ ι)) : Prop where
  compiles : ∃ catalogue, compile routePrefix (endpoints.map (·.declaration)) = .ok catalogue
  /-- Each handler agrees with the entry that is compiled from its endpoint. -/
  agree : ∀ endpoint ∈ endpoints, ∀ entry,
    entryOf routePrefix endpoint.declaration = .ok entry → Agrees entry endpoint.handler
  provided : ∀ endpoint ∈ endpoints, IsProvided provider endpoint.handler
  /-- No two handlers take the same type of request. -/
  distinct : (endpoints.map (·.handler.request.name)).Nodup

/-- Registering succeeds exactly if there is nothing to stop with. -/
theorem Pairing.exists_register_eq_ok_iff {pairs : List (Entry × Endpoint σ ρ ι)}
    (hPairing : Pairing routePrefix endpoints catalogue.entries pairs)
    (hCompile : compile routePrefix (endpoints.map (·.declaration)) = .ok catalogue)
    (provider : Provider σ κ ι) :
    (∃ made, register provider endpoints catalogue.entries = .ok made) ↔
      (∀ pair ∈ pairs, Agrees pair.1 pair.2.handler) ∧
        (∀ pair ∈ pairs, IsProvided provider pair.2.handler) ∧
        (pairs.map (·.2.handler.request.name)).Nodup := by
  obtain ⟨hHolds, hApart⟩ := hPairing.holds hCompile
  have hOk := hHolds.pairEntries_eq_ok_iff hApart
  rw [hPairing.entries] at hOk
  have hHandlers := registryOf_eq_ok_iff provider (pairs.map (·.2.handler))
  simp only [List.forall_mem_map, List.map_map, Function.comp_def] at hHandlers
  constructor
  · rintro ⟨⟨mounts, registry⟩, hMade⟩
    obtain ⟨others, hPairs, hRegistry, -⟩ := (register_eq_ok_iff _ _ _ _ _).mp hMade
    obtain ⟨hAgree, rfl⟩ := (hOk others).mp hPairs
    obtain ⟨hProvided, hNodup, -⟩ := (hHandlers registry).mp hRegistry
    exact ⟨hAgree, hProvided, hNodup⟩
  · rintro ⟨hAgree, hProvided, hNodup⟩
    exact ⟨(_, _), (register_eq_ok_iff _ _ _ _ _).mpr ⟨pairs, (hOk pairs).mpr ⟨hAgree, rfl⟩,
      (hHandlers _).mpr ⟨hProvided, hNodup, rfl⟩, rfl⟩⟩

/-- What is asked of the pairs is asked of the endpoints. -/
theorem Pairing.isAssemblable_iff {pairs : List (Entry × Endpoint σ ρ ι)}
    (hPairing : Pairing routePrefix endpoints catalogue.entries pairs)
    (hCompile : compile routePrefix (endpoints.map (·.declaration)) = .ok catalogue)
    (provider : Provider σ κ ι) :
    IsAssemblable routePrefix provider endpoints ↔
      (∀ pair ∈ pairs, Agrees pair.1 pair.2.handler) ∧
        (∀ pair ∈ pairs, IsProvided provider pair.2.handler) ∧
        (pairs.map (·.2.handler.request.name)).Nodup := by
  have hNames : (pairs.map (·.2.handler.request.name)).Perm
      (endpoints.map (·.handler.request.name)) := by
    simpa [List.map_map, Function.comp_def] using
      hPairing.endpoints.map fun endpoint => endpoint.handler.request.name
  have hOf : ∀ pair ∈ pairs, pair.2 ∈ endpoints := fun pair hPair =>
    hPairing.endpoints.subset (List.mem_map_of_mem hPair)
  have hPairOf : ∀ endpoint ∈ endpoints, ∃ pair ∈ pairs, pair.2 = endpoint := fun endpoint hMem =>
    List.mem_map.mp (hPairing.endpoints.symm.subset hMem)
  rw [hNames.nodup_iff]
  constructor
  · intro hAll
    exact ⟨fun pair hPair => hAll.agree _ (hOf pair hPair) _ (hPairing.compiled pair hPair),
      fun pair hPair => hAll.provided _ (hOf pair hPair), hAll.distinct⟩
  · rintro ⟨hAgree, hProvided, hNodup⟩
    refine ⟨⟨catalogue, hCompile⟩, ?_, ?_, hNodup⟩
    · intro endpoint hEndpoint entry hEntry
      obtain ⟨pair, hPair, rfl⟩ := hPairOf endpoint hEndpoint
      obtain rfl := Except.ok.inj ((hPairing.compiled pair hPair).symm.trans hEntry)
      exact hAgree pair hPair
    · intro endpoint hEndpoint
      obtain ⟨pair, hPair, rfl⟩ := hPairOf endpoint hEndpoint
      exact hProvided pair hPair

/-- Endpoints whose declarations compile are assembled exactly if they can be registered. -/
theorem exists_assemble_eq_ok_iff
    (hCompile : compile routePrefix (endpoints.map (·.declaration)) = .ok catalogue)
    (provider : Provider σ κ ι) (isCancelled : Token → σ → Bool) :
    (∃ service, assemble routePrefix provider isCancelled endpoints = .ok service) ↔
      ∃ made, register provider endpoints catalogue.entries = .ok made := by
  constructor
  · rintro ⟨service, hService⟩
    obtain ⟨other, mounts, registry, hOther, hRegister, -⟩ :=
      (assemble_eq_ok_iff _ _ _).mp hService
    obtain rfl := Except.ok.inj (hCompile.symm.trans hOther)
    exact ⟨_, hRegister⟩
  · rintro ⟨⟨mounts, registry⟩, hRegister⟩
    exact ⟨_, (assemble_eq_ok_iff _ _ _).mpr
      ⟨catalogue, mounts, registry, hCompile, hRegister, rfl⟩⟩

theorem assemble_eq_error_iff
    (hCompile : compile routePrefix (endpoints.map (·.declaration)) = .ok catalogue)
    (provider : Provider σ κ ι) (isCancelled : Token → σ → Bool) (fault : AssemblyFault) :
    assemble routePrefix provider isCancelled endpoints = .error fault ↔
      ∃ first, register provider endpoints catalogue.entries = .error first ∧
        fault = .unregistered first := by
  rw [assemble, hCompile]
  dsimp only
  cases hMade : register provider endpoints catalogue.entries with
  | error first => simp [eq_comm]
  | ok made => simp

/-- A service is assembled exactly from endpoints whose declarations compile, whose handlers agree
with their entries, are provided with all that they depend on, and take different types of request.
Otherwise the assembly stops with the diagnostics of the compiler, or else with the first fault of
the endpoints in the order of their entries. -/
theorem assembly_stops_at_first_fault (routePrefix : String) (provider : Provider σ κ ι)
    (isCancelled : Token → σ → Bool) (endpoints : List (Endpoint σ ρ ι)) :
    ((∃ service, assemble routePrefix provider isCancelled endpoints = .ok service) ↔
        IsAssemblable routePrefix provider endpoints) ∧
      ∀ fault, assemble routePrefix provider isCancelled endpoints = .error fault ↔
        (∃ diagnostics, compile routePrefix (endpoints.map (·.declaration)) = .error diagnostics ∧
          fault = .uncompiled diagnostics) ∨
        ∃ catalogue pairs first,
          compile routePrefix (endpoints.map (·.declaration)) = .ok catalogue ∧
          Pairing routePrefix endpoints catalogue.entries pairs ∧
          FirstFault provider pairs first ∧ fault = .unregistered first := by
  cases hCompile : compile routePrefix (endpoints.map (·.declaration)) with
  | error diagnostics =>
      have hAssemble : assemble routePrefix provider isCancelled endpoints =
          .error (.uncompiled diagnostics) := by
        rw [assemble, hCompile]
      rw [hAssemble]
      refine ⟨⟨nofun, ?_⟩, fun fault => ?_⟩
      · rintro ⟨⟨catalogue, hOk⟩, -, -, -⟩
        exact nomatch hCompile.symm.trans hOk
      · simp [eq_comm]
  | ok catalogue =>
      obtain ⟨pairs, hPairing⟩ := exists_pairing hCompile
      constructor
      · rw [hPairing.isAssemblable_iff hCompile, ← hPairing.exists_register_eq_ok_iff hCompile]
        exact exists_assemble_eq_ok_iff hCompile provider isCancelled
      · intro fault
        rw [assemble_eq_error_iff hCompile]
        constructor
        · rintro ⟨first, hFirst, rfl⟩
          exact Or.inr ⟨catalogue, pairs, first, rfl, hPairing,
            (hPairing.register_eq_error_iff hCompile provider first).mp hFirst, rfl⟩
        · rintro (⟨diagnostics, hError, -⟩ | ⟨other, others, first, hOther, hOthers, hFirst, rfl⟩)
          · exact nomatch hError
          · obtain rfl := Except.ok.inj hOther
            exact ⟨first, (hOthers.register_eq_error_iff hCompile provider first).mpr hFirst, rfl⟩

end Service
end Switchboard
