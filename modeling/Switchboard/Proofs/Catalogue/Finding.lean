import Switchboard.Proofs.Catalogue.Rearrangement
import Switchboard.Proofs.Catalogue.Statuses

/-!
# Finding an entry by its contract

A catalogue is searched in the order of its controllers, and the first entry of a contract is taken.
Declarations that compile together have different contracts, so the one that is found is the only
one (`find?_eq_some_iff`): the entry of the declaration with the contract, if there is one
(`contracts_find_their_entries`).  The parts of an entry are made by separate functions, and
`Entry.IsFor` says in what they agree.
-/

namespace Switchboard
namespace Catalogue

open Endpoint (Declaration Kind Signature Status)

/-! ### The parts of an entry -/

theorem exists_resultType?_of_capabilityOf {signature : Signature} {capability : Capability}
    (hCapability : capabilityOf .query signature = .ok capability) :
    ∃ type, capability.resultType? = some type := by
  unfold capabilityOf at hCapability
  split at hCapability
  · rename_i type _
    split_ifs at hCapability
    obtain rfl := Except.ok.inj hCapability
    exact ⟨type, rfl⟩
  · contradiction
  · contradiction

theorem capabilityOf_of_partsOf?_eq_some {d : Declaration} {parts : Parts}
    (hParts : partsOf? d = some parts) :
    ∃ signature, capabilityOf parts.kind signature = .ok parts.capability := by
  unfold partsOf? at hParts
  split at hParts
  · split at hParts
    · rename_i signature _ _ _ _ hCapability _
      obtain rfl := Option.some.inj hParts
      exact ⟨_, hCapability⟩
    · cases hParts
  · cases hParts

/-- All parts of an entry are for one contract. -/
structure Entry.IsFor (entry : Entry) (id : ContractId) : Prop where
  contract : entry.contract.id = id
  route : entry.route.contract = id
  plan : entry.plan.contract = id
  body_iff : entry.route.source = .body ↔ id.kind = .command
  responseBody : entry.route.responseBody = entry.contract.capability.resultType?
  query_result : id.kind = .query → ∃ type, entry.route.responseBody = some type
  success : entry.route.success = .ok ∨ entry.route.success = .noContent
  statuses_nodup : (entry.route.success :: entry.route.otherStatuses).Nodup

/-- The entry of a declaration is for the contract of the declaration. -/
theorem isFor_of_entryOf_eq_ok {routePrefix : String} {d : Declaration} {entry : Entry}
    (hEntry : entryOf routePrefix d = .ok entry) : entry.IsFor entry.contract.id := by
  have hSuccess := isSuccess_of_entryOf_eq_ok hEntry
  obtain ⟨-, parts, hParts, rfl⟩ := (entryOf_eq_ok_iff routePrefix d entry).mp hEntry
  refine ⟨rfl, rfl, rfl, ?_, rfl, ?_, ?_, nodup_producedStatuses d.statuses⟩
  · show sourceOf parts.kind = .body ↔ parts.kind = .command
    cases parts.kind <;> simp [sourceOf]
  · intro hQuery
    obtain ⟨signature, hCapability⟩ := capabilityOf_of_partsOf?_eq_some hParts
    rw [show parts.kind = .query from hQuery] at hCapability
    exact exists_resultType?_of_capabilityOf hCapability
  · revert hSuccess
    cases (parts.entry routePrefix d).route.success <;> simp [Status.isSuccess]

/-! ### Looking up a contract -/

/-- What is found under a contract is the entry of the contract. -/
theorem find?_eq_some_iff {catalogue : Catalogue} (hApart : catalogue.entries.Pairwise Apart)
    (id : ContractId) (entry : Entry) :
    catalogue.find? id = some entry ↔ entry ∈ catalogue.entries ∧ entry.contract.id = id := by
  constructor
  · intro hFound
    exact ⟨List.mem_of_find?_eq_some hFound, by simpa using List.find?_some hFound⟩
  · intro hEntry
    obtain ⟨hMem, rfl⟩ := hEntry
    exact find?_of_mem hApart hMem

/-- The declaration at a position has a contract. -/
def HasContractAt (ds : List Declaration) (id : ContractId) (i : Nat) (d : Declaration) : Prop :=
  ds[i]? = some d ∧ contractIdOf? d = some id

/-- Declarations with different contracts have each contract at one position only. -/
theorem HasContractAt.unique {ds : List Declaration} {id : ContractId} {i j : Nat}
    {d other : Declaration} (hNodup : (ds.map contractIdOf?).Nodup)
    (hFirst : HasContractAt ds id i d) (hSecond : HasContractAt ds id j other) : j = i := by
  have hAt : (ds.map contractIdOf?)[i]? = some (some id) := by
    rw [List.getElem?_map, hFirst.1, Option.map_some, hFirst.2]
  have hOther : (ds.map contractIdOf?)[j]? = some (some id) := by
    rw [List.getElem?_map, hSecond.1, Option.map_some, hSecond.2]
  exact (List.getElem?_inj (List.getElem?_eq_some_iff.mp hOther).1 hNodup).mp
    (hOther.trans hAt.symm)

/-- **Each contract finds its entry.**  In a compiled catalogue a contract finds the entry of the
declaration that has it, which is the only one, and nothing if no declaration has it.  Every entry
is that of a declaration and is for its contract in all parts. -/
theorem contracts_find_their_entries {routePrefix : String} {ds : List Declaration}
    {catalogue : Catalogue} (hCompile : compile routePrefix ds = .ok catalogue) :
    (∀ id i d, HasContractAt ds id i d →
      (∃ entry, entryOf routePrefix d = .ok entry ∧ catalogue.find? id = some entry) ∧
        ∀ j other, HasContractAt ds id j other → j = i) ∧
      (∀ id, (∀ d ∈ ds, contractIdOf? d ≠ some id) → catalogue.find? id = none) ∧
      ∀ entry ∈ catalogue.entries, ∃ d ∈ ds, entryOf routePrefix d = .ok entry ∧
        ∃ id, contractIdOf? d = some id ∧ entry.IsFor id := by
  obtain ⟨entries, hAll, hHolds, hApart, hOrdered⟩ := exists_of_compile_eq_ok hCompile
  have hOf : ∀ entry ∈ catalogue.entries, ∃ d ∈ ds, entryOf routePrefix d = .ok entry := by
    intro entry hMem
    obtain ⟨hLength, hAt⟩ := (compiles_iff_getElem routePrefix ds entries).mp hAll
    obtain ⟨i, hi, rfl⟩ := List.getElem_of_mem (hHolds.perm.subset hMem)
    exact ⟨_, List.getElem_mem _, hAt i (by omega) hi⟩
  refine ⟨?_, ?_, ?_⟩
  · intro id i d hDeclared
    constructor
    · obtain ⟨entry, hEntry, hOk⟩ := hAll.exists_of_mem (List.mem_of_getElem? hDeclared.1)
      have hId : entry.contract.id = id :=
        Option.some.inj ((of_entryOf_eq_ok hOk).1.symm.trans hDeclared.2)
      exact ⟨entry, hOk, (find?_eq_some_iff hOrdered id entry).mpr
        ⟨hHolds.perm.symm.subset hEntry, hId⟩⟩
    · intro j other hOther
      exact hDeclared.unique (hAll.nodup_contractIdOf? hApart) hOther
  · intro id hNone
    apply Option.eq_none_iff_forall_ne_some.mpr
    intro entry hFound
    obtain ⟨hMem, rfl⟩ := (find?_eq_some_iff hOrdered id entry).mp hFound
    obtain ⟨d, hd, hEntry⟩ := hOf entry hMem
    exact hNone d hd (of_entryOf_eq_ok hEntry).1
  · intro entry hMem
    obtain ⟨d, hd, hEntry⟩ := hOf entry hMem
    exact ⟨d, hd, hEntry, entry.contract.id, (of_entryOf_eq_ok hEntry).1,
      isFor_of_entryOf_eq_ok hEntry⟩

/-- The command that is declared last is found, and as a query it is not there. -/
theorem sample_contracts_find_their_entries :
    ∃ catalogue, compile "/api" sampleDeclarations = .ok catalogue ∧
      (∃ entry, entryOf "/api" renameOrder = .ok entry ∧
        catalogue.find? ⟨"app::Orders", "Rename", .command⟩ = some entry) ∧
      catalogue.find? ⟨"app::Orders", "Rename", .query⟩ = none := by
  obtain ⟨hFound, hNone, -⟩ := contracts_find_their_entries compile_sampleDeclarations
  refine ⟨_, compile_sampleDeclarations, ?_, ?_⟩
  · exact (hFound ⟨"app::Orders", "Rename", .command⟩ 2 renameOrder ⟨rfl, rfl⟩).1
  · exact hNone _ (by decide)

end Catalogue
end Switchboard
