import Switchboard.Catalogue.Entry
import Switchboard.Proofs.Text.Pieces
import Mathlib.Data.List.Nodup

/-!
# Declarations that are valid on their own

`IsValid` says of a declaration alone, without a list of problems, when it can be compiled.  A
declaration has no problems exactly when it is valid, and then all parts of its entry are there: a
check that finds no value always reports a problem, so nothing is refused without a reason.  What
two declarations may not have in common is not looked at here.
-/

namespace Switchboard
namespace Catalogue

open Endpoint (Declaration Kind RequestType Signature Status)

/-! ### Checks that give a reason -/

/-- A check that never fails without a problem has no problems exactly when it has a value. -/
theorem Check.problems_eq_nil_iff {α : Type} {check : Check α} (hReason : check ≠ .error []) :
    check.problems = [] ↔ ∃ a, check = .ok a := by
  cases check with
  | ok a => simp [Check.problems]
  | error problems =>
      have hNe : problems ≠ [] := fun hEq => hReason (by rw [hEq])
      simp [Check.problems, hNe]

theorem kindOf_ne_error_nil (d : Declaration) : kindOf d ≠ .error [] := by
  unfold kindOf
  split <;> simp

theorem controllerOf_ne_error_nil (d : Declaration) : controllerOf d ≠ .error [] := by
  unfold controllerOf
  split
  · simp
  · split <;> simp

theorem handlerOf_ne_error_nil (d : Declaration) : handlerOf d ≠ .error [] := by
  unfold handlerOf
  split <;> simp

theorem capabilityOf_ne_error_nil (kind : Kind) (signature : Signature) :
    capabilityOf kind signature ≠ .error [] := by
  unfold capabilityOf
  split
  · split <;> simp
  · simp
  · simp

theorem argumentsOf_ne_error_nil (requestType : String) (signature : Signature) :
    argumentsOf requestType signature ≠ .error [] := by
  unfold argumentsOf
  split
  · simp
  · rename_i hProblems
    simpa using hProblems

/-- A declaration without problems has every part of its entry. -/
theorem exists_parts_of_problemsOf_eq_nil {d : Declaration} (hNil : problemsOf d = []) :
    ∃ parts, partsOf? d = some parts := by
  simp only [problemsOf, List.append_eq_nil_iff] at hNil
  obtain ⟨⟨⟨⟨hKind, hController⟩, -⟩, hHandler⟩, hSignature⟩ := hNil
  obtain ⟨⟨kind, type⟩, hKind⟩ := (Check.problems_eq_nil_iff (kindOf_ne_error_nil d)).mp hKind
  obtain ⟨controller, hController⟩ :=
    (Check.problems_eq_nil_iff (controllerOf_ne_error_nil d)).mp hController
  obtain ⟨signature, hHandler⟩ :=
    (Check.problems_eq_nil_iff (handlerOf_ne_error_nil d)).mp hHandler
  simp only [hKind, hHandler, List.append_eq_nil_iff] at hSignature
  obtain ⟨hCapability, hArguments⟩ := hSignature
  obtain ⟨capability, hCapability⟩ :=
    (Check.problems_eq_nil_iff (capabilityOf_ne_error_nil kind signature)).mp hCapability
  obtain ⟨⟨captured, slots⟩, hArguments⟩ :=
    (Check.problems_eq_nil_iff (argumentsOf_ne_error_nil _ signature)).mp hArguments
  exact ⟨⟨kind, type, controller, capability, captured, slots⟩,
    by simp [partsOf?, hKind, hController, hHandler, hCapability, hArguments]⟩

/-! ### What makes a declaration valid -/

/-- A handler hands back a result of a type: its result type is given, and trimmed it is that type
and not the empty pair. -/
def HasResult (signature : Signature) (type : String) : Prop :=
  ∃ returns, signature.returns = some returns ∧ Text.trim returns = type ∧ type ≠ "()"

/-- The signature of a handler fits the request that the handler is for. -/
structure SignatureFits (kind : Kind) (type : RequestType) (signature : Signature) : Prop where
  /-- Only a command may go without a result. -/
  command_of_no_result : (∀ result, ¬ HasResult signature result) → kind = .command
  resolved : ∀ result, HasResult signature result → isResolved result = true
  names_nodup : (signature.params.map fun param => Text.trim param.name).Nodup
  at_most_one_request :
    (signature.params.filter (takesRequest (type.nameFor kind))).length ≤ 1

/-- Whether a character separates the segments of a namespace.  A double colon is two separators
with an empty segment between them. -/
def isNamespaceSeparator (c : Char) : Bool := c == ':' || c == '.'

/-- A declaration that can be compiled as far as it alone is concerned. -/
structure IsValid (d : Declaration) : Prop where
  /-- A command or a query is given, and not both. -/
  one_kind : d.command.isSome ≠ d.query.isSome
  /-- The controller is given, or the namespace has a segment to name it. -/
  controller : (∃ controller, d.controller = some controller ∧ Text.trim controller ≠ "") ∨
    ∃ segment ∈ Text.pieces isNamespaceSeparator d.namespaceName, Text.trim segment ≠ ""
  first_status : ∀ status, d.statuses.head? = some status → status = .ok ∨ status = .noContent
  handler : ∃ signature, d.handler = some signature ∧
    ∀ kind type, d.request? = some (kind, type) → SignatureFits kind type signature

theorem kindOf_eq_ok_iff (d : Declaration) (request : Kind × RequestType) :
    kindOf d = .ok request ↔ d.request? = some request := by
  unfold kindOf Declaration.request?
  cases d.command <;> cases d.query <;> simp

theorem exists_kindOf_eq_ok_iff (d : Declaration) :
    (∃ request, kindOf d = .ok request) ↔ d.command.isSome ≠ d.query.isSome := by
  unfold kindOf
  cases d.command <;> cases d.query <;> simp

/-- A namespace names a controller exactly when it has a segment that is not blank. -/
theorem lastSegment?_isSome_iff (path : String) :
    (∃ segment, Endpoint.lastSegment? path = some segment) ↔
      ∃ segment ∈ Text.pieces isNamespaceSeparator path, Text.trim segment ≠ "" := by
  have hPieces : Endpoint.lastSegment? path =
      (Text.pieces isNamespaceSeparator path).reverse.findSome? Text.nonBlank? := rfl
  rw [hPieces]
  constructor
  · rintro ⟨found, hFound⟩
    obtain ⟨segment, hSegment, hNonBlank⟩ := List.exists_of_findSome?_eq_some hFound
    exact ⟨segment, List.mem_reverse.mp hSegment,
      ((Text.nonBlank?_eq_some_iff _ _).mp hNonBlank).2⟩
  · rintro ⟨segment, hSegment, hNe⟩
    refine Option.isSome_iff_exists.mp (List.findSome?_isSome_iff.mpr ?_)
    refine ⟨segment, List.mem_reverse.mpr hSegment, ?_⟩
    rw [(Text.nonBlank?_eq_some_iff segment _).mpr ⟨rfl, hNe⟩]
    rfl

theorem exists_controllerOf_eq_ok_iff (d : Declaration) :
    (∃ controller, controllerOf d = .ok controller) ↔
      (∃ controller, d.controller = some controller ∧ Text.trim controller ≠ "") ∨
        ∃ segment ∈ Text.pieces isNamespaceSeparator d.namespaceName,
          Text.trim segment ≠ "" := by
  have hGiven : (∃ found, d.controller.bind Text.nonBlank? = some found) ↔
      ∃ controller, d.controller = some controller ∧ Text.trim controller ≠ "" := by
    simp only [Option.bind_eq_some_iff, Text.nonBlank?_eq_some_iff]
    constructor
    · rintro ⟨_, controller, hController, rfl, hNe⟩
      exact ⟨controller, hController, hNe⟩
    · rintro ⟨controller, hController, hNe⟩
      exact ⟨_, controller, hController, rfl, hNe⟩
  rw [← hGiven, ← lastSegment?_isSome_iff]
  unfold controllerOf
  cases hExplicit : d.controller.bind Text.nonBlank? with
  | some controller => simp
  | none =>
      cases hImplied : Endpoint.lastSegment? d.namespaceName with
      | some segment => simp
      | none => simp

theorem producedStatuses_fst (declared : List Status) :
    (producedStatuses declared).1 = declared.head?.getD .ok := by
  cases declared with
  | nil => rfl
  | cons status rest => simp [producedStatuses, distinctFrom]

theorem statusesOf_problems_eq_nil_iff (d : Declaration) :
    (statusesOf d).problems = [] ↔
      ∀ status, d.statuses.head? = some status → status = .ok ∨ status = .noContent := by
  have hFirst : (statusesOf d).problems = [] ↔
      (producedStatuses d.statuses).1.isSuccess = true := by
    simp only [statusesOf]
    split <;> rename_i hSuccess
    · simp [Check.problems, hSuccess]
    · simp [Check.problems, hSuccess]
  rw [hFirst, producedStatuses_fst]
  cases d.statuses.head? with
  | none => simp [Status.isSuccess]
  | some status => cases status <;> simp [Status.isSuccess]

theorem resultTypeOf_eq_some_iff (signature : Signature) (type : String) :
    resultTypeOf signature = some type ↔ HasResult signature type := by
  unfold resultTypeOf HasResult
  cases signature.returns with
  | none => simp
  | some returns =>
      by_cases hUnit : Text.trim returns = "()"
      · simp only [Option.map_some, hUnit, Option.some.injEq, exists_eq_left']
        constructor
        · rintro ⟨⟩
        · rintro ⟨rfl, hNe⟩
          exact absurd rfl hNe
      · rw [Option.map_some]
        split
        · rename_i hEq
          exact absurd (Option.some.inj hEq) hUnit
        · simp only [Option.some.injEq, exists_eq_left']
          constructor
          · rintro rfl
            exact ⟨rfl, hUnit⟩
          · exact fun h => h.1

theorem exists_capabilityOf_eq_ok_iff (kind : Kind) (signature : Signature) :
    (∃ capability, capabilityOf kind signature = .ok capability) ↔
      ((∀ result, ¬ HasResult signature result) → kind = .command) ∧
        ∀ result, HasResult signature result → isResolved result = true := by
  simp only [← resultTypeOf_eq_some_iff]
  unfold capabilityOf
  cases hResult : resultTypeOf signature with
  | none => cases kind <;> simp
  | some type =>
      by_cases hResolved : isResolved type = true
      · simp [hResolved]
      · simp [hResolved]

/-- Names are repeated unless they are distinct and new to those seen before. -/
theorem repeatedFrom_eq_nil_iff (seen names : List String) (hSeen : seen.Nodup) :
    repeatedFrom seen names = [] ↔ names.Nodup ∧ ∀ name ∈ names, name ∉ seen := by
  induction names generalizing seen with
  | nil => simp [repeatedFrom]
  | cons name rest ih =>
      -- A name is reported when it comes for the second time, and the names seen are distinct.
      by_cases hMem : name ∈ seen
      · have hCount : seen.count name = 1 := List.count_eq_one_of_mem hSeen hMem
        simp [repeatedFrom, hCount, hMem]
      · have hCount : seen.count name ≠ 1 := by
          rw [List.count_eq_zero_of_not_mem hMem]
          omega
        have hNodup : (name :: seen).Nodup := List.nodup_cons.mpr ⟨hMem, hSeen⟩
        rw [repeatedFrom, if_neg hCount, ih _ hNodup, List.nodup_cons]
        constructor
        · rintro ⟨hRest, hFresh⟩
          refine ⟨⟨fun hName => hFresh name hName (by simp), hRest⟩, ?_⟩
          intro other hOther
          rcases List.mem_cons.mp hOther with rfl | hOther
          · exact hMem
          · exact fun h => hFresh other hOther (by simp [h])
        · rintro ⟨⟨hName, hRest⟩, hFresh⟩
          refine ⟨hRest, fun other hOther hSeenOther => ?_⟩
          rcases List.mem_cons.mp hSeenOther with rfl | hSeenOther
          · exact hName hOther
          · exact hFresh other (by simp [hOther]) hSeenOther

theorem exists_argumentsOf_eq_ok_iff (requestType : String) (signature : Signature) :
    (∃ arguments, argumentsOf requestType signature = .ok arguments) ↔
      (signature.params.map fun param => Text.trim param.name).Nodup ∧
        (signature.params.filter (takesRequest requestType)).length ≤ 1 := by
  have hNil : (∃ arguments, argumentsOf requestType signature = .ok arguments) ↔
      paramProblems requestType signature = [] := by
    unfold argumentsOf
    cases paramProblems requestType signature <;> simp
  rw [hNil, paramProblems, List.append_eq_nil_iff, List.map_eq_nil_iff,
    repeatedFrom_eq_nil_iff [] _ List.nodup_nil]
  simp

theorem handlerOf_eq_ok_iff (d : Declaration) (signature : Signature) :
    handlerOf d = .ok signature ↔ d.handler = some signature := by
  unfold handlerOf
  cases d.handler <;> simp

/-- A declaration has no problems exactly when it is valid. -/
theorem problemsOf_eq_nil_iff (d : Declaration) : problemsOf d = [] ↔ IsValid d := by
  simp only [problemsOf, List.append_eq_nil_iff,
    Check.problems_eq_nil_iff (kindOf_ne_error_nil d),
    Check.problems_eq_nil_iff (controllerOf_ne_error_nil d),
    Check.problems_eq_nil_iff (handlerOf_ne_error_nil d),
    exists_kindOf_eq_ok_iff, exists_controllerOf_eq_ok_iff, statusesOf_problems_eq_nil_iff]
  constructor
  · rintro ⟨⟨⟨⟨hKind, hController⟩, hStatus⟩, signature, hHandler⟩, hSignature⟩
    -- The signature is looked at only where the kind and the handler are settled.
    refine ⟨hKind, hController, hStatus, signature, (handlerOf_eq_ok_iff d _).mp hHandler, ?_⟩
    intro kind type hRequest
    simp only [(kindOf_eq_ok_iff d _).mpr hRequest, hHandler, List.append_eq_nil_iff,
      Check.problems_eq_nil_iff (capabilityOf_ne_error_nil kind signature),
      Check.problems_eq_nil_iff (argumentsOf_ne_error_nil _ signature),
      exists_capabilityOf_eq_ok_iff, exists_argumentsOf_eq_ok_iff] at hSignature
    obtain ⟨⟨hCommand, hResolved⟩, hNames, hRequests⟩ := hSignature
    exact ⟨hCommand, hResolved, hNames, hRequests⟩
  · rintro ⟨hKind, hController, hStatus, signature, hHandler, hFits⟩
    have hHandlerOf := (handlerOf_eq_ok_iff d _).mpr hHandler
    refine ⟨⟨⟨⟨hKind, hController⟩, hStatus⟩, signature, hHandlerOf⟩, ?_⟩
    obtain ⟨⟨kind, type⟩, hKindOf⟩ := (exists_kindOf_eq_ok_iff d).mpr hKind
    have hSignature := hFits kind type ((kindOf_eq_ok_iff d _).mp hKindOf)
    simp only [hKindOf, hHandlerOf, List.append_eq_nil_iff,
      Check.problems_eq_nil_iff (capabilityOf_ne_error_nil kind signature),
      Check.problems_eq_nil_iff (argumentsOf_ne_error_nil _ signature),
      exists_capabilityOf_eq_ok_iff, exists_argumentsOf_eq_ok_iff]
    exact ⟨⟨hSignature.command_of_no_result, hSignature.resolved⟩,
      hSignature.names_nodup, hSignature.at_most_one_request⟩

instance (d : Declaration) : Decidable (IsValid d) :=
  decidable_of_iff (problemsOf d = []) (problemsOf_eq_nil_iff d)

/-! ### The entry of a declaration -/

/-- An entry is made from the parts of a declaration without problems. -/
theorem entryOf_eq_ok_iff (routePrefix : String) (d : Declaration) (entry : Entry) :
    entryOf routePrefix d = .ok entry ↔
      problemsOf d = [] ∧
        ∃ parts, partsOf? d = some parts ∧ entry = parts.entry routePrefix d := by
  unfold entryOf
  split
  · rename_i parts hProblems hParts
    simp [hProblems, hParts, eq_comm]
  · rename_i hOther
    constructor
    · intro hError
      cases hError
    · rintro ⟨hProblems, parts, hParts, -⟩
      exact absurd hParts (hOther parts hProblems)

/-- A declaration is refused with its problems, of which there is at least one. -/
theorem entryOf_eq_error_iff (routePrefix : String) (d : Declaration)
    (problems : List Problem) :
    entryOf routePrefix d = .error problems ↔ problems = problemsOf d ∧ problems ≠ [] := by
  unfold entryOf
  split
  · rename_i parts hProblems hParts
    simp [hProblems]
  · rename_i hOther
    -- Without problems all parts are there, so this case is not about missing parts.
    have hNe : problemsOf d ≠ [] := by
      intro hNil
      obtain ⟨parts, hParts⟩ := exists_parts_of_problemsOf_eq_nil hNil
      exact hOther parts hNil hParts
    constructor
    · rintro ⟨⟩
      exact ⟨rfl, hNe⟩
    · rintro ⟨rfl, -⟩
      rfl

theorem entryOf_ne_error_nil (routePrefix : String) (d : Declaration) :
    entryOf routePrefix d ≠ .error [] := by
  intro hError
  exact ((entryOf_eq_error_iff routePrefix d []).mp hError).2 rfl

theorem exists_entryOf_eq_ok_iff (routePrefix : String) (d : Declaration) :
    (∃ entry, entryOf routePrefix d = .ok entry) ↔ IsValid d := by
  rw [← problemsOf_eq_nil_iff]
  constructor
  · rintro ⟨entry, hEntry⟩
    exact ((entryOf_eq_ok_iff routePrefix d entry).mp hEntry).1
  · intro hNil
    obtain ⟨parts, hParts⟩ := exists_parts_of_problemsOf_eq_nil hNil
    exact ⟨_, (entryOf_eq_ok_iff routePrefix d _).mpr ⟨hNil, parts, hParts, rfl⟩⟩

/-- The contract of a declaration that has one kind. -/
def contractIdOf? (d : Declaration) : Option ContractId :=
  d.request?.map fun request => ⟨d.namespaceName, d.name, request.1⟩

/-- The path of a declaration below a prefix.  A declaration without a controller, which is not
valid, has the path of an empty one. -/
def pathOf (routePrefix : String) (d : Declaration) : String :=
  Route.joined
    [routePrefix, Text.kebab ((controllerOf d).toOption.getD ""), (actionOf d).getD ""]

theorem of_partsOf?_eq_some {d : Declaration} {parts : Parts} (hParts : partsOf? d = some parts) :
    d.request? = some (parts.kind, parts.type) ∧ controllerOf d = .ok parts.controller := by
  unfold partsOf? at hParts
  split at hParts
  · rename_i hKind hController _
    split at hParts
    · obtain rfl := Option.some.inj hParts
      exact ⟨(kindOf_eq_ok_iff d _).mp hKind, hController⟩
    · cases hParts
  · cases hParts

/-- What an entry shares with other entries or may not share with them. -/
theorem of_entryOf_eq_ok {routePrefix : String} {d : Declaration} {entry : Entry}
    (hEntry : entryOf routePrefix d = .ok entry) :
    contractIdOf? d = some entry.contract.id ∧ entry.route.method = d.method ∧
      entry.route.path = pathOf routePrefix d := by
  obtain ⟨-, parts, hParts, rfl⟩ := (entryOf_eq_ok_iff routePrefix d entry).mp hEntry
  obtain ⟨hRequest, hController⟩ := of_partsOf?_eq_some hParts
  refine ⟨?_, rfl, ?_⟩
  · simp [contractIdOf?, hRequest, Parts.entry, contractOf]
  · simp [pathOf, hController, Except.toOption, Parts.entry, routeOf]

/-- An entry succeeds with a status of success. -/
theorem isSuccess_of_entryOf_eq_ok {routePrefix : String} {d : Declaration} {entry : Entry}
    (hEntry : entryOf routePrefix d = .ok entry) : entry.route.success.isSuccess = true := by
  obtain ⟨hNone, parts, -, rfl⟩ := (entryOf_eq_ok_iff routePrefix d entry).mp hEntry
  have hFirst := ((problemsOf_eq_nil_iff d).mp hNone).first_status
  show (producedStatuses d.statuses).1.isSuccess = true
  rw [producedStatuses_fst]
  cases hStatus : d.statuses.head? with
  | none => rfl
  | some status =>
      rcases hFirst status hStatus with rfl | rfl
      · rfl
      · rfl

theorem controllerRoute_of_entryOf_eq_ok {routePrefix : String} {d : Declaration}
    {entry : Entry} (hEntry : entryOf routePrefix d = .ok entry) :
    entry.route.controllerRoute = Text.kebab entry.route.controller := by
  obtain ⟨-, parts, -, rfl⟩ := (entryOf_eq_ok_iff routePrefix d entry).mp hEntry
  rfl

end Catalogue
end Switchboard
