import Switchboard.Proofs.Catalogue.Arguments
import Switchboard.Proofs.Endpoint.Name

/-!
# Parameters that take the request

A parameter takes the request if its type ends in the name of the request type, or if its own name
is one of those that always stand for the request.  What a type ends in is a segment, so the first
sign works only where the name of the request type is a segment itself: then every parameter of this
type takes the request, whether its type is written plainly or qualified.  A request type that is
declared under a qualified name is told by no type at all, not even by the name as it is declared
(`sample_qualified_request_is_captured`).
-/

namespace Switchboard
namespace Endpoint

open Catalogue (isNamespaceSeparator)

/-- A type is written as a name, or as a qualified name that has this name as its last part. -/
def IsPathTo (name path : String) : Prop :=
  path = name ∨ ∃ scope, path = scope ++ "::" ++ name ∨ path = scope ++ "." ++ name

theorem EndsIn.of_isPathTo {name path : String} (hPath : IsPathTo name path) :
    EndsIn path name := by
  have hBehind : ∀ (front : List Char) (sep : Char), isNamespaceSeparator sep = true →
      path.toList = front ++ sep :: name.toList → EndsIn path name := by
    intro front sep hSep hEq
    exact ⟨front ++ sep :: [], [], by simp [hEq], .separated front sep [] hSep (by simp), by simp⟩
  rcases hPath with rfl | ⟨scope, rfl | rfl⟩
  · exact ⟨[], [], by simp, .start [] (by simp), by simp⟩
  · exact hBehind (scope.toList ++ [':']) ':' rfl (by simp)
  · exact hBehind scope.toList '.' rfl (by simp)

end Endpoint

namespace Catalogue

open Endpoint (Declaration Param)

/-- The type of a parameter ends in the name of the request type, which is a segment. -/
def IsOfRequestType (requestType : String) (param : Param) : Prop :=
  Endpoint.IsSegment requestType ∧ Endpoint.EndsIn (referredType param.type) requestType

/-- Type and name are the two signs of a parameter for the request. -/
theorem takesRequest_iff (requestType : String) (param : Param) :
    takesRequest requestType param = true ↔
      IsOfRequestType requestType param ∨ Text.trim param.name ∈ requestNames := by
  unfold takesRequest IsOfRequestType
  rw [Bool.or_eq_true, beq_iff_eq, Endpoint.lastSegment?_eq_some_iff, List.contains_iff_mem]

/-- A plan tells the parameters for the request by their types and by their names. -/
structure Plan.Tells (plan : Plan) (requestType : String) (params : List Param) : Prop where
  request_iff : ∀ i (hi : i < params.length), plan.arguments[i]? = some .request ↔
    IsOfRequestType requestType params[i] ∨ Text.trim params[i].name ∈ requestNames
  /-- A request type whose name is a segment is told in plain and in qualified types. -/
  of_path : Endpoint.IsSegment requestType → ∀ i (hi : i < params.length),
    Endpoint.IsPathTo requestType (referredType params[i].type) →
      plan.arguments[i]? = some .request
  /-- A parameter for the request is none of the captured fields. -/
  not_captured : ∀ i (hi : i < params.length), plan.arguments[i]? = some .request →
    ∀ field ∈ plan.captured, field.name ≠ Text.trim params[i].name
  /-- Any other parameter is captured, and all of them are if no type can be the sign. -/
  captured : ∀ i (hi : i < params.length), ¬ IsOfRequestType requestType params[i] →
    Text.trim params[i].name ∉ requestNames → ∃ field,
      plan.arguments[i]? = some (.captured field) ∧
      plan.captured[field]? = some ⟨Text.trim params[i].name, Text.trim params[i].type⟩

/-- Where names differ, no captured field has the name of a parameter that takes the request. -/
theorem name_ne_of_mem_assignSlots {requestType : String} {params : List Param}
    (hNames : (params.map fun param => Text.trim param.name).Nodup) {param : Param}
    (hMem : param ∈ params) (hTakes : takesRequest requestType param = true) (next : Nat)
    {field : CapturedField} (hField : field ∈ (assignSlots requestType next params).1) :
    field.name ≠ Text.trim param.name := by
  have hParam : field.param ∈ (assignSlots requestType next params).1.map CapturedField.param :=
    List.mem_map_of_mem hField
  rw [assignSlots_fst] at hParam
  obtain ⟨other, hOther, hEq⟩ := List.mem_map.mp hParam
  obtain ⟨hOtherMem, hOtherTakes⟩ := List.mem_filter.mp hOther
  intro hName
  have hSame : Text.trim other.name = Text.trim param.name :=
    (congrArg Param.name hEq).trans hName
  have hOnly : other = param := List.inj_on_of_nodup_map hNames hOtherMem hMem hSame
  rw [hOnly, hTakes] at hOtherTakes
  exact absurd hOtherTakes (by decide)

/-- **The request goes to the parameters of its type.**  The plan of a declaration that compiles
tells the parameters for the request by the name of the request type that stands in its contract. -/
theorem request_goes_to_its_type {routePrefix : String} {d : Declaration} {entry : Entry}
    (hEntry : entryOf routePrefix d = .ok entry) :
    ∃ signature, d.handler = some signature ∧
      entry.plan.Tells entry.contract.typeName signature.params := by
  obtain ⟨-, parts, hParts, rfl⟩ := (entryOf_eq_ok_iff routePrefix d entry).mp hEntry
  obtain ⟨signature, hHandler, hSlots, hNames, -⟩ := slots_of_partsOf?_eq_some hParts
  obtain ⟨hCaptured, hArguments⟩ := Prod.ext_iff.mp hSlots
  have hCaptured : (parts.entry routePrefix d).plan.captured =
      (assignSlots (parts.type.nameFor parts.kind) 0 signature.params).1 := hCaptured
  have hArguments : (parts.entry routePrefix d).plan.arguments =
      (assignSlots (parts.type.nameFor parts.kind) 0 signature.params).2 := hArguments
  have hRequest : ∀ i (hi : i < signature.params.length),
      (parts.entry routePrefix d).plan.arguments[i]? = some .request ↔
        takesRequest (parts.type.nameFor parts.kind) signature.params[i] = true := by
    intro i hi
    rw [hArguments]
    exact getElem?_assignSlots_eq_request_iff _ 0 hi
  refine ⟨signature, hHandler, ?_, ?_, ?_, ?_⟩
  · intro i hi
    exact (hRequest i hi).trans (takesRequest_iff _ _)
  · intro hSegment i hi hPath
    apply (hRequest i hi).mpr
    exact (takesRequest_iff _ _).mpr (Or.inl ⟨hSegment, .of_isPathTo hPath⟩)
  · intro i hi hSlot field hField
    rw [hCaptured] at hField
    exact name_ne_of_mem_assignSlots hNames (List.getElem_mem hi) ((hRequest i hi).mp hSlot) 0 hField
  · intro i hi hType hName
    have hTakes : takesRequest (parts.type.nameFor parts.kind) signature.params[i] = false := by
      rw [Bool.eq_false_iff, ne_eq, takesRequest_iff]
      exact not_or.mpr ⟨hType, hName⟩
    rw [hArguments, hCaptured]
    exact exists_field_of_not_takesRequest _ hi hTakes

/-! ### A request type declared under a qualified name -/

/-- A command of a type with the given name, whose handler takes one parameter of a type. -/
def placing (requestType paramType : String) : Declaration :=
  ((Declaration.bare "app::Orders" "Place" .post).withCommand ⟨some requestType, false⟩).withHandler
    ⟨[⟨"order", paramType⟩], none⟩

/-- The plan and the type name of a declaration that compiles without a prefix. -/
def planOf? (d : Declaration) : Option (String × Plan) :=
  (entryOf "" d).toOption.map fun entry => (entry.contract.typeName, entry.plan)

theorem exists_of_planOf? {d : Declaration} {typeName : String} {plan : Plan}
    (hPlan : planOf? d = some (typeName, plan)) :
    ∃ entry, entryOf "" d = .ok entry ∧ entry.contract.typeName = typeName ∧
      entry.plan = plan := by
  obtain ⟨entry, hEntry, hEq⟩ := Option.map_eq_some_iff.mp hPlan
  obtain ⟨hType, hPlan⟩ := Prod.mk.inj hEq
  refine ⟨entry, ?_, hType, hPlan⟩
  cases hResult : entryOf "" d with
  | error problems => simp [hResult, Except.toOption] at hEntry
  | ok found => simpa [hResult, Except.toOption] using hEntry

/-- A plain request type is told in a qualified type. -/
theorem sample_request_goes_to_its_type :
    ∃ entry, entryOf "" (placing "Place" "&orders::Place") = .ok entry ∧
      entry.plan.captured = [] ∧ entry.plan.arguments = [.request] ∧
      ∃ signature, (placing "Place" "&orders::Place").handler = some signature ∧
        entry.plan.Tells entry.contract.typeName signature.params := by
  have hPlan : planOf? (placing "Place" "&orders::Place") = some ("Place",
      ⟨"PlaceHandler", ⟨"app::Orders", "Place", .command⟩, [], [.request]⟩) := by
    decide +kernel
  obtain ⟨entry, hEntry, -, hPlan⟩ := exists_of_planOf? hPlan
  exact ⟨entry, hEntry, by rw [hPlan], by rw [hPlan], request_goes_to_its_type hEntry⟩

/-- Under a qualified name the request type is not told, even where the type of the parameter is that
very name: the parameter is captured. -/
theorem sample_qualified_request_is_captured :
    ∃ entry, entryOf "" (placing "orders::Place" "orders::Place") = .ok entry ∧
      Endpoint.IsPathTo (Text.trim entry.contract.typeName) (referredType "orders::Place") ∧
      entry.plan.arguments[0]? ≠ some .request ∧
      entry.plan.captured = [⟨"order", "orders::Place"⟩] := by
  have hPlan : planOf? (placing "orders::Place" "orders::Place") = some ("orders::Place",
      ⟨"orders::PlaceHandler", ⟨"app::Orders", "Place", .command⟩, [⟨"order", "orders::Place"⟩],
        [.captured 0]⟩) := by
    decide +kernel
  obtain ⟨entry, hEntry, hType, hPlan⟩ := exists_of_planOf? hPlan
  refine ⟨entry, hEntry, Or.inl ?_, by rw [hPlan]; decide, by rw [hPlan]⟩
  rw [hType]
  decide +kernel

end Catalogue
end Switchboard
