import Mathlib.Data.List.Basic
import Switchboard.Catalogue.Writing
import Switchboard.Proofs.Json.Compact

/-!
# Written catalogues

A written catalogue loses nothing: no two catalogues have one text, although parts that are absent
are left out and variants are told apart by a field.  The two spellings differ in white space outside
strings alone.  Reading a written catalogue is not looked at here, as nothing reads it.
-/

namespace Switchboard

open Function (Injective)

namespace Endpoint

theorem Kind.name_injective : Injective Kind.name := by
  intro a b hName
  cases a <;> cases b <;> first | rfl | exact absurd hName (by decide)

theorem Method.name_injective : Injective Method.name := by
  intro a b hName
  cases a <;> cases b <;> first | rfl | exact absurd hName (by decide)

theorem Status.name_injective : Injective Status.name := by
  intro a b hName
  cases a <;> cases b <;> first | rfl | exact absurd hName (by decide)

end Endpoint

namespace Catalogue

open Endpoint (Kind Method Status)
open Json (Value withoutSpace)

theorem Source.name_injective : Injective Source.name := by
  intro a b hName
  cases a <;> cases b <;> first | rfl | exact absurd hName (by decide)

/-! ### Parts that may be absent -/

/-- A field that may be left out can be told, as long as no other field takes its place. -/
theorem optional_append_inj {α : Type} {field : α → String × Value} (hField : Injective field)
    {a b : Option α} {rest left : List (String × Value)} (hRest : ∀ x, rest.head? ≠ some (field x))
    (hLeft : ∀ x, left.head? ≠ some (field x))
    (hEq : a.toList.map field ++ rest = b.toList.map field ++ left) : a = b ∧ rest = left := by
  cases a with
  | none =>
      cases b with
      | none => exact ⟨rfl, hEq⟩
      | some y => exact (hRest y (congrArg List.head? hEq)).elim
  | some x =>
      cases b with
      | none => exact (hLeft x (congrArg List.head? hEq).symm).elim
      | some y =>
          obtain ⟨hHead, hTail⟩ := List.cons.inj hEq
          exact ⟨congrArg some (hField hHead), hTail⟩

theorem optional_inj {α : Type} {field : α → String × Value} (hField : Injective field)
    {a b : Option α} (hEq : a.toList.map field = b.toList.map field) : a = b := by
  have hNone : ∀ x, [].head? ≠ some (field x) := fun x => by simp
  exact (optional_append_inj hField hNone hNone (by simpa using hEq)).1

theorem textField_injective (key : String) : Injective fun s => (key, Value.text s) := by
  intro s t hEq
  simpa using hEq

theorem ofText?_injective : Injective Value.ofText? := by
  intro a b hEq
  cases a <;> cases b <;> simp_all [Value.ofText?]

/-! ### Parts of a catalogue -/

theorem ContractId.toJson_injective : Injective ContractId.toJson := by
  rintro ⟨namespaceName, endpoint, kind⟩ ⟨namespaceName', endpoint', kind'⟩ hEq
  simpa [ContractId.toJson, Endpoint.Kind.name_injective.eq_iff] using hEq

theorem Capability.toJson_injective : Injective Capability.toJson := by
  intro a b hEq
  cases a <;> cases b <;> simp_all [Capability.toJson]

theorem Contract.toJson_injective : Injective Contract.toJson := by
  rintro ⟨id, typeName, capability, validator⟩ ⟨id', typeName', capability', validator'⟩ hEq
  simp only [Contract.toJson, Value.object.injEq, List.cons_append, List.nil_append,
    List.cons.injEq, Prod.mk.injEq, Value.text.injEq, ContractId.toJson_injective.eq_iff,
    Capability.toJson_injective.eq_iff, true_and] at hEq
  obtain ⟨rfl, rfl, rfl, hValidator⟩ := hEq
  have hField : Injective fun name =>
      ("validator", Value.object [("name", .text name)]) := fun s t hEq => by simpa using hEq
  obtain rfl := optional_inj hField hValidator
  rfl

theorem Access.toJson_injective : Injective Access.toJson := by
  intro a b hEq
  cases a with
  | anonymous => cases b <;> simp_all [Access.toJson]
  | required policy =>
      cases b with
      | anonymous => simp [Access.toJson] at hEq
      | required policy' =>
          have hPolicy : optionalField "policy" policy = optionalField "policy" policy' := by
            simpa [Access.toJson] using hEq
          obtain rfl := optional_inj (textField_injective "policy") hPolicy
          rfl

theorem Binding.toJson_injective : Injective Binding.toJson := by
  rintro ⟨endpoint, controller, controllerRoute, action, method, path, source, success, others, body,
    access, contract⟩ ⟨endpoint', controller', controllerRoute', action', method', path', source',
    success', others', body', access', contract'⟩ hEq
  have hStatus : Injective fun status : Status => Value.text status.name := fun s t hEq => by
    simpa [Endpoint.Status.name_injective.eq_iff] using hEq
  simp only [Binding.toJson, Value.object.injEq, Value.array.injEq, List.cons_append,
    List.nil_append, List.cons.injEq, Prod.mk.injEq, Value.text.injEq,
    ofText?_injective.eq_iff, Endpoint.Method.name_injective.eq_iff, Source.name_injective.eq_iff,
    Endpoint.Status.name_injective.eq_iff, hStatus.list_map.eq_iff, true_and] at hEq
  obtain ⟨rfl, rfl, rfl, rfl, rfl, rfl, rfl, rfl, rfl, hBehind⟩ := hEq
  obtain ⟨rfl, hRest⟩ := optional_append_inj (textField_injective "response_body") (by simp)
    (by simp) hBehind
  simp only [List.cons.injEq, Prod.mk.injEq, Access.toJson_injective.eq_iff,
    ContractId.toJson_injective.eq_iff, true_and, and_true] at hRest
  obtain ⟨rfl, rfl⟩ := hRest
  rfl

theorem CapturedField.toJson_injective : Injective CapturedField.toJson := by
  rintro ⟨name, type⟩ ⟨name', type'⟩ hEq
  simpa [CapturedField.toJson] using hEq

theorem Slot.toJson_injective : Injective Slot.toJson := by
  intro a b hEq
  cases a with
  | request => cases b <;> simp_all [Slot.toJson]
  | captured field =>
      cases b with
      | request => simp [Slot.toJson] at hEq
      | captured field' =>
          have hField : (field : Int) = field' := by simpa [Slot.toJson] using hEq
          rw [Int.ofNat_inj.mp hField]

theorem Plan.toJson_injective : Injective Plan.toJson := by
  rintro ⟨name, contract, captured, slots⟩ ⟨name', contract', captured', slots'⟩ hEq
  simpa [Plan.toJson, ContractId.toJson_injective.eq_iff,
    CapturedField.toJson_injective.list_map.eq_iff, Slot.toJson_injective.list_map.eq_iff] using hEq

theorem Entry.toJson_injective : Injective Entry.toJson := by
  rintro ⟨route, contract, plan⟩ ⟨route', contract', plan'⟩ hEq
  simpa [Entry.toJson, Binding.toJson_injective.eq_iff, Contract.toJson_injective.eq_iff,
    Plan.toJson_injective.eq_iff] using hEq

theorem Controller.toJson_injective : Injective Controller.toJson := by
  rintro ⟨name, route, entries⟩ ⟨name', route', entries'⟩ hEq
  simpa [Controller.toJson, Entry.toJson_injective.list_map.eq_iff] using hEq

theorem toJson_injective : Injective toJson := by
  rintro ⟨controllers⟩ ⟨controllers'⟩ hEq
  simpa [toJson, Controller.toJson_injective.list_map.eq_iff] using hEq

/-! ### Texts -/

section Built

variable {depth : Nat}

theorem ContractId.isBuiltOf_toJson (id : ContractId) :
    id.toJson.IsBuiltOf Value.IsExact (depth + 1) :=
  .object (by simp)

theorem Capability.isBuiltOf_toJson (capability : Capability) :
    capability.toJson.IsBuiltOf Value.IsExact (depth + 1) := by
  cases capability <;> exact .object (by simp)

theorem Contract.isBuiltOf_toJson (contract : Contract) :
    contract.toJson.IsBuiltOf Value.IsExact (depth + 2) := by
  have hName (name : String) :
      (Value.object [("name", .text name)]).IsBuiltOf Value.IsExact (depth + 1) :=
    .object (by simp)
  refine .object ?_
  simp [ContractId.isBuiltOf_toJson, Capability.isBuiltOf_toJson, hName]

theorem Access.isBuiltOf_toJson (access : Access) :
    access.toJson.IsBuiltOf Value.IsExact (depth + 1) := by
  cases access <;> exact .object (by simp [optionalField])

theorem Binding.isBuiltOf_toJson (binding : Binding) :
    binding.toJson.IsBuiltOf Value.IsExact (depth + 2) := by
  have hStatus (status : Status) : (Value.text status.name).IsBuiltOf Value.IsExact depth :=
    .scalar trivial trivial
  refine .object ?_
  simp [optionalField, Value.IsBuiltOf.map hStatus, or_imp, forall_and, Access.isBuiltOf_toJson,
    ContractId.isBuiltOf_toJson]

theorem CapturedField.isBuiltOf_toJson (field : CapturedField) :
    field.toJson.IsBuiltOf Value.IsExact (depth + 1) :=
  .object (by simp)

theorem Slot.isBuiltOf_toJson (slot : Slot) : slot.toJson.IsBuiltOf Value.IsExact (depth + 1) := by
  cases slot <;> exact .object (by simp)

theorem Plan.isBuiltOf_toJson (plan : Plan) : plan.toJson.IsBuiltOf Value.IsExact (depth + 3) := by
  refine .object ?_
  simp [ContractId.isBuiltOf_toJson, Value.IsBuiltOf.map CapturedField.isBuiltOf_toJson,
    Value.IsBuiltOf.map Slot.isBuiltOf_toJson]

theorem Entry.isBuiltOf_toJson (entry : Entry) :
    entry.toJson.IsBuiltOf Value.IsExact (depth + 4) := by
  refine .object ?_
  simp [Binding.isBuiltOf_toJson, Contract.isBuiltOf_toJson, Plan.isBuiltOf_toJson]

theorem Controller.isBuiltOf_toJson (controller : Controller) :
    controller.toJson.IsBuiltOf Value.IsExact (depth + 6) := by
  refine .object ?_
  simp [Value.IsBuiltOf.map Entry.isBuiltOf_toJson]

end Built

/-- A catalogue is built of arrays, objects, texts, nulls and whole numbers. -/
theorem isBuiltOf_toJson (catalogue : Catalogue) :
    catalogue.toJson.IsBuiltOf Value.IsExact 8 := by
  refine .object ?_
  simp [Value.IsBuiltOf.map Controller.isBuiltOf_toJson]

/-- **Written catalogues lose nothing, and their spellings differ in white space alone.**  Two
catalogues with one text are equal, in either spelling.  The indented spelling without its white
space outside strings is the compact one. -/
theorem texts_tell_catalogues_apart :
    (∀ (pretty : Bool) (x y : Catalogue), x.render pretty = y.render pretty ↔ x = y) ∧
      ∀ x : Catalogue, String.ofList (withoutSpace false (x.render true).toList) = x.render false := by
  refine ⟨fun pretty x y => ⟨fun hEq => ?_, congrArg _⟩, fun x => ?_⟩
  · exact toJson_injective (Json.render_inj x.isBuiltOf_toJson y.isBuiltOf_toJson hEq)
  · have hTexts := Json.withoutSpace_render x.isBuiltOf_toJson true
    rw [render, hTexts, String.ofList_toList, render]

end Catalogue
end Switchboard
