import Mathlib.Data.List.Nodup
import Switchboard.Proofs.Catalogue.Acceptance

/-!
# Arguments of a handler

The pass over the parameters of a handler builds two lists side by side: the captured fields, and a
slot for each parameter that either takes the request or carries the number of a field.  The fields
are the parameters that do not take the request, the numbers count up as they stand, and putting the
fields and the request back into the slots gives the parameters again.  What the fields are filled
with when the handler is called is not looked at here.
-/

namespace Switchboard
namespace Catalogue

open Endpoint (Declaration Param)

/-- The number that a slot carries, if it is filled with a captured field. -/
def Slot.field? : Slot → Option Nat
  | .request => none
  | .captured field => some field

/-- A parameter with the blanks around its name and its type left out. -/
def trimmedParam (param : Param) : Param :=
  ⟨Text.trim param.name, Text.trim param.type⟩

/-- A captured field as the parameter that it was captured from. -/
def CapturedField.param (field : CapturedField) : Param :=
  ⟨field.name, field.type⟩

/-- The parameter that a slot stands for among captured fields, where `request` takes the request. -/
def Slot.param? (captured : List CapturedField) (request : Option Param) : Slot → Option Param
  | .request => request
  | .captured field => captured[field]?.map CapturedField.param

/-- A plan fills the parameters of a handler in their order. -/
structure Plan.Fills (plan : Plan) (requestType : String) (params : List Param) : Prop where
  one_slot_each : plan.arguments.length = params.length
  at_most_one_request : plan.arguments.count .request ≤ 1
  /-- The numbers in the slots are those of all the captured fields, counted up from zero. -/
  fields_in_order : plan.arguments.filterMap Slot.field? = List.range plan.captured.length
  request_iff : ∀ i (hi : i < params.length),
    plan.arguments[i]? = some .request ↔ takesRequest requestType params[i] = true
  /-- Any other parameter is the captured field that its slot points to. -/
  captured_of_not_request : ∀ i (hi : i < params.length),
    takesRequest requestType params[i] = false → ∃ field,
      plan.arguments[i]? = some (.captured field) ∧
      plan.captured[field]? = some ⟨Text.trim params[i].name, Text.trim params[i].type⟩
  names_nodup : (plan.captured.map (·.name)).Nodup
  request_position : plan.requestPosition? = params.findIdx? (takesRequest requestType)
  /-- The fields and the request put back into the slots are the parameters. -/
  rebuilds : plan.arguments.map
      (Slot.param? plan.captured ((params.find? (takesRequest requestType)).map trimmedParam)) =
    params.map fun param => some (trimmedParam param)

/-- Of parameters at most one of which takes the request, the first that does is any that does. -/
theorem find?_eq_of_filter_length_le_one {takes : Param → Bool} {params : List Param}
    (hOne : (params.filter takes).length ≤ 1) {param : Param} (hMem : param ∈ params)
    (hTakes : takes param = true) : params.find? takes = some param := by
  have hFilter : param ∈ params.filter takes := List.mem_filter.mpr ⟨hMem, hTakes⟩
  obtain ⟨only, hOnly⟩ : ∃ only, params.filter takes = [only] :=
    List.length_eq_one_iff.mp (Nat.le_antisymm hOne (List.length_pos_of_mem hFilter))
  rw [hOnly, List.mem_singleton] at hFilter
  rw [← List.head?_filter, hOnly, hFilter]
  rfl

section Pass

variable (requestType : String)

/-! ### The pass over the parameters -/

theorem assignSlots_cons_of_request {param : Param}
    (hTakes : takesRequest requestType param = true) (next : Nat) (rest : List Param) :
    assignSlots requestType next (param :: rest) =
      ((assignSlots requestType next rest).1, .request :: (assignSlots requestType next rest).2) := by
  simp [assignSlots, hTakes]

theorem assignSlots_cons_of_captured {param : Param}
    (hTakes : takesRequest requestType param = false) (next : Nat) (rest : List Param) :
    assignSlots requestType next (param :: rest) =
      (⟨Text.trim param.name, Text.trim param.type⟩ :: (assignSlots requestType (next + 1) rest).1,
        .captured next :: (assignSlots requestType (next + 1) rest).2) := by
  simp [assignSlots, hTakes]

/-- The fields are the parameters that do not take the request, trimmed. -/
theorem assignSlots_fst (next : Nat) (params : List Param) :
    (assignSlots requestType next params).1.map CapturedField.param =
      (params.filter fun param => !takesRequest requestType param).map trimmedParam := by
  induction params generalizing next with
  | nil => rfl
  | cons param rest ih =>
      cases hTakes : takesRequest requestType param with
      | true => simp [assignSlots_cons_of_request _ hTakes, hTakes, ih]
      | false =>
          rw [assignSlots_cons_of_captured _ hTakes, List.filter_cons_of_pos (by simp [hTakes]),
            List.map_cons, List.map_cons, ih]
          rfl

/-- The slots tell which parameters take the request. -/
theorem assignSlots_snd_isRequest (next : Nat) (params : List Param) :
    (assignSlots requestType next params).2.map (· == .request) =
      params.map (takesRequest requestType) := by
  induction params generalizing next with
  | nil => rfl
  | cons param rest ih =>
      cases hTakes : takesRequest requestType param with
      | true => simp [assignSlots_cons_of_request _ hTakes, hTakes, ih]
      | false =>
          rw [assignSlots_cons_of_captured _ hTakes, List.map_cons, List.map_cons, ih, hTakes]
          rfl

/-- The slots carry the numbers of the fields from `next` on. -/
theorem assignSlots_snd_fields (next : Nat) (params : List Param) :
    (assignSlots requestType next params).2.filterMap Slot.field? =
      List.range' next (assignSlots requestType next params).1.length := by
  induction params generalizing next with
  | nil => rfl
  | cons param rest ih =>
      cases hTakes : takesRequest requestType param with
      | true => simp [assignSlots_cons_of_request _ hTakes, List.filterMap_cons, Slot.field?, ih]
      | false =>
          simp [assignSlots_cons_of_captured _ hTakes, Slot.field?, ih, List.range'_succ]

/-- Behind fields that were captured before, each slot stands for its own parameter. -/
theorem assignSlots_snd_params (before : List CapturedField) (request : Option Param)
    (params : List Param) :
    (assignSlots requestType before.length params).2.map
        (Slot.param? (before ++ (assignSlots requestType before.length params).1) request) =
      params.map fun param =>
        if takesRequest requestType param then request else some (trimmedParam param) := by
  induction params generalizing before with
  | nil => rfl
  | cons param rest ih =>
      cases hTakes : takesRequest requestType param with
      | true =>
          rw [assignSlots_cons_of_request _ hTakes, List.map_cons, List.map_cons, ih, if_pos hTakes]
          rfl
      | false =>
          -- The new field joins those captured before, and is the last of them.
          have hRest := ih (before ++ [⟨Text.trim param.name, Text.trim param.type⟩])
          simp only [List.length_append, List.length_singleton, List.append_assoc,
            List.singleton_append] at hRest
          rw [assignSlots_cons_of_captured _ hTakes, List.map_cons, List.map_cons, hRest,
            if_neg (by simp [hTakes])]
          simp [Slot.param?, CapturedField.param, trimmedParam]

/-! ### What the pass comes to -/

theorem length_assignSlots_snd (next : Nat) (params : List Param) :
    (assignSlots requestType next params).2.length = params.length := by
  simpa using congrArg List.length (assignSlots_snd_isRequest requestType next params)

theorem count_request_assignSlots (next : Nat) (params : List Param) :
    (assignSlots requestType next params).2.count .request =
      (params.filter (takesRequest requestType)).length := by
  have hCount := congrArg (List.countP id) (assignSlots_snd_isRequest requestType next params)
  rw [List.countP_map, List.countP_map, Function.id_comp, Function.id_comp] at hCount
  rw [← List.countP_eq_length_filter, List.count, hCount]

theorem findIdx?_request_assignSlots (next : Nat) (params : List Param) :
    (assignSlots requestType next params).2.findIdx? (· == .request) =
      params.findIdx? (takesRequest requestType) := by
  have hIdx := congrArg (List.findIdx? id) (assignSlots_snd_isRequest requestType next params)
  rwa [List.findIdx?_map, List.findIdx?_map, Function.id_comp, Function.id_comp] at hIdx

theorem getElem?_assignSlots_eq_request_iff (next : Nat) {params : List Param} {i : Nat}
    (hi : i < params.length) :
    (assignSlots requestType next params).2[i]? = some .request ↔
      takesRequest requestType params[i] = true := by
  have hSlot : i < (assignSlots requestType next params).2.length := by
    rwa [length_assignSlots_snd]
  have hAt := congrArg (·[i]?) (assignSlots_snd_isRequest requestType next params)
  simp only [List.getElem?_map, List.getElem?_eq_getElem hi, List.getElem?_eq_getElem hSlot,
    Option.map_some, Option.some.injEq] at hAt
  simp [List.getElem?_eq_getElem hSlot, ← hAt]

/-- A parameter that does not take the request is the field that its slot points to. -/
theorem exists_field_of_not_takesRequest {params : List Param} {i : Nat} (hi : i < params.length)
    (hTakes : takesRequest requestType params[i] = false) :
    ∃ field, (assignSlots requestType 0 params).2[i]? = some (.captured field) ∧
      (assignSlots requestType 0 params).1[field]? =
        some ⟨Text.trim params[i].name, Text.trim params[i].type⟩ := by
  have hSlot : i < (assignSlots requestType 0 params).2.length := by
    rwa [length_assignSlots_snd]
  -- With no parameter for the request, a slot stands for something only as a field.
  have hAt := congrArg (·[i]?) (assignSlots_snd_params requestType [] none params)
  simp only [List.length_nil, List.nil_append, List.getElem?_map, List.getElem?_eq_getElem hi,
    List.getElem?_eq_getElem hSlot, Option.map_some, Option.some.injEq, hTakes,
    Bool.false_eq_true, if_false] at hAt
  rw [List.getElem?_eq_getElem hSlot]
  cases hKind : (assignSlots requestType 0 params).2[i] with
  | request => simp [hKind, Slot.param?] at hAt
  | captured field =>
      rw [hKind] at hAt
      obtain ⟨found, hFound, hParam⟩ := Option.map_eq_some_iff.mp hAt
      obtain ⟨hName, hType⟩ := Param.mk.inj hParam
      exact ⟨field, rfl, by rw [hFound, ← hName, ← hType]⟩

theorem nodup_assignSlots_names {params : List Param}
    (hNames : (params.map fun param => Text.trim param.name).Nodup) (next : Nat) :
    ((assignSlots requestType next params).1.map (·.name)).Nodup := by
  have hFields := congrArg (List.map Param.name) (assignSlots_fst requestType next params)
  rw [List.map_map, List.map_map] at hFields
  have hSublist : ((assignSlots requestType next params).1.map (·.name)).Sublist
      (params.map fun param => Text.trim param.name) := by
    show (List.map (Param.name ∘ CapturedField.param) _).Sublist _
    rw [hFields]
    exact List.filter_sublist.map _
  exact hSublist.nodup hNames

/-- Where at most one parameter takes the request, the slots stand for the parameters. -/
theorem rebuilds_assignSlots {params : List Param}
    (hOne : (params.filter (takesRequest requestType)).length ≤ 1) :
    (assignSlots requestType 0 params).2.map (Slot.param? (assignSlots requestType 0 params).1
        ((params.find? (takesRequest requestType)).map trimmedParam)) =
      params.map fun param => some (trimmedParam param) := by
  refine (assignSlots_snd_params requestType [] _ params).trans
    (List.map_congr_left fun param hMem => ?_)
  by_cases hTakes : takesRequest requestType param = true
  · rw [if_pos hTakes, find?_eq_of_filter_length_le_one hOne hMem hTakes, Option.map_some]
  · rw [if_neg hTakes]

/-- The captured fields and the assigned slots fill parameters with different names, at most one of
which takes the request. -/
theorem fills_assignSlots (name : String) (contract : ContractId) {params : List Param}
    (hNames : (params.map fun param => Text.trim param.name).Nodup)
    (hOne : (params.filter (takesRequest requestType)).length ≤ 1) :
    (Plan.mk name contract (assignSlots requestType 0 params).1
      (assignSlots requestType 0 params).2).Fills requestType params where
  one_slot_each := length_assignSlots_snd requestType 0 params
  at_most_one_request := (count_request_assignSlots requestType 0 params).trans_le hOne
  fields_in_order :=
    (assignSlots_snd_fields requestType 0 params).trans List.range_eq_range'.symm
  request_iff _ hi := getElem?_assignSlots_eq_request_iff requestType 0 hi
  captured_of_not_request _ hi hTakes := exists_field_of_not_takesRequest requestType hi hTakes
  names_nodup := nodup_assignSlots_names requestType hNames 0
  request_position := findIdx?_request_assignSlots requestType 0 params
  rebuilds := rebuilds_assignSlots requestType hOne

end Pass

/-! ### The plan of a declaration -/

/-- The captured fields and the slots of a declaration come from one pass over the parameters of its
handler, whose names differ and at most one of which takes the request. -/
theorem slots_of_partsOf?_eq_some {d : Declaration} {parts : Parts}
    (hParts : partsOf? d = some parts) : ∃ signature, d.handler = some signature ∧
      (parts.captured, parts.slots) =
        assignSlots (parts.type.nameFor parts.kind) 0 signature.params ∧
      (signature.params.map fun param => Text.trim param.name).Nodup ∧
      (signature.params.filter (takesRequest (parts.type.nameFor parts.kind))).length ≤ 1 := by
  unfold partsOf? at hParts
  split at hParts
  · rename_i signature _ _ hHandler
    split at hParts
    · rename_i hArguments
      obtain rfl := Option.some.inj hParts
      have hFits := (exists_argumentsOf_eq_ok_iff _ signature).mp ⟨_, hArguments⟩
      refine ⟨signature, (handlerOf_eq_ok_iff d signature).mp hHandler, ?_, hFits⟩
      unfold argumentsOf at hArguments
      split at hArguments
      · exact (Except.ok.inj hArguments).symm
      · cases hArguments
    · cases hParts
  · cases hParts

/-- **The arguments of a plan are the parameters of the handler, in order.**  A declaration that
compiles has a handler, and its plan fills the parameters of this handler: each with the request or
with a captured field of its own, numbered as they stand. -/
theorem arguments_rebuild_parameters {routePrefix : String} {d : Declaration} {entry : Entry}
    (hEntry : entryOf routePrefix d = .ok entry) :
    ∃ kind type signature, d.request? = some (kind, type) ∧ d.handler = some signature ∧
      entry.contract.typeName = type.nameFor kind ∧
      entry.plan.Fills (type.nameFor kind) signature.params := by
  obtain ⟨-, parts, hParts, rfl⟩ := (entryOf_eq_ok_iff routePrefix d entry).mp hEntry
  obtain ⟨hRequest, -⟩ := of_partsOf?_eq_some hParts
  obtain ⟨signature, hHandler, hSlots, hNames, hOne⟩ := slots_of_partsOf?_eq_some hParts
  refine ⟨parts.kind, parts.type, signature, hRequest, hHandler, rfl, ?_⟩
  have hFills := fills_assignSlots (parts.type.nameFor parts.kind)
    (parts.type.nameFor parts.kind ++ "Handler")
    (contractOf d parts.kind parts.type parts.capability).id hNames hOne
  rw [← hSlots] at hFills
  exact hFills

/-- A command whose handler takes the request between two captured fields. -/
def placeOrder : Declaration :=
  ((Declaration.bare "app::Orders" "Place" .post).withCommand ⟨some "Place", false⟩).withHandler
    ⟨[⟨" orders", "Directory"⟩, ⟨"order", "& crate::Place"⟩, ⟨"clock", " Clock "⟩], none⟩

theorem sample_arguments_rebuild_parameters :
    ∃ entry, entryOf "/api" placeOrder = .ok entry ∧
      entry.plan.captured = [⟨"orders", "Directory"⟩, ⟨"clock", "Clock"⟩] ∧
      entry.plan.arguments = [.captured 0, .request, .captured 1] ∧
      ∃ kind type signature, placeOrder.request? = some (kind, type) ∧
        placeOrder.handler = some signature ∧ entry.contract.typeName = type.nameFor kind ∧
        entry.plan.Fills (type.nameFor kind) signature.params := by
  have hPlan : (entryOf "/api" placeOrder).toOption.map
        (fun entry => (entry.plan.captured, entry.plan.arguments)) =
      some ([⟨"orders", "Directory"⟩, ⟨"clock", "Clock"⟩],
        [.captured 0, .request, .captured 1]) := by
    decide +kernel
  obtain ⟨entry, hEntry, hPlan⟩ := Option.map_eq_some_iff.mp hPlan
  obtain ⟨hCaptured, hArguments⟩ := Prod.mk.inj hPlan
  have hOk : entryOf "/api" placeOrder = .ok entry := by
    cases hResult : entryOf "/api" placeOrder with
    | error problems => simp [hResult, Except.toOption] at hEntry
    | ok found => simpa [hResult, Except.toOption] using hEntry
  exact ⟨entry, hOk, hCaptured, hArguments, arguments_rebuild_parameters hOk⟩

end Catalogue
end Switchboard
