import Switchboard.Proofs.Json.Entries
import Switchboard.Service.Input

/-!
# Filling a body in

The parameters of a path are added to a body as fields that it does not have yet.  Either they cannot
be read, and then the body is left as it was, or all of them are added: what was in the body keeps
its value, a name that is new has the last of the values that are read for it, and no other name is
there afterwards (`parameters_fill_in`).

The pairs that are read are kept in a table with one value for each name, and the table may be gone
through in any order (`IsTableOf`).  The order does not matter because a text is added only where no
field has its name: texts of different names do not meet, and a table has no two texts of one name.
-/

namespace Switchboard
namespace Service

open Http (UriFault)
open Json (IsAscending Value find?_insertKey find?_key_cons find?_key_eq_some_iff find?_ordered
  insertKey_comm isAscending_ordered ordered)

/-! ### Fields and texts -/

/-- Fields with more texts, one after the other. -/
def addFields (fields : List (String × Value)) (texts : List (String × String)) :
    List (String × Value) :=
  texts.foldl (fun fields text => addField fields text.1 text.2) fields

theorem field?_object_eq_none_iff (fields : List (String × Value)) (name : String) :
    (Value.object fields).field? name = none ↔ fields.any (·.1 == name) = false := by
  simp [Value.field?, List.find?_eq_none]

theorem addField_of_present {fields : List (String × Value)} {name : String}
    (hPresent : (Value.object fields).field? name ≠ none) (text : String) :
    addField fields name text = fields := by
  rw [ne_eq, field?_object_eq_none_iff, Bool.not_eq_false] at hPresent
  rw [addField, if_pos hPresent]

theorem addField_of_absent {fields : List (String × Value)} {name : String}
    (hAbsent : (Value.object fields).field? name = none) (text : String) :
    addField fields name text = Json.insertKey name (.text text) fields := by
  rw [field?_object_eq_none_iff] at hAbsent
  rw [addField, if_neg (by simp [hAbsent])]

/-- A text is found where nothing was found under its name, and all else is as before. -/
theorem field?_addField (fields : List (String × Value)) (name text other : String) :
    (Value.object (addField fields name text)).field? other =
      ((Value.object fields).field? other).or
        (if name = other then some (.text text) else none) := by
  by_cases hAbsent : (Value.object fields).field? name = none
  · rw [addField_of_absent hAbsent, Value.field?, find?_insertKey]
    split_ifs with hName
    · rw [← hName, hAbsent]
      rfl
    · rw [Option.or_none]
      rfl
  · rw [addField_of_present hAbsent]
    split_ifs with hName
    · rw [← hName, Option.or_of_isSome (Option.isSome_iff_ne_none.mpr hAbsent)]
    · rw [Option.or_none]

/-- Of texts that are added one after the other, the first one of each name counts. -/
theorem field?_addFields (fields : List (String × Value)) (texts : List (String × String))
    (name : String) :
    (Value.object (addFields fields texts)).field? name =
      ((Value.object fields).field? name).or
        ((texts.find? (·.1 == name)).map fun text => .text text.2) := by
  induction texts generalizing fields with
  | nil => exact (Option.or_none ..).symm
  | cons text texts ih =>
      have hStep : addFields fields (text :: texts) =
          addFields (addField fields text.1 text.2) texts := rfl
      rw [hStep, ih, field?_addField, Option.or_assoc, find?_key_cons]
      split_ifs
      · rfl
      · rfl

theorem isAscending_addField {fields : List (String × Value)} (hAscending : IsAscending fields)
    (name text : String) : IsAscending (addField fields name text) := by
  unfold addField
  split_ifs
  · exact hAscending
  · exact hAscending.insertKey name _

theorem isAscending_addFields {fields : List (String × Value)} (hAscending : IsAscending fields)
    (texts : List (String × String)) : IsAscending (addFields fields texts) := by
  induction texts generalizing fields with
  | nil => exact hAscending
  | cons text texts ih => exact ih (isAscending_addField hAscending text.1 text.2)

/-- Texts whose names are all there change nothing. -/
theorem addFields_of_present {fields : List (String × Value)} {texts : List (String × String)}
    (hPresent : ∀ text ∈ texts, (Value.object fields).field? text.1 ≠ none) :
    addFields fields texts = fields := by
  induction texts with
  | nil => rfl
  | cons text texts ih =>
      obtain ⟨hFirst, hRest⟩ := List.forall_mem_cons.mp hPresent
      have hStep : addFields fields (text :: texts) =
          addFields (addField fields text.1 text.2) texts := rfl
      rw [hStep, addField_of_present hFirst, ih hRest]

/-! ### Tables -/

/-- The last of the pairs with this name has this text. -/
def IsLast (pairs : List (String × String)) (name text : String) : Prop :=
  ∃ before after, pairs = before ++ (name, text) :: after ∧ ∀ later ∈ after, later.1 ≠ name

/-- Each name of some pairs once, with the last of its texts, in any order. -/
structure IsTableOf (pairs visits : List (String × String)) : Prop where
  names_nodup : (visits.map (·.1)).Nodup
  mem_iff : ∀ name text, (name, text) ∈ visits ↔ IsLast pairs name text

theorem isLast_iff (pairs : List (String × String)) (name text : String) :
    IsLast pairs name text ↔ pairs.reverse.find? (·.1 == name) = some (name, text) := by
  rw [List.find?_eq_some_iff_append]
  constructor
  · rintro ⟨before, after, rfl, hAfter⟩
    refine ⟨beq_self_eq_true name, after.reverse, before.reverse, by simp, fun later hLater => ?_⟩
    simpa using hAfter later (List.mem_reverse.mp hLater)
  · rintro ⟨-, after, before, hPairs, hAfter⟩
    refine ⟨before.reverse, after.reverse, ?_, fun later hLater => ?_⟩
    · rw [← List.reverse_reverse pairs, hPairs]
      simp
    · simpa using hAfter later (List.mem_reverse.mp hLater)

theorem isLast_iff_find?_ordered (pairs : List (String × String)) (name text : String) :
    IsLast pairs name text ↔ (ordered pairs).find? (·.1 == name) = some (name, text) := by
  rw [isLast_iff, find?_ordered]

/-- Pairs in order of their names are a table. -/
theorem isTableOf_ordered (pairs : List (String × String)) : IsTableOf pairs (ordered pairs) := by
  have hNodup := (isAscending_ordered pairs).nodup
  refine ⟨hNodup, fun name text => ?_⟩
  rw [isLast_iff_find?_ordered, ← find?_key_eq_some_iff hNodup (name, text)]

theorem IsTableOf.perm {pairs visits others : List (String × String)}
    (hVisits : IsTableOf pairs visits) (hOthers : IsTableOf pairs others) :
    visits.Perm others := by
  rw [List.perm_ext_iff_of_nodup (.of_map _ hVisits.names_nodup) (.of_map _ hOthers.names_nodup)]
  intro text
  exact (hVisits.mem_iff text.1 text.2).trans (hOthers.mem_iff text.1 text.2).symm

/-- Texts of different names may be added in any order. -/
theorem addField_comm {name other : String} (hNe : name ≠ other) (text otherText : String)
    (fields : List (String × Value)) :
    addField (addField fields name text) other otherText =
      addField (addField fields other otherText) name text := by
  have hOther := field?_addField fields name text other
  have hName := field?_addField fields other otherText name
  rw [if_neg hNe, Option.or_none] at hOther
  rw [if_neg hNe.symm, Option.or_none] at hName
  by_cases hNameAbsent : (Value.object fields).field? name = none
  · by_cases hOtherAbsent : (Value.object fields).field? other = none
    · rw [addField_of_absent (hOther.trans hOtherAbsent),
        addField_of_absent (hName.trans hNameAbsent), addField_of_absent hNameAbsent,
        addField_of_absent hOtherAbsent, insertKey_comm hNe]
    · rw [addField_of_present (hOther.trans_ne hOtherAbsent), addField_of_present hOtherAbsent]
  · rw [addField_of_present (hName.trans_ne hNameAbsent), addField_of_present hNameAbsent]

/-- A table may be gone through in any order. -/
theorem addFields_eq_of_isTableOf {pairs visits others : List (String × String)}
    (hVisits : IsTableOf pairs visits) (hOthers : IsTableOf pairs others)
    (fields : List (String × Value)) : addFields fields visits = addFields fields others := by
  refine (hVisits.perm hOthers).foldl_eq' (fun text hText other hOther found => ?_) fields
  by_cases hName : text.1 = other.1
  · rw [List.inj_on_of_nodup_map hVisits.names_nodup hText hOther hName]
  · exact addField_comm hName text.2 other.2 found

/-! ### Runs -/

theorem run_fillAll_object (fields : List (String × Value)) (texts : List (String × String)) :
    (fillAll texts).run (.object fields) = .ok () (.object (addFields fields texts)) := by
  induction texts generalizing fields with
  | nil => rfl
  | cons text texts ih => exact ih (addField fields text.1 text.2)

/-- A body that is no object has no fields. -/
theorem addText_of_ne_object {body : Value} (hOther : ∀ fields, body ≠ .object fields)
    (name text : String) : addText name text body = body := by
  cases body with
  | object fields => exact absurd rfl (hOther fields)
  | _ => rfl

theorem run_fillAll_of_ne_object {body : Value} (hOther : ∀ fields, body ≠ .object fields)
    (texts : List (String × String)) : (fillAll texts).run body = .ok () body := by
  induction texts with
  | nil => rfl
  | cons text texts ih =>
      have hStep : (fillAll (text :: texts)).run body =
          (fillAll texts).run (addText text.1 text.2 body) := rfl
      rw [hStep, addText_of_ne_object hOther, ih]

theorem readPairs_empty : readPairs "" = .ok [] := by
  decide +kernel

/-- An object is filled in with what is read, or it is left as it is. -/
theorem run_fillParameters_object (parameters : String) (fields : List (String × Value)) :
    (fillParameters parameters).run (.object fields) =
      match readPairs parameters with
      | .ok pairs => .ok () (.object (addFields fields (ordered pairs)))
      | .error fault => .error fault (.object fields) := by
  by_cases hEmpty : parameters.isEmpty = true
  · rw [fillParameters, if_pos hEmpty, String.isEmpty_iff.mp hEmpty, readPairs_empty]
    rfl
  · rw [fillParameters, if_neg hEmpty]
    cases hRead : readPairs parameters with
    | ok pairs =>
        exact run_fillAll_object fields (ordered pairs)
    | error fault => rfl

theorem run_fillParameters_of_ne_object {body : Value} (hOther : ∀ fields, body ≠ .object fields)
    (parameters : String) : (fillParameters parameters).run body = .ok () body := by
  unfold fillParameters
  split_ifs
  · rfl
  · cases body with
    | object fields => exact absurd rfl (hOther fields)
    | _ => rfl

/-! ### What is in the body afterwards -/

/-- What the parameters of a path make of a body that takes them. -/
structure FillsIn (parameters : String) (body filled : Value) : Prop where
  /-- What is no object has no fields to be added to. -/
  other : (∀ fields, body ≠ .object fields) → filled = body
  object : ∀ fields, body = .object fields →
    ∃ more, filled = .object more ∧ (IsAscending fields → IsAscending more)
  kept : ∀ name value, body.field? name = some value → filled.field? name = some value
  /-- Under a name that was not there is the last of the texts that are read for it, or nothing. -/
  new : ∀ fields, body = .object fields → ∃ pairs, readPairs parameters = .ok pairs ∧
    ∀ name, body.field? name = none → ∀ value,
      filled.field? name = some value ↔ ∃ text, value = .text text ∧ IsLast pairs name text
  any_order : ∀ pairs, readPairs parameters = .ok pairs → ∀ visits, IsTableOf pairs visits →
    (fillAll visits).run body = .ok () filled
  again : (fillParameters parameters).run filled = .ok () filled

theorem fillsIn_of_ne_object {body : Value} (hOther : ∀ fields, body ≠ .object fields)
    (parameters : String) : FillsIn parameters body body where
  other _ := rfl
  object fields hObject := absurd hObject (hOther fields)
  kept _ _ hField := hField
  new fields hObject := absurd hObject (hOther fields)
  any_order _ _ visits _ := run_fillAll_of_ne_object hOther visits
  again := run_fillParameters_of_ne_object hOther parameters

theorem field?_addFields_ordered_iff {fields : List (String × Value)} {name : String}
    (hAbsent : (Value.object fields).field? name = none) (pairs : List (String × String))
    (value : Value) :
    (Value.object (addFields fields (ordered pairs))).field? name = some value ↔
      ∃ text, value = .text text ∧ IsLast pairs name text := by
  rw [field?_addFields, hAbsent, Option.none_or, Option.map_eq_some_iff]
  constructor
  · rintro ⟨⟨found, text⟩, hFound, rfl⟩
    have hKey := List.find?_some hFound
    obtain rfl : found = name := beq_iff_eq.mp hKey
    exact ⟨text, rfl, (isLast_iff_find?_ordered pairs found text).mpr hFound⟩
  · rintro ⟨text, rfl, hLast⟩
    exact ⟨(name, text), (isLast_iff_find?_ordered pairs name text).mp hLast, rfl⟩

theorem fillsIn_object {parameters : String} {pairs : List (String × String)}
    (hRead : readPairs parameters = .ok pairs) (fields : List (String × Value)) :
    FillsIn parameters (.object fields) (.object (addFields fields (ordered pairs))) where
  other hOther := absurd rfl (hOther fields)
  object _ hSame := ⟨_, rfl, fun hAscending =>
    isAscending_addFields (Value.object.inj hSame ▸ hAscending) _⟩
  kept name value hField := by rw [field?_addFields, hField, Option.some_or]
  new _ _ := ⟨pairs, hRead, fun _ hAbsent => field?_addFields_ordered_iff hAbsent pairs⟩
  any_order others hOthers visits hVisits := by
    obtain rfl : pairs = others := Except.ok.inj (hRead.symm.trans hOthers)
    rw [run_fillAll_object, addFields_eq_of_isTableOf hVisits (isTableOf_ordered pairs)]
  again := by
    rw [run_fillParameters_object, hRead]
    refine congrArg (EStateM.Result.ok () ∘ Value.object) (addFields_of_present fun text hText => ?_)
    -- Each text of the table is found now, as it or what was there before it.
    have hFound := (find?_key_eq_some_iff (isAscending_ordered pairs).nodup text).mpr hText
    rw [field?_addFields, hFound]
    cases (Value.object fields).field? text.1 <;> simp

/-- **Parameters are added to a body all together or not at all.**  When they cannot be read the body
is left as it was; otherwise it has its own fields as before, and one new field for each name that is
read and was not there. -/
theorem parameters_fill_in (parameters : String) (body : Value) :
    match (fillParameters parameters).run body with
    | .error fault after => after = body ∧ (∃ fields, body = .object fields) ∧
        readPairs parameters = .error fault
    | .ok () filled => FillsIn parameters body filled := by
  by_cases hObject : ∃ fields, body = .object fields
  · obtain ⟨fields, rfl⟩ := hObject
    rw [run_fillParameters_object]
    cases hRead : readPairs parameters with
    | ok pairs => exact fillsIn_object hRead fields
    | error fault => exact ⟨rfl, ⟨fields, rfl⟩, rfl⟩
  · have hOther : ∀ fields, body ≠ .object fields := fun fields hBody => hObject ⟨fields, hBody⟩
    rw [run_fillParameters_of_ne_object hOther]
    exact fillsIn_of_ne_object hOther parameters

end Service
end Switchboard
