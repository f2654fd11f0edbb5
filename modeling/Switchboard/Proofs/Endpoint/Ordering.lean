import Mathlib.Data.List.Flatten
import Mathlib.Data.List.Perm.Basic
import Switchboard.Proofs.Endpoint.Spelling
import Switchboard.Proofs.Json.Entries
import Switchboard.Proofs.Json.Reading

/-!
# Spellings in order

Reading a text puts the entries of every object in order.  A record that is spelled by an object is
still spelled by it then, as the entries of a spelling have different keys and may come in any order.
So a declaration is read from the value that its text holds, in which the entries stand in another
order than the one in which they were written.
-/

namespace Switchboard

namespace Endpoint

open Document (FieldSpelling IsSpelledBy AreApart)
open Json (Value)

variable {α : Type}

/-- Values that stand for something still do with the fields of their objects in order. -/
def IsStable (IsValue : Value → Prop) : Prop :=
  ∀ value, IsValue value → IsValue value.sorted

theorem isStable_text (s : String) : IsStable (IsText s) := by
  rintro _ rfl
  rfl

theorem isStable_flag (flag : Bool) : IsStable (IsFlag flag) := by
  rintro _ rfl
  rfl

theorem isStable_named (names : List (String × α)) (a : α) : IsStable (IsNamed names a) := by
  rintro _ ⟨name, hMem, rfl | rfl⟩
  · exact ⟨name, hMem, .inl rfl⟩
  · exact ⟨name, hMem, .inr rfl⟩

theorem isStable_optional {IsValue : α → Value → Prop} (hValue : ∀ a, IsStable (IsValue a))
    (o : Option α) : IsStable (IsOptional IsValue o) := by
  intro value hOptional
  cases o with
  | none =>
      obtain rfl : value = .null := hOptional
      rfl
  | some a => exact hValue a value hOptional

/-- What holds of pairs still holds when the second parts change and it is kept. -/
theorem forall₂_map_of_forall_mem {β : Type} {R : α → β → Prop} {change : β → β} {as : List α}
    {bs : List β} (hEach : List.Forall₂ R as bs) (hKept : ∀ a ∈ as, ∀ b, R a b → R a (change b)) :
    List.Forall₂ R as (bs.map change) := by
  induction hEach with
  | nil => exact .nil
  | @cons a b as bs hPair hEach ih =>
      exact .cons (hKept a List.mem_cons_self b hPair)
        (ih fun a' ha' => hKept a' (List.mem_cons_of_mem _ ha'))

theorem isStable_list {IsValue : α → Value → Prop} (hValue : ∀ a, IsStable (IsValue a))
    (items : List α) : IsStable (IsList IsValue items) := by
  rintro _ ⟨values, rfl, hEach⟩
  refine ⟨values.map Value.sorted, ?_, forall₂_map_of_forall_mem hEach fun a _ => hValue a⟩
  rw [Value.sorted, Json.sortedItems_eq_map]

/-- The entries that give fields have different keys, as no key spells two fields. -/
theorem nodup_keys_of_forall₂ {given : List (FieldSpelling Value)} {entries : List (String × Value)}
    (hEach : List.Forall₂ FieldSpelling.IsEntry given entries) (hApart : AreApart given) :
    (entries.map (·.1)).Nodup ∧ entries.map (·.1) ⊆ given.flatMap FieldSpelling.keys := by
  induction hEach with
  | nil => exact ⟨List.nodup_nil, List.nil_subset _⟩
  | @cons s entry given entries hEntry hEach ih =>
      obtain ⟨-, hTail, hDisjoint⟩ := List.nodup_append.mp hApart
      obtain ⟨hNodup, hSubset⟩ := ih hTail
      refine ⟨List.nodup_cons.mpr ⟨fun hMem => ?_, hNodup⟩, ?_⟩
      · exact hDisjoint entry.1 hEntry.1 entry.1 (hSubset hMem) rfl
      · rw [List.map_cons, List.flatMap_cons]
        exact List.cons_subset.mpr ⟨List.mem_append_left _ hEntry.1,
          List.Subset.trans hSubset (List.subset_append_right _ _)⟩

theorem areApart_of_subperm {given spellings : List (FieldSpelling Value)}
    (hSubperm : given.Subperm spellings) (hApart : AreApart spellings) : AreApart given := by
  obtain ⟨inOrder, hPerm, hSublist⟩ := hSubperm
  have hInOrder : AreApart inOrder := List.Nodup.sublist (hSublist.flatMap _) hApart
  exact (hPerm.flatMap_right _).nodup_iff.mp hInOrder

theorem isStable_record {spellings : List (FieldSpelling Value)} (hApart : AreApart spellings)
    (hStable : ∀ s ∈ spellings, IsStable s.IsValue) : IsStable (IsRecord spellings) := by
  intro value hRecord
  cases hRecord with
  | array hSpelled =>
      cases hSpelled with
      | elements values hEach =>
          rw [Value.sorted, Json.sortedItems_eq_map]
          exact .array (.elements _ (forall₂_map_of_forall_mem hEach hStable))
  | @object entries hSpelled =>
      cases hSpelled with
      | entries given _ hSubperm hEach hRest =>
          have hSorted : List.Forall₂ FieldSpelling.IsEntry given (Json.sortedFields entries) := by
            rw [Json.sortedFields_eq_map]
            exact forall₂_map_of_forall_mem hEach fun s hs entry hEntry =>
              ⟨hEntry.1, hStable s (hSubperm.subset hs) entry.2 hEntry.2⟩
          have hKeys := nodup_keys_of_forall₂ hSorted (areApart_of_subperm hSubperm hApart)
          have hPerm := (Json.ordered_perm hKeys.1).symm
          -- The entries in order give the same fields, in the order of the entries.
          obtain ⟨given', hGiven, hEach'⟩ : Relation.Comp List.Perm
              (List.Forall₂ FieldSpelling.IsEntry) given
                (Json.ordered (Json.sortedFields entries)) := by
            rw [← List.forall₂_comp_perm_eq_perm_comp_forall₂]
            exact ⟨_, hSorted, hPerm⟩
          rw [Value.sorted]
          exact .object (.entries given' _ (hGiven.symm.subperm.trans hSubperm) hEach'
            fun s hs => (hRest s hs).imp_left fun hMem => hGiven.subset hMem)

theorem Param.isStable (p : Param) : IsStable (IsRecord p.spellings) := by
  refine isStable_record (by simp [AreApart, Param.spellings, FieldSpelling.keys]) ?_
  simp only [Param.spellings, List.forall_mem_cons]
  exact ⟨isStable_text _, isStable_text _, List.forall_mem_nil _⟩

theorem Signature.isStable (signature : Signature) : IsStable (IsRecord signature.spellings) := by
  refine isStable_record (by simp [AreApart, Signature.spellings, FieldSpelling.keys]) ?_
  simp only [Signature.spellings, List.forall_mem_cons]
  exact ⟨isStable_list Param.isStable _, isStable_optional isStable_text _, List.forall_mem_nil _⟩

theorem RequestType.isStable (request : RequestType) : IsStable (IsRecord request.spellings) := by
  refine isStable_record (by simp [AreApart, RequestType.spellings, FieldSpelling.keys]) ?_
  simp only [RequestType.spellings, List.forall_mem_cons]
  exact ⟨isStable_optional isStable_text _, isStable_flag _, List.forall_mem_nil _⟩

/-- A declaration is spelled by the value that a text of one of its spellings holds. -/
theorem Declaration.isStable (d : Declaration) : IsStable (IsRecord d.spellings) := by
  refine isStable_record (by simp [AreApart, Declaration.spellings, FieldSpelling.keys]) ?_
  simp only [Declaration.spellings, List.forall_mem_cons]
  exact ⟨isStable_text _, isStable_text _, isStable_named _ _, isStable_optional isStable_text _,
    isStable_optional isStable_text _, isStable_list (isStable_named _) _, isStable_flag _,
    isStable_optional isStable_text _, isStable_optional RequestType.isStable _,
    isStable_optional RequestType.isStable _, isStable_optional Signature.isStable _,
    List.forall_mem_nil _⟩

end Endpoint
end Switchboard
