import Mathlib.Data.List.Induction
import Mathlib.Data.List.Nodup
import Mathlib.Data.List.Perm.Basic
import Mathlib.Data.String.Basic
import Switchboard.Json.Value

/-!
# Entries in order of their keys

The fields of an object are a list of entries in ascending order of their keys.  An entry is put into
it in front of the first greater key, so what is found under any other key is as before
(`find?_insertKey`), and entries of different keys may be put in one after the other in any order
(`insertKey_comm`).  Putting all entries of a list in order keeps the last entry of each key.
-/

namespace Switchboard
namespace Json

variable {α : Type}

theorem insertKey_perm (key : String) (value : α) {entries : List (String × α)}
    (hKey : key ∉ entries.map (·.1)) :
    (insertKey key value entries).Perm ((key, value) :: entries) := by
  induction entries with
  | nil => exact .refl _
  | cons entry rest ih =>
      simp only [List.map_cons, List.mem_cons, not_or] at hKey
      rw [insertKey, if_neg hKey.1]
      split
      · exact .refl _
      · exact ((ih hKey.2).cons entry).trans (.swap _ _ rest)

/-- Entries with different keys are put in order without any being lost. -/
theorem ordered_perm {entries : List (String × α)}
    (hKeys : (entries.map (·.1)).Nodup) : (ordered entries).Perm entries := by
  have hFold : ∀ sorted : List (String × α), ((sorted ++ entries).map (·.1)).Nodup →
      (entries.foldl (fun sorted entry => insertKey entry.1 entry.2 sorted) sorted).Perm
        (sorted ++ entries) := by
    -- The entries in order grow with each step, so the induction is over all that may be there.
    intro sorted
    induction entries generalizing sorted with
    | nil => intro _; simp
    | cons entry rest ih =>
        intro hNodup
        have hMiddle : (sorted ++ entry :: rest).Perm (entry :: (sorted ++ rest)) :=
          List.perm_middle
        have hCons := (hMiddle.map (·.1)).nodup_iff.mp hNodup
        have hNew : entry.1 ∉ sorted.map (·.1) := by
          have hNot := (List.nodup_cons.mp hCons).1
          simp only [List.map_append, List.mem_append, not_or] at hNot
          exact hNot.1
        have hInsert := (insertKey_perm entry.1 entry.2 hNew).append_right rest
        have hNext := ih hKeys.of_cons _ ((hInsert.map (·.1)).nodup_iff.mpr hCons)
        exact (hNext.trans hInsert).trans hMiddle.symm
  exact hFold [] hKeys

/-! ### What is found under a key -/

theorem find?_key_cons (entry : String × α) (rest : List (String × α)) (key : String) :
    (entry :: rest).find? (·.1 == key) =
      if entry.1 = key then some entry else rest.find? (·.1 == key) := by
  rw [List.find?_cons]
  split_ifs with hKey
  · simp only [hKey, beq_self_eq_true]
  · simp only [beq_false_of_ne hKey]

theorem find?_insertKey (key other : String) (value : α) (entries : List (String × α)) :
    (insertKey key value entries).find? (·.1 == other) =
      if key = other then some (key, value) else entries.find? (·.1 == other) := by
  induction entries with
  | nil => exact find?_key_cons _ _ _
  | cons entry rest ih =>
      obtain ⟨own, old⟩ := entry
      rw [insertKey, find?_key_cons]
      by_cases hSame : key = own
      · subst hSame
        rw [if_pos rfl, find?_key_cons]
        split_ifs <;> rfl
      · rw [if_neg hSame]
        by_cases hLess : key < own
        · rw [if_pos hLess, find?_key_cons, find?_key_cons]
        · rw [if_neg hLess, find?_key_cons, ih]
          -- The entry in front is that of another key than the one that is put in.
          by_cases hOwn : own = other
          · simp only [if_pos hOwn, if_neg (hOwn ▸ hSame)]
          · simp only [if_neg hOwn]

theorem ordered_append_singleton (entries : List (String × α)) (entry : String × α) :
    ordered (entries ++ [entry]) = insertKey entry.1 entry.2 (ordered entries) := by
  simp [ordered]

/-- Of several entries with one key the last is kept. -/
theorem find?_ordered (key : String) (entries : List (String × α)) :
    (ordered entries).find? (·.1 == key) = entries.reverse.find? (·.1 == key) := by
  induction entries using List.reverseRecOn with
  | nil => rfl
  | append_singleton entries entry ih =>
      rw [ordered_append_singleton, find?_insertKey, ih, List.reverse_append,
        List.reverse_singleton, List.singleton_append, find?_key_cons]

/-! ### Ascending keys -/

/-- The keys of the entries ascend, so no two entries have one key. -/
def IsAscending (entries : List (String × α)) : Prop :=
  entries.Pairwise fun entry later => entry.1 < later.1

theorem IsAscending.nodup {entries : List (String × α)} (hAscending : IsAscending entries) :
    (entries.map (·.1)).Nodup :=
  List.pairwise_map.mpr (List.Pairwise.imp (fun hLess => ne_of_lt hLess) hAscending)

theorem mem_insertKey {key : String} {value : α} {entries : List (String × α)}
    {entry : String × α} (hEntry : entry ∈ insertKey key value entries) :
    entry = (key, value) ∨ entry ∈ entries := by
  induction entries with
  | nil => exact Or.inl (List.mem_singleton.mp hEntry)
  | cons first rest ih =>
      rw [insertKey] at hEntry
      split_ifs at hEntry with hSame hLess
      · exact (List.mem_cons.mp hEntry).imp_right (List.mem_cons_of_mem _)
      · exact List.mem_cons.mp hEntry
      · rcases List.mem_cons.mp hEntry with rfl | hRest
        · exact Or.inr List.mem_cons_self
        · exact (ih hRest).imp_right (List.mem_cons_of_mem _)

theorem IsAscending.insertKey {entries : List (String × α)} (hAscending : IsAscending entries)
    (key : String) (value : α) : IsAscending (insertKey key value entries) := by
  induction entries with
  | nil => exact List.pairwise_singleton _ _
  | cons first rest ih =>
      obtain ⟨hFirst, hRest⟩ := List.pairwise_cons.mp hAscending
      rw [Json.insertKey]
      split_ifs with hSame hLess
      · subst hSame
        exact List.pairwise_cons.mpr ⟨hFirst, hRest⟩
      · refine List.pairwise_cons.mpr ⟨fun entry hEntry => ?_, hAscending⟩
        rcases List.mem_cons.mp hEntry with rfl | hLater
        · exact hLess
        · exact lt_trans hLess (hFirst entry hLater)
      · refine List.pairwise_cons.mpr ⟨fun entry hEntry => ?_, ih hRest⟩
        rcases mem_insertKey hEntry with rfl | hLater
        · exact lt_of_le_of_ne (not_lt.mp hLess) (Ne.symm hSame)
        · exact hFirst entry hLater

theorem isAscending_ordered (entries : List (String × α)) : IsAscending (ordered entries) := by
  induction entries using List.reverseRecOn with
  | nil => exact List.Pairwise.nil
  | append_singleton entries entry ih =>
      rw [ordered_append_singleton]
      exact ih.insertKey entry.1 entry.2

/-- Entries whose keys ascend are in order already. -/
theorem IsAscending.ordered_eq {entries : List (String × α)} (hAscending : IsAscending entries) :
    ordered entries = entries :=
  (ordered_perm hAscending.nodup).eq_of_pairwise
    (fun _ _ _ _ hLess hGreater => absurd hGreater (not_lt_of_gt hLess))
    (isAscending_ordered entries) hAscending

/-- Where no two entries have one key, an entry is what is found under its key. -/
theorem find?_key_eq_some_iff {entries : List (String × α)} (hKeys : (entries.map (·.1)).Nodup)
    (entry : String × α) : entries.find? (·.1 == entry.1) = some entry ↔ entry ∈ entries := by
  induction entries with
  | nil => simp
  | cons first rest ih =>
      obtain ⟨hFirst, hRest⟩ := List.nodup_cons.mp hKeys
      rw [find?_key_cons, List.mem_cons]
      split_ifs with hKey
      · have hNot : entry ∉ rest := fun hMem =>
          hFirst (List.mem_map.mpr ⟨entry, hMem, hKey.symm⟩)
        simp [hNot, eq_comm]
      · have hNe : entry ≠ first := fun hEq => hKey (hEq ▸ rfl)
        rw [ih hRest, or_iff_right hNe]

/-! ### Putting entries in -/

theorem insertKey_of_lt_head {key : String} (value : α) {entries : List (String × α)}
    (hLess : ∀ entry ∈ entries.head?, key < entry.1) :
    insertKey key value entries = (key, value) :: entries := by
  cases entries with
  | nil => rfl
  | cons first rest =>
      have hFirst : key < first.1 := hLess first rfl
      rw [insertKey, if_neg (ne_of_lt hFirst), if_pos hFirst]

theorem insertKey_comm_of_lt {key other : String} (hLess : key < other) (a b : α)
    (entries : List (String × α)) :
    insertKey key a (insertKey other b entries) =
      insertKey other b (insertKey key a entries) := by
  have hNe : other ≠ key := ne_of_gt hLess
  have hNot : ¬ other < key := not_lt_of_gt hLess
  induction entries with
  | nil => simp only [insertKey, if_neg hNe, if_neg hNot, if_neg hNe.symm, if_pos hLess]
  | cons first rest ih =>
      obtain ⟨own, old⟩ := first
      rcases lt_trichotomy key own with hOwn | rfl | hOwn
      · -- Whatever is first after the greater key is put in is still greater than the smaller one.
        have hHead : ∀ entry ∈ (insertKey other b ((own, old) :: rest)).head?, key < entry.1 := by
          rw [insertKey]
          split_ifs
          · exact fun entry hEntry => Option.some.inj hEntry ▸ hLess
          · exact fun entry hEntry => Option.some.inj hEntry ▸ hLess
          · exact fun entry hEntry => Option.some.inj hEntry ▸ hOwn
        have hFirst : ∀ entry ∈ ((own, old) :: rest).head?, key < entry.1 :=
          fun entry hEntry => Option.some.inj hEntry ▸ hOwn
        rw [insertKey_of_lt_head a hHead, insertKey_of_lt_head a hFirst]
        conv_rhs => rw [insertKey, if_neg hNe, if_neg hNot]
      · simp only [insertKey, if_neg hNe, if_neg hNot, if_true]
      · have hOther : own < other := lt_trans hOwn hLess
        simp only [insertKey, if_neg (ne_of_gt hOwn), if_neg (not_lt_of_gt hOwn),
          if_neg (ne_of_gt hOther), if_neg (not_lt_of_gt hOther), ih]

/-- Entries of different keys may be put in in any order. -/
theorem insertKey_comm {key other : String} (hNe : key ≠ other) (a b : α)
    (entries : List (String × α)) :
    insertKey key a (insertKey other b entries) =
      insertKey other b (insertKey key a entries) := by
  rcases lt_or_gt_of_ne hNe with hLess | hLess
  · exact insertKey_comm_of_lt hLess a b entries
  · exact (insertKey_comm_of_lt hLess b a entries).symm

end Json
end Switchboard
