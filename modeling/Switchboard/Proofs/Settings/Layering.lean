import Switchboard.Proofs.Json.Entries
import Switchboard.Settings.Source

/-!
# Settings in layers

Sources hold tables of settings, and each source is laid over the ones before it.  A value that a
source gives for a name in a table is found there afterwards, and every other name keeps what was found
before, in that table and in all others (`nested?_layer`, `nested?_place_key`).  So a source that sets
one name of a table hides nothing else in it.

What is in the layers stays in order of its keys (`IsOrdered`), so that a table can be read without a
key coming twice.
-/

namespace Switchboard
namespace Setting

open Json (IsAscending)

/-! ### What is found -/

/-- The value of a name in the table of a key. -/
def nested? (key name : String) (entries : Entries) : Option Setting :=
  (find? key entries).bind fun table => find? name table.entries

theorem find?_cons (key : String) (value : Setting) (entries : Entries) (other : String) :
    find? other ((key, value) :: entries) =
      if key = other then some value else find? other entries := by
  rw [find?, Json.find?_key_cons]
  split_ifs <;> rfl

theorem find?_insertKey (key : String) (value : Setting) (entries : Entries) (other : String) :
    find? other (Json.insertKey key value entries) =
      if key = other then some value else find? other entries := by
  rw [find?, Json.find?_insertKey]
  split_ifs <;> rfl

theorem mem_of_find?_eq_some {key : String} {value : Setting} {entries : Entries}
    (hFind : find? key entries = some value) : (key, value) ∈ entries := by
  obtain ⟨⟨found, value⟩, hFound, rfl⟩ := Option.map_eq_some_iff.mp hFind
  obtain rfl : found = key := by simpa using List.find?_some hFound
  exact List.mem_of_find?_eq_some hFound

theorem find?_eq_none_of_notMem {key : String} {entries : Entries}
    (hKey : key ∉ entries.map (·.1)) : find? key entries = none := by
  refine Option.eq_none_iff_forall_ne_some.mpr fun value hFind => hKey ?_
  exact List.mem_map.mpr ⟨_, mem_of_find?_eq_some hFind, rfl⟩

theorem find?_eq_some_of_mem {entries : Entries} (hKeys : (entries.map (·.1)).Nodup)
    {entry : String × Setting} (hEntry : entry ∈ entries) :
    find? entry.1 entries = some entry.2 := by
  rw [find?, (Json.find?_key_eq_some_iff hKeys entry).mpr hEntry, Option.map_some]

theorem nested?_cons (key : String) (value : Setting) (entries : Entries) (other name : String) :
    nested? other name ((key, value) :: entries) =
      if key = other then find? name value.entries else nested? other name entries := by
  rw [nested?, find?_cons]
  split_ifs <;> rfl

theorem nested?_insertKey (key : String) (value : Setting) (entries : Entries)
    (other name : String) :
    nested? other name (Json.insertKey key value entries) =
      if key = other then find? name value.entries else nested? other name entries := by
  rw [nested?, find?_insertKey]
  split_ifs <;> rfl

/-! ### Tables that are merged -/

/-- A setting that is no table. -/
def IsLeaf : Setting → Prop
  | .table _ _ => False
  | _ => True

theorem merged_of_isLeaf (existing : Option Setting) {value : Setting} (hLeaf : value.IsLeaf) :
    merged existing value = value := by
  cases value with
  | table => exact hLeaf.elim
  | _ => rw [merged]

/-- The value of a variable is no table. -/
theorem isLeaf_ofVariable (value : String) : (ofVariable value).IsLeaf := by
  unfold ofVariable
  split
  · trivial
  · trivial
  · split
    · trivial
    · split <;> trivial

/-- Values laid over others are found, and else what was there. -/
theorem find?_mergedEntries {values : Entries} (hKeys : (values.map (·.1)).Nodup)
    (hLeaf : ∀ value ∈ values, value.2.IsLeaf) (present : Entries) (name : String) :
    find? name (mergedEntries present values) = (find? name values).or (find? name present) := by
  induction values generalizing present with
  | nil => rw [mergedEntries]; rfl
  | cons value values ih =>
      obtain ⟨key, value⟩ := value
      obtain ⟨hNew, hRest⟩ := List.nodup_cons.mp hKeys
      obtain ⟨hFirst, hLater⟩ := List.forall_mem_cons.mp hLeaf
      rw [mergedEntries, merged_of_isLeaf _ hFirst, ih hRest hLater, find?_insertKey, find?_cons]
      split_ifs with hKey
      · subst hKey
        rw [find?_eq_none_of_notMem hNew, Option.none_or, Option.some_or]
      · rfl

theorem isAscending_mergedEntries {present : Entries} (hPresent : IsAscending present)
    (values : Entries) : IsAscending (mergedEntries present values) := by
  induction values generalizing present with
  | nil => rwa [mergedEntries]
  | cons value values ih =>
      rw [mergedEntries]
      exact ih (hPresent.insertKey _ _)

/-- A table over another setting has the values of both. -/
theorem find?_merged_table (existing : Option Setting) (origin : Option String) {values : Entries}
    (hKeys : (values.map (·.1)).Nodup) (hLeaf : ∀ value ∈ values, value.2.IsLeaf) (name : String) :
    find? name (merged existing (.table origin values)).entries =
      (find? name values).or (existing.bind fun setting => find? name setting.entries) := by
  have hPresent : find? name ((existing.map entries).getD []) =
      existing.bind fun setting => find? name setting.entries := by
    cases existing <;> rfl
  cases values with
  | nil =>
      rw [merged, ← hPresent]
      cases existing <;> rfl
  | cons value values =>
      rw [merged, entries, find?_mergedEntries hKeys hLeaf, hPresent]

/-! ### Layers -/

/-- Entries that are tables without tables in them; each key is there once and leads nowhere else. -/
structure AreTables (source : Entries) : Prop where
  keys_nodup : (source.map (·.1)).Nodup
  plain : ∀ entry ∈ source, Address.ofKey entry.1 = ⟨entry.1, []⟩
  tables : ∀ entry ∈ source, ∃ origin values, entry.2 = .table origin values ∧
    (values.map (·.1)).Nodup ∧ ∀ value ∈ values, value.2.IsLeaf

theorem place_plain (key : String) (value : Setting) (entries : Entries) :
    place ⟨key, []⟩ value entries =
      Json.insertKey key (merged (find? key entries) value) entries := by
  rw [place, mergedEntries, mergedEntries]

theorem nested?_place_table (key : String) (origin : Option String) {values : Entries}
    (hKeys : (values.map (·.1)).Nodup) (hLeaf : ∀ value ∈ values, value.2.IsLeaf)
    (entries : Entries) (other name : String) :
    nested? other name (place ⟨key, []⟩ (.table origin values) entries) =
      if key = other then (find? name values).or (nested? other name entries)
      else nested? other name entries := by
  rw [place_plain, nested?_insertKey, find?_merged_table _ _ hKeys hLeaf]
  split_ifs with hKey
  · rw [← hKey, nested?]
  · rfl

theorem layer_cons (below : Entries) (entry : String × Setting) (source : Entries) :
    layer below (entry :: source) = layer (place (Address.ofKey entry.1) entry.2 below) source :=
  rfl

/-- **A source hides only what it sets itself.** -/
theorem nested?_layer {source : Entries} (hSource : AreTables source) (below : Entries)
    (key name : String) :
    nested? key name (layer below source) =
      (nested? key name source).or (nested? key name below) := by
  obtain ⟨hKeys, hPlain, hTables⟩ := hSource
  induction source generalizing below with
  | nil => rfl
  | cons entry source ih =>
      obtain ⟨own, value⟩ := entry
      obtain ⟨hNew, hRest⟩ := List.nodup_cons.mp hKeys
      obtain ⟨hOwn, hPlainRest⟩ := List.forall_mem_cons.mp hPlain
      obtain ⟨⟨origin, values, hTable, hNames, hLeaf⟩, hTablesRest⟩ :=
        List.forall_mem_cons.mp hTables
      obtain rfl : value = .table origin values := hTable
      rw [layer_cons, hOwn, ih _ hRest hPlainRest hTablesRest,
        nested?_place_table own origin hNames hLeaf, nested?_cons]
      split_ifs with hKey
      · -- The key comes once, so nothing that follows has a table under it.
        subst hKey
        have hNone : nested? own name source = none := by
          rw [nested?, find?_eq_none_of_notMem hNew, Option.bind_none]
        rw [hNone, Option.none_or, entries]
      · rfl

/-- A table whose entries are changed has the changed entries. -/
theorem entries_inTable (change : Entries → Entries) (setting : Setting) :
    (inTable change setting).entries = change setting.entries := by
  cases setting <;> rfl

theorem place_key (key name : String) {value : Setting} (hLeaf : value.IsLeaf)
    (entries : Entries) :
    place ⟨key, [.key name]⟩ value entries =
      Json.insertKey key (inTable (Json.insertKey name value)
        ((find? key entries).getD (.nothing none))) entries := by
  simp only [place, placeAt, merged_of_isLeaf _ hLeaf]

/-- A value that is placed under a name hides nothing else. -/
theorem nested?_place_key (key name : String) {value : Setting} (hLeaf : value.IsLeaf)
    (entries : Entries) (other another : String) :
    nested? other another (place ⟨key, [.key name]⟩ value entries) =
      if key = other ∧ name = another then some value else nested? other another entries := by
  rw [place_key key name hLeaf, nested?_insertKey, entries_inTable, find?_insertKey, nested?]
  by_cases hKey : key = other
  · subst hKey
    have hThere : find? another ((find? key entries).getD (.nothing none)).entries =
        (find? key entries).bind fun table => find? another table.entries := by
      cases find? key entries <;> rfl
    simp only [if_true, true_and, hThere]
  · simp only [hKey, false_and, if_false]

/-! ### Order -/

/-- Tables in ascending order of their keys, each with its entries in that order. -/
structure IsOrdered (entries : Entries) : Prop where
  ascending : IsAscending entries
  tables : ∀ entry ∈ entries, ∃ origin values, entry.2 = .table origin values ∧ IsAscending values

theorem isOrdered_nil : IsOrdered [] := ⟨List.Pairwise.nil, fun _ hEntry => nomatch hEntry⟩

theorem IsOrdered.insertKey {entries : Entries} (hOrdered : IsOrdered entries) (key : String)
    {origin : Option String} {values : Entries} (hValues : IsAscending values) :
    IsOrdered (Json.insertKey key (.table origin values) entries) where
  ascending := hOrdered.ascending.insertKey key _
  tables entry hEntry := by
    rcases Json.mem_insertKey hEntry with rfl | hBefore
    · exact ⟨origin, values, rfl, hValues⟩
    · exact hOrdered.tables entry hBefore

/-- What is found is a table with its entries in order. -/
theorem IsOrdered.isAscending_of_find? {entries : Entries} (hOrdered : IsOrdered entries)
    {key : String} {value : Setting} (hFind : find? key entries = some value) :
    ∃ origin values, value = .table origin values ∧ IsAscending values :=
  hOrdered.tables _ (mem_of_find?_eq_some hFind)

theorem IsOrdered.place_table {entries : Entries} (hOrdered : IsOrdered entries) (key : String)
    (origin : Option String) (values : Entries) :
    IsOrdered (place ⟨key, []⟩ (.table origin values) entries) := by
  rw [place_plain]
  cases hFind : find? key entries with
  | none =>
      cases values with
      | nil => exact hOrdered.insertKey key List.Pairwise.nil
      | cons value values =>
          rw [merged]
          exact hOrdered.insertKey key (isAscending_mergedEntries List.Pairwise.nil _)
  | some existing =>
      obtain ⟨before, present, rfl, hPresent⟩ := hOrdered.isAscending_of_find? hFind
      cases values with
      | nil => exact hOrdered.insertKey key hPresent
      | cons value values =>
          rw [merged]
          exact hOrdered.insertKey key (isAscending_mergedEntries hPresent _)

theorem IsOrdered.layer {source : Entries} (hSource : AreTables source) {below : Entries}
    (hBelow : IsOrdered below) : IsOrdered (layer below source) := by
  obtain ⟨-, hPlain, hTables⟩ := hSource
  induction source generalizing below with
  | nil => exact hBelow
  | cons entry source ih =>
      obtain ⟨hOwn, hPlainRest⟩ := List.forall_mem_cons.mp hPlain
      obtain ⟨⟨origin, values, hTable, -⟩, hTablesRest⟩ := List.forall_mem_cons.mp hTables
      rw [layer_cons, hOwn, hTable]
      exact ih (hBelow.place_table _ _ _) hPlainRest hTablesRest

theorem IsOrdered.place_key {entries : Entries} (hOrdered : IsOrdered entries) (key name : String)
    {value : Setting} (hLeaf : value.IsLeaf) :
    IsOrdered (place ⟨key, [.key name]⟩ value entries) := by
  rw [Setting.place_key key name hLeaf]
  cases hFind : find? key entries with
  | none => exact hOrdered.insertKey key (List.pairwise_singleton _ _)
  | some existing =>
      obtain ⟨origin, present, rfl, hPresent⟩ := hOrdered.isAscending_of_find? hFind
      exact hOrdered.insertKey key (hPresent.insertKey name value)

end Setting
end Switchboard
