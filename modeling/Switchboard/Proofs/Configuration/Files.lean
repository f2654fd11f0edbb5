import Switchboard.Proofs.Configuration.Keys
import Switchboard.Proofs.Json.Reading
import Switchboard.Proofs.Settings.Leniency

/-!
# Files of the configuration

Any selection of keys can be written into a file as an object, each text as a quoted one, and the file
sets what is selected (`ofOptionalFile_of_lookup_eq_some`, `Selection.isWrittenIn_entries`).
-/

namespace Switchboard
namespace Configuration

open Json (IsAscending)
open Setting

/-! ### Selections as JSON -/

/-- What a key is set to as a JSON value: a flag, or a quoted text. -/
def Key.toJson : (key : Key) → key.Value → Json.Value
  | .pretty, flag => .bool flag
  | .manifest, value | .routePrefix, value | .path, value => .text value

/-- The fields that set the selected ones of some keys. -/
def Selection.fields (selection : Selection) (keys : List Key) : List (String × Json.Value) :=
  keys.filterMap fun key => (selection key).map fun value => (key.name, key.toJson value)

/-- The object that sets the selected keys. -/
def Selection.toJson (selection : Selection) : Json.Value :=
  .object [("compiler", .object (selection.fields [.manifest, .routePrefix])),
    ("output", .object (selection.fields [.path, .pretty]))]

section Fields

variable (selection : Selection) (keys : List Key)

theorem Selection.mem_fields_iff {field : String × Json.Value} :
    field ∈ selection.fields keys ↔
      ∃ key ∈ keys, ∃ value, selection key = some value ∧ (key.name, key.toJson value) = field := by
  simp only [Selection.fields, List.mem_filterMap, Option.map_eq_some_iff]

theorem Key.name_inj {key other : Key} (hName : key.name = other.name) : key = other := by
  revert hName
  cases key <;> cases other <;> decide

theorem map_fst_ofJsonFields (origin : Option String) (fields : List (String × Json.Value)) :
    (ofJsonFields origin fields).map (·.1) = fields.map (·.1) := by
  simp only [ofJsonFields_eq_map, List.map_map, Function.comp_def]

theorem Key.sorted_toJson (key : Key) (value : key.Value) :
    (key.toJson value).sorted = key.toJson value := by
  cases key <;> rfl

theorem Key.IsValue.isLeaf {key : Key} {setting : Setting} {value : key.Value}
    (hValue : key.IsValue setting value) : setting.IsLeaf := by
  cases key <;> obtain ⟨origin, rfl⟩ := hValue <;> trivial

theorem Key.isValue_ofJson (origin : Option String) (key : Key) (value : key.Value) :
    key.IsValue (ofJson origin (key.toJson value)) value := by
  cases key <;> exact ⟨origin, by rw [toJson, ofJson]⟩

theorem Selection.sortedFields_fields :
    Json.sortedFields (selection.fields keys) = selection.fields keys := by
  rw [Json.sortedFields_eq_map]
  refine (List.map_congr_left fun field hField => ?_).trans (List.map_id _)
  obtain ⟨key, -, value, -, rfl⟩ := (selection.mem_fields_iff keys).mp hField
  exact congrArg (Prod.mk _) (key.sorted_toJson value)

theorem Selection.isAscending_fields
    (hKeys : keys.Pairwise fun key later => key.name < later.name) :
    IsAscending (selection.fields keys) := by
  refine List.Pairwise.filterMap _ (fun key later hLess field hField other hOther => ?_) hKeys
  obtain ⟨value, -, rfl⟩ := Option.map_eq_some_iff.mp hField
  obtain ⟨value, -, rfl⟩ := Option.map_eq_some_iff.mp hOther
  exact hLess

/-- As settings the fields have the values of the selected keys. -/
theorem Selection.find?_ofJsonFields (origin : Option String)
    (hKeys : keys.Pairwise fun key later => key.name < later.name) (key : Key) (hKey : key ∈ keys) :
    find? key.name (ofJsonFields origin (selection.fields keys)) =
      (selection key).map fun value => ofJson origin (key.toJson value) := by
  have hNodup := (selection.isAscending_fields keys hKeys).nodup
  rw [← map_fst_ofJsonFields origin] at hNodup
  cases hSelected : selection key with
  | none =>
      refine find?_eq_none_of_notMem fun hMem => ?_
      rw [map_fst_ofJsonFields, List.mem_map] at hMem
      obtain ⟨field, hField, hName⟩ := hMem
      obtain ⟨other, -, value, hValue, rfl⟩ := (selection.mem_fields_iff keys).mp hField
      obtain rfl : other = key := Key.name_inj hName
      exact absurd (hValue.symm.trans hSelected) nofun
  | some value =>
      have hMem : (key.name, key.toJson value) ∈ selection.fields keys :=
        (selection.mem_fields_iff keys).mpr ⟨key, hKey, value, hSelected, rfl⟩
      have hEntry : (key.name, ofJson origin (key.toJson value)) ∈
          ofJsonFields origin (selection.fields keys) := by
        rw [ofJsonFields_eq_map]
        exact List.mem_map_of_mem hMem
      exact find?_eq_some_of_mem hNodup hEntry

theorem Selection.isLeaf_of_mem (origin : Option String) :
    ∀ entry ∈ ofJsonFields origin (selection.fields keys), entry.2.IsLeaf := by
  rw [ofJsonFields_eq_map]
  intro entry hEntry
  obtain ⟨field, hField, rfl⟩ := List.mem_map.mp hEntry
  obtain ⟨key, -, value, -, rfl⟩ := (selection.mem_fields_iff keys).mp hField
  exact (key.isValue_ofJson origin value).isLeaf

end Fields

/-- The entries of a file with the object of a selection. -/
def Selection.entries (selection : Selection) (origin : Option String) : Entries :=
  [("compiler", .table origin (ofJsonFields origin (selection.fields [.manifest, .routePrefix]))),
    ("output", .table origin (ofJsonFields origin (selection.fields [.path, .pretty])))]

theorem Selection.sorted_toJson (selection : Selection) :
    selection.toJson.sorted = selection.toJson := by
  have hCompiler := selection.isAscending_fields [.manifest, .routePrefix] (by decide)
  have hOutput := selection.isAscending_fields [.path, .pretty] (by decide)
  have hTables (compiler output : Json.Value) :
      IsAscending [("compiler", compiler), ("output", output)] :=
    List.pairwise_pair.mpr (by decide : "compiler" < "output")
  simp only [toJson, Json.Value.sorted, Json.sortedFields, selection.sortedFields_fields,
    hCompiler.ordered_eq, hOutput.ordered_eq, (hTables _ _).ordered_eq]

theorem Selection.entries_ofJson (selection : Selection) (origin : Option String) :
    (ofJson origin selection.toJson).entries = selection.entries origin := by
  simp only [toJson, ofJson, ofJsonFields, Setting.entries, Selection.entries]

theorem Selection.nested?_entries (selection : Selection) (origin : Option String) (key : Key) :
    nested? key.table key.name (selection.entries origin) =
      (selection key).map fun value => ofJson origin (key.toJson value) := by
  have hCompiler := selection.find?_ofJsonFields [.manifest, .routePrefix] origin (by decide)
  have hOutput := selection.find?_ofJsonFields [.path, .pretty] origin (by decide)
  cases key with
  | manifest => exact hCompiler .manifest (by decide)
  | routePrefix => exact hCompiler .routePrefix (by decide)
  | pretty => exact hOutput .pretty (by decide)
  | path => exact hOutput .path (by decide)

theorem Selection.isWrittenIn_entries (selection : Selection) (origin : Option String) :
    selection.IsWrittenIn (selection.entries origin) where
  tables :=
    { keys_nodup := (by decide : ["compiler", "output"].Nodup)
      plain := by
        simp only [Selection.entries, List.forall_mem_cons]
        decide +kernel
      tables := by
        have hCompiler := selection.isAscending_fields [.manifest, .routePrefix] (by decide)
        have hOutput := selection.isAscending_fields [.path, .pretty] (by decide)
        simp only [Selection.entries, List.forall_mem_cons]
        exact ⟨⟨origin, _, rfl, map_fst_ofJsonFields origin _ ▸ hCompiler.nodup,
            selection.isLeaf_of_mem _ origin⟩,
          ⟨origin, _, rfl, map_fst_ofJsonFields origin _ ▸ hOutput.nodup,
            selection.isLeaf_of_mem _ origin⟩, nofun⟩ }
  values key := by
    rw [selection.nested?_entries]
    cases selection key with
    | none => exact .none
    | some value => exact .some (key.isValue_ofJson origin value)

/-! ### Files with a selection -/

section Files

variable {readers : Readers} {here : List String} {files : List (String × String)}

/-- A folder with these files in the folder of the configuration. -/
def folderOf (here : List String) (files : List (String × String)) : Folder where
  here := here
  files := files.map fun file => (here ++ ["config", file.1], file.2)

theorem text?_folderOf (name : String) :
    (folderOf here files).text? (here ++ ["config", name]) = files.lookup name := by
  rw [folderOf, Folder.text?]
  induction files with
  | nil => rfl
  | cons file files ih =>
      obtain ⟨own, content⟩ := file
      rw [List.map_cons, List.find?_cons, List.lookup_cons]
      by_cases hName : own = name
      · simp [hName]
      · rw [beq_false_of_ne (by simpa using hName :
            here ++ ["config", own] ≠ here ++ ["config", name]),
          beq_false_of_ne (Ne.symm hName)]
        exact ih

theorem look_folderOf (hFiles : files ≠ []) {path name : String}
    (hStart : (path.isEmpty || Folder.isRooted path) = false)
    (hParts : Folder.parts path = ["config", name]) (hName : name ∉ ["", ".", ".."]) :
    (folderOf here files).look path =
      match files.lookup name with
      | some content => .file (here ++ ["config", name]) content
      | none => .free (here ++ ["config", name]) := by
  have hConfig : (folderOf here files).hasFolder (here ++ ["config"]) = true := by
    obtain ⟨file, files, rfl⟩ := List.exists_cons_of_ne_nil hFiles
    simp [folderOf, Folder.hasFolder, List.prefix_append_right_inj]
  have hNone : (folderOf here files).hasFolder (here ++ ["config", name]) = false := by
    have hHere : (here ++ ["config", name]).isPrefixOf here = false :=
      Bool.eq_false_iff.mpr fun hPrefix => by
        simpa using (List.isPrefixOf_iff_prefix.mp hPrefix).length_le
    simp [folderOf, Folder.hasFolder, hHere]
  obtain ⟨hEmpty, hRooted⟩ := Bool.or_eq_false_iff.mp hStart
  simp only [List.mem_cons, not_or] at hName
  have hOut : (folderOf here files).start path = here.reverse := by
    rw [Folder.start, hRooted]
    rfl
  simp only [Folder.look, hEmpty, hOut, hParts]
  simp only [Folder.follow, List.reverse_cons, List.reverse_reverse, List.append_assoc,
    List.cons_append, List.nil_append, hConfig, hNone, text?_folderOf]
  simp only [Bool.false_eq_true, if_false, if_true, String.reduceBEq, Bool.or_self, Bool.or_eq_true,
    beq_iff_eq, hName, or_self]
  cases files.lookup name <;> rfl

end Files

/-! ### Loading from files -/

/-- The paths that the configuration is read from, with the files that they may stand for here. -/
def sourceFiles : List (String × String) :=
  [("config/default", "default.json"), ("config/local", "local.json")]

/-- What may stand behind the paths that the configuration is read from. -/
def endings : List String := ["", ".json", ".yaml", ".yml", ".toml", ".ini", ".ron", ".json5"]

theorem exists_stem : ∀ source ∈ sourceFiles, ∃ stem ∈ ["default", "local"],
    source = ("config/" ++ stem, stem ++ ".json") := by
  decide +kernel

theorem parts_file : ∀ stem ∈ ["default", "local"], ∀ ending ∈ endings,
    (("config/" ++ stem ++ ending).isEmpty ||
        Folder.isRooted ("config/" ++ stem ++ ending)) = false ∧
      Folder.parts ("config/" ++ stem ++ ending) = ["config", stem ++ ending] ∧
      stem ++ ending ∉ ["", ".", ".."] ∧
      (ending = ".json" ∨ stem ++ ending ∉ sourceFiles.map (·.2)) := by
  decide +kernel

/-- A path with names stands for itself. -/
theorem named_of_names {folder : Folder} {path : String} (hNames : Folder.names path ≠ []) :
    folder.named path = path := by
  simp [Folder.named, hNames]

theorem told_of_not_isRooted {folder : Folder} {path : String}
    (hRooted : Folder.isRooted path = false) : folder.told path = Folder.tidy path := by
  simp [Folder.told, hRooted]

theorem completions_of_lastName? {folder : Folder} {path stem name : String}
    (hNames : Folder.names path ≠ []) (hLast : Folder.lastName? path = some (stem, name)) :
    completions folder path = Format.all.flatMap fun format =>
      format.extensions.map fun extension => (stem ++ "." ++ extension, format) := by
  unfold completions
  rw [named_of_names hNames, hLast]

/-- The paths with the endings of each format. -/
def completed (path : String) : List (String × Format) :=
  [(path ++ ".json", .json), (path ++ ".yaml", .yaml), (path ++ ".yml", .yaml),
    (path ++ ".toml", .toml), (path ++ ".ini", .ini), (path ++ ".ron", .ron),
    (path ++ ".json5", .json5)]

theorem completions_file (folder : Folder) : ∀ stem ∈ ["default", "local"],
    completions folder ("config/" ++ stem) = completed ("config/" ++ stem) ∧
      folder.told ("config/" ++ stem ++ ".json") = "config/" ++ stem ++ ".json" := by
  intro stem hStem
  have hText : ∀ stem ∈ ["default", "local"], Folder.names ("config/" ++ stem) ≠ [] ∧
      Folder.lastName? ("config/" ++ stem) = some ("config/" ++ stem, stem) ∧
      (Format.all.flatMap fun format => format.extensions.map fun extension =>
        ("config/" ++ stem ++ "." ++ extension, format)) = completed ("config/" ++ stem) ∧
      Folder.isRooted ("config/" ++ stem ++ ".json") = false ∧
      Folder.tidy ("config/" ++ stem ++ ".json") = "config/" ++ stem ++ ".json" := by
    decide +kernel
  obtain ⟨hNames, hLast, hCompleted, hRooted, hTidy⟩ := hText stem hStem
  exact ⟨(completions_of_lastName? hNames hLast).trans hCompleted,
    (told_of_not_isRooted hRooted).trans hTidy⟩

section Loading

variable {readers : Readers} {here : List String} {files : List (String × String)}
  (hFiles : files ≠ []) (hNames : ∀ file ∈ files, file.1 ∈ sourceFiles.map (·.2))

include hFiles hNames

theorem locate_folderOf {stem : String} (hStem : stem ∈ ["default", "local"]) :
    locate (folderOf here files) ("config/" ++ stem) =
      match files.lookup (stem ++ ".json") with
      | some content => .ok ("config/" ++ stem ++ ".json", .json,
          here ++ ["config", stem ++ ".json"], content)
      | none => .error (.notFound ("config/" ++ stem)) := by
  have hLook (ending : String) (hEnding : ending ∈ endings) :
      (folderOf here files).look ("config/" ++ stem ++ ending) =
        match files.lookup (stem ++ ending) with
        | some content => .file (here ++ ["config", stem ++ ending]) content
        | none => .free (here ++ ["config", stem ++ ending]) := by
    obtain ⟨hStart, hParts, hName, -⟩ := parts_file stem hStem ending hEnding
    exact look_folderOf hFiles hStart hParts hName
  have hOther (ending : String) (hEnding : ending ∈ endings) (hJson : ending ≠ ".json") :
      (folderOf here files).look ("config/" ++ stem ++ ending) =
        .free (here ++ ["config", stem ++ ending]) := by
    obtain ⟨-, -, -, hNot⟩ := parts_file stem hStem ending hEnding
    have hNone : files.lookup (stem ++ ending) = none :=
      List.lookup_eq_none_iff.mpr fun file hFile =>
        bne_iff_ne.mpr fun hSame => hNot.resolve_left hJson (hSame ▸ hNames file hFile)
    rw [hLook ending hEnding, hNone]
  obtain ⟨hCompletions, hTold⟩ := completions_file (folderOf here files) stem hStem
  have hStemFree := hOther "" (by decide) (by decide)
  rw [String.append_empty, String.append_empty] at hStemFree
  simp only [locate, hCompletions, completed, List.findSome?_cons, List.findSome?_nil, hStemFree,
    hOther ".yaml" (by decide) (by decide), hOther ".yml" (by decide) (by decide),
    hOther ".toml" (by decide) (by decide), hOther ".ini" (by decide) (by decide),
    hOther ".ron" (by decide) (by decide), hOther ".json5" (by decide) (by decide),
    hLook ".json" (by decide), hTold]
  cases files.lookup (stem ++ ".json") <;> rfl

theorem ofOptionalFile_of_lookup_eq_none {path name : String}
    (hSource : (path, name) ∈ sourceFiles) (hAbsent : files.lookup name = none) :
    ofOptionalFile readers (folderOf here files) path = .ok [] := by
  obtain ⟨stem, hStem, hSame⟩ := exists_stem _ hSource
  obtain ⟨rfl, rfl⟩ := Prod.mk.inj hSame
  rw [ofOptionalFile, contentOf, locate_folderOf hFiles hNames hStem, hAbsent]
  rfl

end Loading

theorem Selection.isBuiltOf_toJson (selection : Selection) :
    selection.toJson.IsBuiltOf Json.Value.IsWord Json.maxDepth := by
  have hFields (keys : List Key) :
      (Json.Value.object (selection.fields keys)).IsBuiltOf Json.Value.IsWord (125 + 1) := by
    refine .object fun field hField => ?_
    obtain ⟨key, -, value, -, rfl⟩ := (selection.mem_fields_iff keys).mp hField
    cases key <;> exact .scalar trivial trivial
  have hTables : selection.toJson.IsBuiltOf Json.Value.IsWord (125 + 1 + 1) := by
    rw [toJson]
    refine .object ?_
    simp only [List.forall_mem_cons]
    exact ⟨hFields _, hFields _, nofun⟩
  exact hTables

theorem ofText_json {readers : Readers} (origin : Option String) {content : String}
    {value : Json.Value} (hParse : Json.parse? content = some value) :
    ofText readers .json origin content = .ok (ofJson origin value).entries := by
  have hRead : Format.json.read readers origin content = .ok (ofJson origin value).entries := by
    unfold Format.read
    simp only [hParse]
  rw [ofText, hRead]

theorem withoutMark_render (pretty : Bool) (fields : List (String × Json.Value)) :
    withoutMark ((Json.Value.object fields).render pretty) =
      (Json.Value.object fields).render pretty := by
  have hLayout := Json.isLayout_render pretty (.object fields)
  generalize (Json.Value.object fields).render pretty = content at hLayout ⊢
  generalize hText : content.toList = text at hLayout
  rw [withoutMark, hText]
  cases hLayout with
  | scalar hScalar => exact hScalar.elim
  | object => rfl

/-- A file with the object of a selection, in either spelling, sets what is selected. -/
theorem ofOptionalFile_of_lookup_eq_some {readers : Readers} {here : List String}
    {files : List (String × String)} (hFiles : files ≠ [])
    (hNames : ∀ file ∈ files, file.1 ∈ sourceFiles.map (·.2)) {path name : String}
    (hSource : (path, name) ∈ sourceFiles) {selection : Selection} {pretty : Bool}
    (hThere : files.lookup name = some (selection.toJson.render pretty)) :
    ofOptionalFile readers (folderOf here files) path =
      .ok (selection.entries (some (path ++ ".json"))) := by
  obtain ⟨stem, hStem, hSame⟩ := exists_stem _ hSource
  obtain ⟨rfl, rfl⟩ := Prod.mk.inj hSame
  have hParse : Json.parse? (selection.toJson.render pretty) = some selection.toJson := by
    rw [Json.parse?_render pretty selection.isBuiltOf_toJson, selection.sorted_toJson]
  have hMark : withoutMark (selection.toJson.render pretty) = selection.toJson.render pretty := by
    rw [Selection.toJson, withoutMark_render]
  have hText : ofText readers .json (some ("config/" ++ stem ++ ".json"))
      (selection.toJson.render pretty) =
        .ok (selection.entries (some ("config/" ++ stem ++ ".json"))) := by
    rw [ofText_json _ hParse, selection.entries_ofJson]
  have hContent : contentOf (folderOf here files) ("config/" ++ stem) =
      .ok ("config/" ++ stem ++ ".json", .json, selection.toJson.render pretty) := by
    rw [contentOf, locate_folderOf hFiles hNames hStem, hThere]
    exact congrArg (fun content => Except.ok (_, Format.json, content)) hMark
  rw [ofOptionalFile, hContent]
  exact hText

end Configuration
end Switchboard
