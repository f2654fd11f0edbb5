import Switchboard.Proofs.Configuration.Files
import Switchboard.Proofs.Settings.Folder

/-!
# Texts in variables and in files

A text that a file sets for a key comes out as it is.  The text of a variable is read as a flag or a
number where it spells one, so the key is set to what is written for that flag or number, which is the
text itself if the text has a character that neither is written with
(`a_variable_sets_its_text_respelled`).
-/

namespace Switchboard
namespace Configuration

open Setting

/-- The keys that are set to texts. -/
inductive TextKey where
  | manifest
  | routePrefix
  | path
deriving DecidableEq

/-- The text key among all keys. -/
def TextKey.key : TextKey → Key
  | .manifest => .manifest
  | .routePrefix => .routePrefix
  | .path => .path

/-- The value is set for the key, and nothing for another key. -/
def TextKey.selection : TextKey → String → Selection
  | .manifest, value, .manifest => some value
  | .routePrefix, value, .routePrefix => some value
  | .path, value, .path => some value
  | _, _, _ => none

theorem TextKey.configuration_inj (key : TextKey) {value other : String}
    (hSame : (key.selection value).configuration = (key.selection other).configuration) :
    value = other := by
  cases key with
  | manifest => exact congrArg (·.compiler.manifest) hSame
  | routePrefix => exact Option.some.inj (congrArg (·.compiler.routePrefix) hSame)
  | path => exact Option.some.inj (congrArg (·.output.path) hSame)

theorem TextKey.selection_of_ne (key : TextKey) (value : String) {other : Key}
    (hOther : other ≠ key.key) : key.selection value other = none := by
  revert hOther
  cases key <;> cases other <;> first | exact fun _ => rfl | exact fun hOther => absurd rfl hOther

theorem TextKey.isReadAs_selection (key : TextKey) {setting : Setting} {value : String}
    (hRead : readText setting = .ok value) :
    IsReadAs key.key.read (some setting) (key.selection value key.key) := by
  cases key <;> exact .some hRead

section Loading

variable {readers : Readers} {here : List String}

/-- Without files no path stands for one. -/
theorem locate_nothing (path : String) :
    locate (.ofFiles here []) path = .error (.notFound path) := by
  have hLook (path : String) (names : List String) (text : String) :
      (Folder.ofFiles here []).look path ≠ .file names text := fun hFile => by
    simpa [Folder.ofFiles, Folder.text?] using Folder.text?_of_look_eq_file hFile
  unfold locate
  split
  case h_1 hFile => exact absurd hFile (hLook _ _ _)
  case h_2 =>
    dsimp only
    split
    case h_1 file hFound =>
      obtain ⟨⟨completed, format⟩, -, hFound⟩ := List.exists_of_findSome?_eq_some hFound
      dsimp only at hFound
      split at hFound
      · exact absurd ‹_› (hLook _ _ _)
      · cases hFound
    case h_2 => rfl

theorem ofOptionalFile_nothing (path : String) :
    ofOptionalFile readers (.ofFiles here []) path = .ok [] := by
  rw [ofOptionalFile, contentOf, locate_nothing]
  rfl

/-- Where the text is the only variable and there are no files, the key has what is read from it. -/
theorem TextKey.load_variable (key : TextKey) {text written : String}
    (hRead : readText (ofVariable text) = .ok written) :
    load readers (.ofFiles here []) [(key.key.variableName, text)] =
      .ok (key.selection written).configuration := by
  have hKnown : AreKnown [(key.key.variableName, text)] :=
    ⟨List.nodup_singleton _, List.forall_mem_singleton.mpr (Or.inr ⟨key.key, rfl⟩)⟩
  refine load_eq_ok (ofOptionalFile_nothing _) (ofOptionalFile_nothing _) _
    (isOrdered_layer_ofVariables hKnown isOrdered_nil) fun other => ?_
  rw [nested?_layer_ofVariables hKnown]
  by_cases hOther : other = key.key
  · subst hOther
    have hLookup : [(key.key.variableName, text)].lookup key.key.variableName = some text := by simp
    rw [hLookup]
    exact key.isReadAs_selection hRead
  · have hName : other.variableName ≠ key.key.variableName := fun hSame =>
      hOther (Key.variableName_inj hSame)
    have hLookup : [(key.key.variableName, text)].lookup other.variableName = none := by
      simp [hName]
    rw [hLookup, key.selection_of_ne written hOther]
    exact .none

/-- Where the default file is the only source, the keys have what it sets. -/
theorem load_file {folder : Folder} {base : Entries} {selection : Selection}
    (hBase : ofOptionalFile readers folder "config/default" = .ok base)
    (hWritten : selection.IsWrittenIn base)
    (hOwn : ofOptionalFile readers folder "config/local" = .ok []) :
    load readers folder [] = .ok selection.configuration := by
  refine load_eq_ok hBase hOwn _ (isOrdered_nil.layer hWritten.tables) fun key => ?_
  have hLayer : nested? key.table key.name (layer [] base) = nested? key.table key.name base := by
    rw [nested?_layer hWritten.tables]
    exact Option.or_none
  exact hLayer.symm ▸ hWritten.isReadAs key

/-- **A text that a file sets for a key comes out as it is, and the text of a variable respelled.**  In
a file the text stands in quotes, in any format; the two agree where the text is its own respelling,
and it is where it has a character that neither flags nor numbers are written with. -/
theorem a_variable_sets_its_text_respelled (readers : Readers) (here : List String)
    (key : TextKey) (text : String) :
    ∃ written, Respells text written ∧
      load readers (.ofFiles here []) [(key.key.variableName, text)] =
        .ok (key.selection written).configuration ∧
      (∀ pretty, load readers
          (folderOf here [("default.json", (key.selection text).toJson.render pretty)]) [] =
        .ok (key.selection text).configuration) ∧
      (∀ folder base, ofOptionalFile readers folder "config/default" = .ok base →
        (key.selection text).IsWrittenIn base → ofOptionalFile readers folder "config/local" = .ok [] →
        load readers folder [] = .ok (key.selection text).configuration) ∧
      (load readers (.ofFiles here []) [(key.key.variableName, text)] =
          .ok (key.selection text).configuration ↔
        written = text) ∧
      ((∃ c ∈ text.toList, isScalarChar c = false) → written = text) := by
  obtain ⟨written, hRespells, hRead⟩ := exists_respelling text
  have hVariable : load readers (.ofFiles here []) [(key.key.variableName, text)] =
      .ok (key.selection written).configuration := key.load_variable hRead
  have hFile (pretty : Bool) :
      load readers
          (folderOf here [("default.json", (key.selection text).toJson.render pretty)]) [] =
        .ok (key.selection text).configuration := by
    have hNames : ∀ file ∈ [("default.json", (key.selection text).toJson.render pretty)],
        file.1 ∈ sourceFiles.map (·.2) := by
      simp [sourceFiles]
    exact load_file
      (ofOptionalFile_of_lookup_eq_some (by simp) hNames
        (by simp [sourceFiles] : ("config/default", "default.json") ∈ sourceFiles) rfl)
      ((key.selection text).isWrittenIn_entries _)
      (ofOptionalFile_of_lookup_eq_none (by simp) hNames
        (by simp [sourceFiles] : ("config/local", "local.json") ∈ sourceFiles) rfl)
  refine ⟨written, hRespells, hVariable, hFile, fun _ _ hBase hWritten hOwn =>
    load_file hBase hWritten hOwn, ?_, fun ⟨c, hChar, hOther⟩ => ?_⟩
  · rw [hVariable, Except.ok.injEq]
    exact ⟨key.configuration_inj, fun hSame => hSame ▸ rfl⟩
  · exact hRespells.unique (.plain (isPlainText_of_not_isScalarChar hChar hOther))

end Loading

/-- A version number loses the zero at its end in a variable, but not in a file. -/
theorem sample_version_number :
    load .none (.ofFiles ["srv"] []) [("DISPATCH__COMPILER__ROUTE_PREFIX", "1.50")] =
        .ok { compiler := { routePrefix := some "1.5" } } ∧
      load .none (.ofFiles ["srv"]
          [("config/default.yaml", "compiler:\n  route_prefix: \"1.50\"\n")]) [] =
        .ok { compiler := { routePrefix := some "1.50" } } ∧
      load .none (.ofFiles ["srv"] []) [("DISPATCH__COMPILER__ROUTE_PREFIX", "1.50")] ≠
        load .none (.ofFiles ["srv"]
          [("config/default.yaml", "compiler:\n  route_prefix: \"1.50\"\n")]) [] := by
  decide +kernel

end Configuration
end Switchboard
