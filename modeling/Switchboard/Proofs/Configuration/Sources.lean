import Switchboard.Proofs.Configuration.Files

/-!
# Sources of the configuration

The default file, the local file over it and the environment variables over both each set some of the
keys.  Whatever they set, every key has the value of the highest source that sets it, and no key
depends on what is set for another (`each_key_has_its_highest_source`).
-/

namespace Switchboard
namespace Configuration

open Setting

/-- The environment variables set the selected keys and no others. -/
structure Selection.IsSetBy (selection : Selection) (vars : List (String × String)) : Prop where
  known : AreKnown vars
  texts (key : Key) : Option.Rel key.IsSpelling (vars.lookup key.variableName) (selection key)

theorem Selection.IsSetBy.isReadAs {selection : Selection} {vars : List (String × String)}
    (hSet : selection.IsSetBy vars) (key : Key) :
    IsReadAs key.read ((vars.lookup key.variableName).map ofVariable) (selection key) :=
  .of_rel ofVariable (fun _ _ hText => hText.read_eq) (hSet.texts key)

/-- **Every key has the value of the highest source that sets it.** -/
theorem each_key_has_its_highest_source {readers : Readers} {folder : Folder}
    {vars : List (String × String)} {base own : Entries}
    {inDefault inLocal inVariables : Selection}
    (hBase : ofOptionalFile readers folder "config/default" = .ok base)
    (hDefault : inDefault.IsWrittenIn base)
    (hOwn : ofOptionalFile readers folder "config/local" = .ok own) (hLocal : inLocal.IsWrittenIn own)
    (hVariables : inVariables.IsSetBy vars) :
    load readers folder vars = .ok
      { compiler :=
          { manifest := ((inVariables .manifest).or
              ((inLocal .manifest).or (inDefault .manifest))).getD "endpoints.yaml"
            routePrefix := (inVariables .routePrefix).or
              ((inLocal .routePrefix).or (inDefault .routePrefix)) }
        output :=
          { pretty := ((inVariables .pretty).or
              ((inLocal .pretty).or (inDefault .pretty))).getD true
            path := (inVariables .path).or ((inLocal .path).or (inDefault .path)) } } := by
  have hFiles := (isOrdered_nil.layer hDefault.tables).layer hLocal.tables
  refine load_eq_ok hBase hOwn
    (fun key => (inVariables key).or ((inLocal key).or (inDefault key)))
    (isOrdered_layer_ofVariables hVariables.known hFiles) fun key => ?_
  rw [nested?_layer_ofVariables hVariables.known, nested?_layer hLocal.tables,
    nested?_layer hDefault.tables]
  have hNothing : nested? key.table key.name [] = none := rfl
  rw [hNothing, Option.or_none]
  exact (hVariables.isReadAs key).or ((hLocal.isReadAs key).or (hDefault.isReadAs key))

/-- A default file, a local file and variables that overlap. -/
def sampleDefault : Selection
  | .manifest => some "service/endpoints.toml"
  | .routePrefix => some "/api"
  | .pretty => some true
  | .path => none

def sampleLocal : Selection
  | .manifest => some "local.yaml"
  | .routePrefix | .pretty => none
  | .path => some "1.50"

def sampleVariables : Selection
  | .manifest => some "vars/endpoints.yaml"
  | .routePrefix | .path => none
  | .pretty => some false

theorem sample_variables_isSetBy : sampleVariables.IsSetBy
    [("HOME", "/root"), ("DISPATCH__COMPILER__MANIFEST", "vars/endpoints.yaml"),
      ("DISPATCH__OUTPUT__PRETTY", "False")] where
  known :=
    { names_nodup := by decide
      known := by
        simp only [List.forall_mem_cons]
        exact ⟨Or.inl (by decide +kernel), Or.inr ⟨.manifest, rfl⟩, Or.inr ⟨.pretty, rfl⟩, nofun⟩ }
  texts key := by
    have hPlain : IsPlainText "vars/endpoints.yaml" :=
      isPlainText_of_not_isScalarChar (c := '/') (by decide +kernel) (by decide +kernel)
    cases key with
    | manifest => exact .some ⟨rfl, hPlain⟩
    | routePrefix | path => exact .none
    | pretty => exact .some (by decide +kernel : Text.toLower "False".toList = "false".toList)

/-- The files, the first over several lines and the second on one. -/
def sampleFiles : List (String × String) :=
  [("default.json", sampleDefault.toJson.render true),
    ("local.json", sampleLocal.toJson.render false)]

/-- The variables set the manifest over both files, the local file sets the path next to the prefix
that only the default file sets. -/
theorem sample_each_key :
    load .none (folderOf ["srv"] sampleFiles)
      [("HOME", "/root"), ("DISPATCH__COMPILER__MANIFEST", "vars/endpoints.yaml"),
        ("DISPATCH__OUTPUT__PRETTY", "False")] = .ok
      { compiler := { manifest := "vars/endpoints.yaml", routePrefix := some "/api" }
        output := { pretty := false, path := some "1.50" } } := by
  have hNames : ∀ file ∈ sampleFiles, file.1 ∈ sourceFiles.map (·.2) := by
    simp [sampleFiles, sourceFiles]
  have hBase : ofOptionalFile .none (folderOf ["srv"] sampleFiles) "config/default" =
      .ok (sampleDefault.entries _) :=
    ofOptionalFile_of_lookup_eq_some (by simp [sampleFiles]) hNames
      (by simp [sourceFiles] : ("config/default", "default.json") ∈ sourceFiles) rfl
  have hOwn : ofOptionalFile .none (folderOf ["srv"] sampleFiles) "config/local" =
      .ok (sampleLocal.entries _) :=
    ofOptionalFile_of_lookup_eq_some (by simp [sampleFiles]) hNames
      (by simp [sourceFiles] : ("config/local", "local.json") ∈ sourceFiles) rfl
  rw [each_key_has_its_highest_source hBase (sampleDefault.isWrittenIn_entries _) hOwn
    (sampleLocal.isWrittenIn_entries _) sample_variables_isSetBy]
  rfl

end Configuration
end Switchboard
