import Switchboard.Configuration
import Switchboard.Proofs.Document.Record
import Switchboard.Proofs.Settings.Layering
import Switchboard.Proofs.Settings.Variable

/-!
# Keys of the configuration

The configuration has four keys, in two tables.  Settings that are tables in order are read key by key
(`read_of_isReadFrom`), and a variable that sets a key is laid over that key only
(`nested?_layer_ofVariables`), so what is loaded follows from what is found under each key in the
layers of all sources (`load_eq_ok`).
-/

namespace Switchboard
namespace Configuration

open Document (readDraft exists_readDraft_pair)
open Json (IsAscending)
open Setting

/-! ### Keys -/

/-- The keys of the configuration. -/
inductive Key where
  | manifest
  | routePrefix
  | pretty
  | path
deriving DecidableEq

/-- What a key is set to. -/
abbrev Key.Value : Key → Type
  | .pretty => Bool
  | .manifest | .routePrefix | .path => String

/-- The table that a key is in. -/
def Key.table : Key → String
  | .manifest | .routePrefix => "compiler"
  | .pretty | .path => "output"

/-- The name of a key in its table. -/
def Key.name : Key → String
  | .manifest => "manifest"
  | .routePrefix => "route_prefix"
  | .pretty => "pretty"
  | .path => "path"

/-- The environment variable that sets a key. -/
def Key.variableName : Key → String
  | .manifest => "DISPATCH__COMPILER__MANIFEST"
  | .routePrefix => "DISPATCH__COMPILER__ROUTE_PREFIX"
  | .pretty => "DISPATCH__OUTPUT__PRETTY"
  | .path => "DISPATCH__OUTPUT__PATH"

/-- How a key is read. -/
def Key.read : (key : Key) → Setting → Except Fault key.Value
  | .pretty => readFlag
  | .manifest | .routePrefix | .path => readText

/-- What is set of the keys. -/
abbrev Selection : Type := (key : Key) → Option key.Value

/-- The configuration where these keys are set. -/
def Selection.configuration (selection : Selection) : Configuration where
  compiler :=
    { manifest := (selection .manifest).getD "endpoints.yaml", routePrefix := selection .routePrefix }
  output := { pretty := (selection .pretty).getD true, path := selection .path }

theorem Key.table_name_inj {key other : Key} :
    key.table = other.table ∧ key.name = other.name ↔ key = other := by
  cases key <;> cases other <;> decide

theorem Key.ofKey_variableKey? (key : Key) :
    ∃ spelled, variableKey? key.variableName = some spelled ∧
      Address.ofKey spelled = ⟨key.table, [.key key.name]⟩ := by
  cases key with
  | manifest => exact ⟨"compiler.manifest", by decide +kernel⟩
  | routePrefix => exact ⟨"compiler.route_prefix", by decide +kernel⟩
  | pretty => exact ⟨"output.pretty", by decide +kernel⟩
  | path => exact ⟨"output.path", by decide +kernel⟩

theorem Key.variableName_inj {key other : Key} (hName : key.variableName = other.variableName) :
    key = other := by
  revert hName
  cases key <;> cases other <;> decide

/-! ### Reading what is set -/

section Reading

variable {α : Type} {read : Setting → Except Fault α} {found : Option Setting} {chosen : Option α}

/-- What is found, if anything, is read as what is chosen. -/
def IsReadAs (read : Setting → Except Fault α) (found : Option Setting) (chosen : Option α) : Prop :=
  Option.Rel (fun setting a => read setting = .ok a) found chosen

/-- What is found is read as what is chosen if each value is read as the choice it stands for. -/
theorem IsReadAs.of_rel {β : Type} {stands : β → α → Prop} (setting : β → Setting)
    (hStands : ∀ b a, stands b a → read (setting b) = .ok a) {given : Option β}
    (hGiven : Option.Rel stands given chosen) : IsReadAs read (given.map setting) chosen := by
  cases hGiven with
  | none => exact .none
  | some hGiven => exact .some (hStands _ _ hGiven)

variable {name : String} {values : Entries}

theorem IsReadAs.exists_of_mem (hRead : IsReadAs read (find? name values) chosen)
    (hKeys : (values.map (·.1)).Nodup) :
    ∀ entry ∈ values, entry.1 = name → ∃ a, read entry.2 = .ok a := by
  rintro entry hEntry rfl
  rw [find?_eq_some_of_mem hKeys hEntry] at hRead
  cases hRead with
  | some hRead => exact ⟨_, hRead⟩

theorem IsReadAs.bind_toOption (hRead : IsReadAs read (find? name values) chosen) :
    (values.find? (·.1 == name)).bind (fun entry => (read entry.2).toOption) = chosen := by
  rw [find?] at hRead
  cases hFind : values.find? (·.1 == name) with
  | none =>
      rw [hFind] at hRead
      cases hRead
      rfl
  | some entry =>
      rw [hFind] at hRead
      cases hRead with
      | some hRead => rw [Option.bind_some, hRead]; rfl

/-- What is found in a higher source wins, and so does what is chosen there. -/
theorem IsReadAs.or {higher : Option Setting} {chosenHigher : Option α}
    (hHigher : IsReadAs read higher chosenHigher) (hRead : IsReadAs read found chosen) :
    IsReadAs read (higher.or found) (chosenHigher.or chosen) := by
  cases hHigher with
  | some hHigher => exact .some hHigher
  | none => exact hRead

/-- A text that is read is read as an optional one too. -/
theorem IsReadAs.optional {chosen : Option String} (hRead : IsReadAs readText found chosen) :
    IsReadAs (Setting.dialect.optional readText) found (chosen.map some) := by
  cases hRead with
  | none => exact .none
  | @some setting text hRead =>
      refine .some ?_
      have hThere : Setting.dialect.isNothing setting = false := by
        cases setting <;> first | rfl | nomatch hRead
      rw [Document.Dialect.optional, hThere, hRead]
      rfl

end Reading

section Pair

variable {δ α β : Type} {name name' : String} {hasDefault hasDefault' : Bool} {get : δ → Option α}
  {set : α → δ → δ} {read : Setting → Except Fault α} {get' : δ → Option β} {set' : β → δ → δ}
  {read' : Setting → Except Fault β}

/-- A table of two settings is read into a draft that shows what is chosen for each. -/
theorem exists_readDraft_table (hNames : name ≠ name') (hGet : ∀ a draft, get (set a draft) = some a)
    (hGet' : ∀ b draft, get' (set' b draft) = some b)
    (hKeep : ∀ b draft, get (set' b draft) = get draft)
    (hKeep' : ∀ a draft, get' (set a draft) = get' draft) {empty : δ} (hEmpty : get empty = none)
    (hEmpty' : get' empty = none) {record : String} {origin : Option String} {values : Entries}
    (hKeys : (values.map (·.1)).Nodup) {chosen : Option α} {chosen' : Option β}
    (hFirst : IsReadAs read (find? name values) chosen)
    (hSecond : IsReadAs read' (find? name' values) chosen') :
    ∃ draft, readDraft Setting.dialect record [.of name hasDefault get set read,
        .of name' hasDefault' get' set' read'] empty (.table origin values) = .ok draft ∧
      get draft = chosen ∧ get' draft = chosen' := by
  have hForm : Setting.dialect.form record (.table origin values) = .ok (.entries values) := rfl
  exact (exists_readDraft_pair hNames hGet hGet' hKeep hKeep' hEmpty hEmpty' hForm hKeys
    (hFirst.exists_of_mem hKeys) (hSecond.exists_of_mem hKeys)).imp fun draft ⟨hDraft, hOwn, hOwn'⟩ =>
      ⟨hDraft, hOwn.trans hFirst.bind_toOption, hOwn'.trans hSecond.bind_toOption⟩

end Pair

theorem readCompiler_table {origin : Option String} {values : Entries} (hValues : IsAscending values)
    {manifest routePrefix : Option String}
    (hManifest : IsReadAs readText (find? "manifest" values) manifest)
    (hPrefix : IsReadAs readText (find? "route_prefix" values) routePrefix) :
    CompilerSettings.read Setting.dialect (.table origin values) =
      .ok { manifest := manifest.getD "endpoints.yaml", routePrefix } := by
  obtain ⟨draft, hDraft, hFirst, hSecond⟩ : ∃ draft, readDraft Setting.dialect "CompilerConfig"
        (CompilerSettings.fields Setting.dialect) {} (.table origin values) = .ok draft ∧
      draft.manifest = manifest ∧ draft.routePrefix = routePrefix.map some :=
    exists_readDraft_table (by decide) (fun _ _ => by rfl) (fun _ _ => by rfl) (fun _ _ => by rfl)
      (fun _ _ => by rfl) (by rfl) (by rfl) hValues.nodup hManifest hPrefix.optional
  rw [CompilerSettings.read, hDraft, Except.map, hFirst, hSecond]
  cases routePrefix <;> rfl

theorem readOutput_table {origin : Option String} {values : Entries} (hValues : IsAscending values)
    {pretty : Option Bool} {path : Option String}
    (hPretty : IsReadAs readFlag (find? "pretty" values) pretty)
    (hPath : IsReadAs readText (find? "path" values) path) :
    OutputSettings.read Setting.dialect (.table origin values) =
      .ok { pretty := pretty.getD true, path } := by
  obtain ⟨draft, hDraft, hFirst, hSecond⟩ : ∃ draft, readDraft Setting.dialect "OutputConfig"
        (OutputSettings.fields Setting.dialect) {} (.table origin values) = .ok draft ∧
      draft.pretty = pretty ∧ draft.path = path.map some :=
    exists_readDraft_table (by decide) (fun _ _ => by rfl) (fun _ _ => by rfl) (fun _ _ => by rfl)
      (fun _ _ => by rfl) (by rfl) (by rfl) hValues.nodup hPretty hPath.optional
  rw [OutputSettings.read, hDraft, Except.map, hFirst, hSecond]
  cases path <;> rfl

/-- What is found under the keys is read as what is selected. -/
def Selection.IsReadFrom (selection : Selection) (entries : Entries) : Prop :=
  ∀ key : Key, IsReadAs key.read (nested? key.table key.name entries) (selection key)

theorem Selection.IsReadFrom.of_find? {selection : Selection} {entries : Entries}
    (hSelection : selection.IsReadFrom entries) (key : Key) {origin : Option String}
    {values : Entries} (hTable : find? key.table entries = some (.table origin values)) :
    IsReadAs key.read (find? key.name values) (selection key) := by
  have hFound := hSelection key
  rwa [nested?, hTable] at hFound

theorem Selection.IsReadFrom.eq_none {selection : Selection} {entries : Entries}
    (hSelection : selection.IsReadFrom entries) (key : Key)
    (hTable : find? key.table entries = none) : selection key = none := by
  have hFound := hSelection key
  rw [nested?, hTable] at hFound
  generalize selection key = chosen at hFound
  cases hFound
  rfl

/-- A table that is there is read as its settings, and one that is not leaves the built-in ones. -/
theorem exists_isReadAs_table {α : Type} {read : Setting → Except Fault α} {table : String}
    {entries : Entries} (hOrdered : IsOrdered entries) {settings builtIn : α}
    (hThere : ∀ origin values, find? table entries = some (.table origin values) →
      IsAscending values → read (.table origin values) = .ok settings)
    (hAbsent : find? table entries = none → settings = builtIn) :
    ∃ chosen, IsReadAs read (find? table entries) chosen ∧ chosen.getD builtIn = settings := by
  cases hFind : find? table entries with
  | none => exact ⟨none, .none, (hAbsent hFind).symm⟩
  | some setting =>
      obtain ⟨origin, values, rfl, hValues⟩ := hOrdered.isAscending_of_find? hFind
      exact ⟨some settings, .some (hThere origin values hFind hValues), rfl⟩

/-- Tables in order are read key by key. -/
theorem read_of_isReadFrom (origin : Option String) {entries : Entries}
    (hOrdered : IsOrdered entries) {selection : Selection}
    (hSelection : selection.IsReadFrom entries) :
    Configuration.read Setting.dialect (.table origin entries) = .ok selection.configuration := by
  obtain ⟨compiler, hCompiler, hCompilerSettings⟩ :
      ∃ chosen, IsReadAs (CompilerSettings.read Setting.dialect) (find? "compiler" entries) chosen ∧
        chosen.getD {} = selection.configuration.compiler := by
    refine exists_isReadAs_table hOrdered (fun origin values hFind hValues => ?_) fun hFind => ?_
    · exact readCompiler_table hValues (hSelection.of_find? .manifest hFind)
        (hSelection.of_find? .routePrefix hFind)
    · simp only [Selection.configuration, hSelection.eq_none .manifest hFind,
        hSelection.eq_none .routePrefix hFind, Option.getD_none]
  obtain ⟨output, hOutput, hOutputSettings⟩ :
      ∃ chosen, IsReadAs (OutputSettings.read Setting.dialect) (find? "output" entries) chosen ∧
        chosen.getD {} = selection.configuration.output := by
    refine exists_isReadAs_table hOrdered (fun origin values hFind hValues => ?_) fun hFind => ?_
    · exact readOutput_table hValues (hSelection.of_find? .pretty hFind)
        (hSelection.of_find? .path hFind)
    · simp only [Selection.configuration, hSelection.eq_none .pretty hFind,
        hSelection.eq_none .path hFind, Option.getD_none]
  obtain ⟨draft, hDraft, hFirst, hSecond⟩ : ∃ draft, readDraft Setting.dialect "Config"
        (fields Setting.dialect) {} (.table origin entries) = .ok draft ∧
      draft.compiler = compiler ∧ draft.output = output :=
    exists_readDraft_table (by decide) (fun _ _ => by rfl) (fun _ _ => by rfl) (fun _ _ => by rfl)
      (fun _ _ => by rfl) (by rfl) (by rfl) hOrdered.ascending.nodup hCompiler hOutput
  rw [Configuration.read, hDraft, Except.map, hFirst, hSecond, hCompilerSettings, hOutputSettings]

/-! ### Environment variables -/

/-- Environment variables with different names, of which those that the configuration is read from set
its keys. -/
structure AreKnown (vars : List (String × String)) : Prop where
  names_nodup : (vars.map (·.1)).Nodup
  known : ∀ entry ∈ vars, variableKey? entry.1 = none ∨ ∃ key : Key, entry.1 = key.variableName

theorem AreKnown.of_cons {entry : String × String} {vars : List (String × String)}
    (hVars : AreKnown (entry :: vars)) : AreKnown vars :=
  ⟨(List.nodup_cons.mp hVars.names_nodup).2, (List.forall_mem_cons.mp hVars.known).2⟩

/-- A variable that sets no key is passed over, and one that sets a key is placed at it. -/
theorem AreKnown.layer_cons {entry : String × String} {vars : List (String × String)}
    (hVars : AreKnown (entry :: vars)) (below : Entries) :
    (variableKey? entry.1 = none ∧
      layer below (ofVariables (entry :: vars)) = layer below (ofVariables vars)) ∨
    ∃ key : Key, entry.1 = key.variableName ∧
      layer below (ofVariables (entry :: vars)) =
        layer (place ⟨key.table, [.key key.name]⟩ (ofVariable entry.2) below) (ofVariables vars) := by
  rcases (List.forall_mem_cons.mp hVars.known).1 with hNone | ⟨key, hKey⟩
  · refine Or.inl ⟨hNone, ?_⟩
    simp only [ofVariables, List.filterMap_cons, hNone, Option.map_none]
  · obtain ⟨spelled, hSpelled, hAddress⟩ := key.ofKey_variableKey?
    refine Or.inr ⟨key, hKey, ?_⟩
    simp only [ofVariables, List.filterMap_cons, hKey, hSpelled, Option.map_some,
      Setting.layer_cons, hAddress]

/-- **A variable hides no key but its own.** -/
theorem nested?_layer_ofVariables {vars : List (String × String)} (hVars : AreKnown vars)
    (below : Entries) (key : Key) :
    nested? key.table key.name (layer below (ofVariables vars)) =
      ((vars.lookup key.variableName).map ofVariable).or (nested? key.table key.name below) := by
  induction vars generalizing below with
  | nil => rfl
  | cons entry vars ih =>
      obtain ⟨name, text⟩ := entry
      obtain ⟨hNew, -⟩ := List.nodup_cons.mp hVars.names_nodup
      rw [List.lookup_cons]
      rcases hVars.layer_cons below with ⟨hNone, hLayer⟩ | ⟨other, hOther, hLayer⟩
      · have hName : (key.variableName == name) = false := by
          refine beq_false_of_ne fun hSame => ?_
          obtain ⟨spelled, hSpelled, -⟩ := key.ofKey_variableKey?
          exact absurd ((hSame ▸ hSpelled).symm.trans hNone) nofun
        rw [hLayer, ih hVars.of_cons, hName]
      · obtain rfl : name = other.variableName := hOther
        rw [hLayer, ih hVars.of_cons, nested?_place_key _ _ (isLeaf_ofVariable text)]
        simp only [Key.table_name_inj]
        by_cases hKey : other = key
        · -- The variable comes once, so none that follows sets the key.
          subst hKey
          have hLater : vars.lookup other.variableName = none :=
            List.lookup_eq_none_iff.mpr fun later hLater =>
              bne_iff_ne.mpr fun hSame => hNew (List.mem_map.mpr ⟨later, hLater, hSame.symm⟩)
          rw [hLater, if_pos rfl, beq_self_eq_true]
          rfl
        · have hName : (key.variableName == other.variableName) = false :=
            beq_false_of_ne fun hSame => hKey (Key.variableName_inj hSame).symm
          rw [if_neg hKey, hName]

theorem isOrdered_layer_ofVariables {vars : List (String × String)} (hVars : AreKnown vars)
    {below : Entries} (hBelow : IsOrdered below) : IsOrdered (layer below (ofVariables vars)) := by
  induction vars generalizing below with
  | nil => exact hBelow
  | cons entry vars ih =>
      rcases hVars.layer_cons below with ⟨-, hLayer⟩ | ⟨key, -, hLayer⟩
      · rw [hLayer]
        exact ih hVars.of_cons hBelow
      · rw [hLayer]
        exact ih hVars.of_cons (hBelow.place_key _ _ (isLeaf_ofVariable _))

/-! ### Loading -/

theorem load_eq_ok {readers : Readers} {folder : Folder} {vars : List (String × String)}
    {base own : Entries}
    (hBase : ofOptionalFile readers folder "config/default" = .ok base)
    (hOwn : ofOptionalFile readers folder "config/local" = .ok own) (selection : Selection)
    (hOrdered : IsOrdered (layer (layer (layer [] base) own) (ofVariables vars)))
    (hSelection : selection.IsReadFrom (layer (layer (layer [] base) own) (ofVariables vars))) :
    load readers folder vars = .ok selection.configuration := by
  have hRead := read_of_isReadFrom none hOrdered hSelection
  simp only [load, files, List.mapM_cons, List.mapM_nil, hBase, hOwn]
  exact congrArg (Except.mapError SourceFault.unfit) hRead

/-- What a key is set to by a value in a file: a flag by a flag, and a text by a text. -/
def Key.IsValue : (key : Key) → Setting → key.Value → Prop
  | .pretty, setting, flag => ∃ origin, setting = .boolean origin flag
  | .manifest, setting, value | .routePrefix, setting, value | .path, setting, value =>
    ∃ origin, setting = .text origin value

/-- What a key is set to by the text of a variable: a flag by its name, and a text by itself if it
spells neither a flag nor a number. -/
def Key.IsSpelling : (key : Key) → String → key.Value → Prop
  | .pretty, spelling, flag => SpellsFlag spelling flag
  | .manifest, spelling, value | .routePrefix, spelling, value | .path, spelling, value =>
    spelling = value ∧ IsPlainText spelling

theorem Key.IsValue.read_eq {key : Key} {setting : Setting} {value : key.Value}
    (hValue : key.IsValue setting value) : key.read setting = .ok value := by
  cases key <;> obtain ⟨origin, rfl⟩ := hValue <;> rfl

theorem Key.IsSpelling.read_eq {key : Key} {text : String} {value : key.Value}
    (hText : key.IsSpelling text value) : key.read (ofVariable text) = .ok value := by
  cases key with
  | pretty => rw [ofVariable_of_spellsFlag hText]; rfl
  | manifest | routePrefix | path =>
      obtain ⟨rfl, hPlain⟩ := hText
      rw [ofVariable_of_isPlainText hPlain]
      rfl

/-- A file has these entries: it sets the selected keys and no others. -/
structure Selection.IsWrittenIn (selection : Selection) (entries : Entries) : Prop where
  tables : AreTables entries
  values (key : Key) : Option.Rel key.IsValue (nested? key.table key.name entries) (selection key)

theorem Selection.IsWrittenIn.isReadAs {selection : Selection} {entries : Entries}
    (hWritten : selection.IsWrittenIn entries) (key : Key) :
    IsReadAs key.read (nested? key.table key.name entries) (selection key) := by
  have hRead : IsReadAs key.read ((nested? key.table key.name entries).map id) (selection key) :=
    .of_rel id (fun _ _ hValue => hValue.read_eq) (hWritten.values key)
  rwa [Option.map_id_fun, id] at hRead

end Configuration
end Switchboard
