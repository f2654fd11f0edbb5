import Switchboard.Catalogue.Compile
import Switchboard.Proofs.Endpoint.Ordering
import Switchboard.Proofs.Settings.Leniency

/-!
# Manifests written and read

A manifest that is written as JSON is read back as what was written: strictly, from its value as it
was written and from the value that the text holds, and leniently, as a source of settings.  The two
spellings of the text make no difference.  Manifests in other formats are not looked at here.
-/

namespace Switchboard

open Json (Value)

/-! ### What is written -/

namespace Endpoint

section Built

variable {depth : Nat}

theorem isBuiltOf_optionalJson {α : Type} {toJson : α → Value}
    (hSome : ∀ a, (toJson a).IsBuiltOf Value.IsWord depth) (o : Option α) :
    (optionalJson toJson o).IsBuiltOf Value.IsWord depth := by
  cases o with
  | none => exact .scalar trivial trivial
  | some a => exact hSome a

theorem Param.isBuiltOf_toJson (p : Param) : p.toJson.IsBuiltOf Value.IsWord (depth + 1) :=
  .object (by simp)

theorem Signature.isBuiltOf_toJson (signature : Signature) :
    signature.toJson.IsBuiltOf Value.IsWord (depth + 3) :=
  .object (by simp [Value.IsBuiltOf.map Param.isBuiltOf_toJson])

theorem RequestType.isBuiltOf_toJson (request : RequestType) :
    request.toJson.IsBuiltOf Value.IsWord (depth + 1) :=
  .object (by simp)

theorem Declaration.isBuiltOf_toJson (d : Declaration) :
    d.toJson.IsBuiltOf Value.IsWord (depth + 4) := by
  have hStatus (status : Status) : (Value.text status.name).IsBuiltOf Value.IsWord (depth + 2) :=
    .scalar trivial trivial
  refine .object ?_
  simp [Value.IsBuiltOf.map hStatus, isBuiltOf_optionalJson RequestType.isBuiltOf_toJson,
    isBuiltOf_optionalJson Signature.isBuiltOf_toJson]

end Built

end Endpoint

namespace Manifest

open Endpoint (IsList IsRecord Reads IsStable)
open Document (AreApart Field FieldSpelling)

/-- A manifest holds no numbers and does not nest deeper than what can be read. -/
theorem isBuiltOf_toJson (m : Manifest) : m.toJson.IsBuiltOf Value.IsWord Json.maxDepth := by
  have hDeclaration (d : Endpoint.Declaration) : d.toJson.IsBuiltOf Value.IsWord (121 + 4) :=
    d.isBuiltOf_toJson
  refine .object ?_
  simp [Value.IsBuiltOf.map hDeclaration]

/-! ### Strict reading -/

def spellings (m : Manifest) : List (FieldSpelling Value) :=
  [⟨"endpoints", [], IsList (fun d => IsRecord d.spellings) m.endpoints, m.endpoints = []⟩]

/-- The draft that holds the named fields of a manifest. -/
def part (m : Manifest) (seen : List String) : Draft where
  endpoints := if "endpoints" ∈ seen then some m.endpoints else none

theorem accepts (m : Manifest) :
    List.Forall₂ (Field.Accepts m.part) (fields Json.dialect) m.spellings :=
  .cons (.of m.endpoints (fun _ => rfl) (fun _ => by simp [part])
    (Endpoint.reads_declaration.list _)) .nil

theorem areApart_spellings (m : Manifest) : AreApart m.spellings := by
  simp [AreApart, spellings, FieldSpelling.keys]

theorem reads_manifest : Reads (read Json.dialect) fun m => IsRecord m.spellings := by
  intro m value hValue
  obtain ⟨seen, hRead, hSeen⟩ :=
    Endpoint.exists_readDraft_of_isRecord {} rfl m.accepts m.areApart_spellings hValue
  simp only [spellings, List.forall_mem_cons] at hSeen
  rw [read, hRead]
  simp only [Except.map, part, Endpoint.getD_shown hSeen.1]

theorem isRecord_toJson (m : Manifest) : IsRecord m.spellings m.toJson :=
  .object <| .of_forall₂ <| .cons
    (Endpoint.isEntry_name (Endpoint.isList_map Endpoint.Declaration.isRecord_toJson _)) .nil

theorem isStable (m : Manifest) : IsStable (IsRecord m.spellings) := by
  refine Endpoint.isStable_record m.areApart_spellings ?_
  simp only [spellings, List.forall_mem_cons]
  exact ⟨Endpoint.isStable_list Endpoint.Declaration.isStable _, List.forall_mem_nil _⟩

/-- The manifest in a JSON text, read strictly. -/
def parseStrictly? (text : String) : Option Manifest :=
  (Json.parse? text).bind fun value => (read Json.dialect value).toOption

/-! ### Lenient reading -/

/-- One source with a list under a plain key makes a table of this list. -/
theorem ofSources_list (origin : Option String) (items : List Setting) :
    Setting.ofSources [[("endpoints", .list origin items)]] =
      .table none [("endpoints", .list origin items)] := by
  have hKey : Setting.Address.ofKey "endpoints" = ⟨"endpoints", []⟩ := by decide
  simp [Setting.ofSources, Setting.layer, hKey, Setting.place, Setting.mergedEntries,
    Setting.merged, Json.insertKey]

/-- A text that holds nothing but a list of declarations is read as the settings that it holds. -/
theorem parse_of_endpoints {readers : Setting.Readers} {text : String} {items : List Value}
    {m : Manifest}
    (hText : Json.parse? text = some (.object [("endpoints", .array items)]))
    (hRead : read Json.dialect (.object [("endpoints", .array items)]) = .ok m) :
    parse readers .json text = .ok m := by
  have hFormat : Setting.Format.json.read readers none text =
      .ok [("endpoints", .list none (Setting.ofJsonItems none items))] := by
    unfold Setting.Format.read
    simp only [hText, Setting.ofJson, Setting.ofJsonFields, Setting.entries]
  have hSettings : Setting.ofText readers .json none text =
      .ok [("endpoints", .list none (Setting.ofJsonItems none items))] := by
    rw [Setting.ofText, hFormat]
  have hLenient := read_carries (Setting.isLenientTo_json none) _ m hRead
  rw [Setting.ofJson, Setting.ofJsonFields, Setting.ofJson, Setting.ofJsonFields] at hLenient
  rw [parse, hSettings, Except.bind, ofEntries, ofSources_list, hLenient]
  rfl

/-! ### Writing and reading -/

/-- **A manifest that is written is read back, by either reader.**  The text of a manifest, in either
spelling, is read leniently as the manifest that was written, whatever texts are in it, and strictly
as well.  So compiling what either reader finds gives the same. -/
theorem written_manifest_is_read_back (readers : Setting.Readers) (m : Manifest) (pretty : Bool) :
    parse readers .json (m.toJson.render pretty) = .ok m ∧
      parseStrictly? (m.toJson.render pretty) = some m ∧ read Json.dialect m.toJson = .ok m ∧
      ∀ routePrefix, (parse readers .json (m.toJson.render pretty)).toOption.map
          (fun found => Catalogue.compile routePrefix found.endpoints) =
        (parseStrictly? (m.toJson.render pretty)).map
          fun found => Catalogue.compile routePrefix found.endpoints := by
  have hText := Json.parse?_render pretty m.isBuiltOf_toJson
  have hSorted : read Json.dialect m.toJson.sorted = .ok m :=
    reads_manifest m _ (m.isStable _ m.isRecord_toJson)
  have hStrict : parseStrictly? (m.toJson.render pretty) = some m := by
    rw [parseStrictly?, hText, Option.bind_some, hSorted, Except.toOption]
  have hLenient : parse readers .json (m.toJson.render pretty) = .ok m :=
    parse_of_endpoints hText hSorted
  refine ⟨hLenient, hStrict, reads_manifest m _ m.isRecord_toJson, fun routePrefix => ?_⟩
  rw [hLenient, hStrict]
  rfl

end Manifest
end Switchboard
