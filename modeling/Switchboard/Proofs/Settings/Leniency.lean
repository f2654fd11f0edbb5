import Switchboard.Json.Dialect
import Switchboard.Manifest
import Switchboard.Proofs.Document.Leniency
import Switchboard.Settings.Dialect

/-!
# Settings read leniently

What is read from JSON strictly is read alike from the settings that hold the same JSON, although
settings are read leniently: a text that looks like a flag or a number stays a text, as no text is
wanted as a flag where the strict reading succeeds.  This holds for every dialect that is lenient
towards another, and so for declarations and manifests in every spelling that can be read strictly.
-/

namespace Switchboard

open Document (Carries Dialect Field)

namespace Setting

open Json (Value)

theorem ofJsonItems_eq_map (origin : Option String) (items : List Value) :
    ofJsonItems origin items = items.map (ofJson origin) := by
  induction items with
  | nil => rfl
  | cons item rest ih => rw [ofJsonItems, ih, List.map_cons]

theorem ofJsonFields_eq_map (origin : Option String) (fields : List (String × Value)) :
    ofJsonFields origin fields = fields.map fun field => (field.1, ofJson origin field.2) := by
  induction fields with
  | nil => rfl
  | cons field rest ih => rw [ofJsonFields, ih, List.map_cons]

/-- A name that is chosen strictly is chosen by the same setting. -/
theorem readChoice_carries (origin : Option String) (type : String) (names : List String) :
    Carries (ofJson origin) (Json.dialect.choice type names) (dialect.choice type names) := by
  have hName {name chosen : String} (hRead : Json.readName names name = .ok chosen) :
      (if names.contains name then Except.ok name else Except.error (Fault.unknownName type name)) =
        .ok chosen := by
    rw [Json.readName] at hRead
    split at hRead <;> simp_all
  intro value chosen hRead
  replace hRead : Json.readChoice names value = .ok chosen := hRead
  cases value with
  | text name => exact hName hRead
  | object fields =>
      match fields with
      | [(name, content)] =>
          cases hFound : Json.readName names name with
          | error e => simp [Json.readChoice, hFound, Except.bind] at hRead
          | ok found =>
              cases content with
              | null =>
                  obtain rfl : found = chosen := by
                    simpa [Json.readChoice, hFound, Except.bind] using hRead
                  exact hName hFound
              | _ => simp [Json.readChoice, hFound, Except.bind] at hRead
      | [] | _ :: _ :: _ => simp [Json.readChoice] at hRead
  | _ => simp [Json.readChoice] at hRead

/-- Settings are lenient towards JSON. -/
theorem isLenientTo_json (origin : Option String) :
    Json.dialect.IsLenientTo dialect (ofJson origin) where
  text value s hRead := by
    cases value with
    | text t =>
        obtain rfl : t = s := by simpa [Json.dialect, Json.readText] using hRead
        rfl
    | _ => simp [Json.dialect, Json.readText] at hRead
  flag value flag hRead := by
    cases value with
    | bool found =>
        obtain rfl : found = flag := by simpa [Json.dialect, Json.readFlag] using hRead
        rfl
    | _ => simp [Json.dialect, Json.readFlag] at hRead
  isNothing_eq value := by
    cases value with
    | integer n =>
        rw [ofJson]
        split <;> rfl
    | _ => rfl
  list value items hRead := by
    cases value with
    | array found =>
        obtain rfl : found = items := by simpa [Json.dialect, Json.readList] using hRead
        rw [← ofJsonItems_eq_map]
        rfl
    | _ => simp [Json.dialect, Json.readList] at hRead
  choice := readChoice_carries origin
  form record value form hRead := by
    cases value with
    | array items =>
        obtain rfl : .elements items = form := by simpa [Json.dialect, Json.readForm] using hRead
        rw [Document.Form.map, ← ofJsonItems_eq_map]
        rfl
    | object fields =>
        obtain rfl : .entries fields = form := by simpa [Json.dialect, Json.readForm] using hRead
        rw [Document.Form.map, ← ofJsonFields_eq_map]
        rfl
    | _ => simp [Json.dialect, Json.readForm] at hRead
  closed := nofun

end Setting

/-! ### Declarations and manifests -/

section Lenient

variable {V W ε η : Type} {strict : Dialect V ε} {lenient : Dialect W η} {f : V → W}
  (hLenient : strict.IsLenientTo lenient f)

include hLenient

namespace Endpoint

theorem RequestType.read_carries :
    Carries f (RequestType.read strict) (RequestType.read lenient) := by
  have hFields : List.Forall₂ (Field.CarriesTo f) (RequestType.fields strict)
      (RequestType.fields lenient) :=
    .cons (.of (hLenient.optional hLenient.text)) <| .cons (.of hLenient.flag) .nil
  exact (Document.readDraft_carries hLenient hFields _ _).map _

theorem Param.read_carries : Carries f (Param.read strict) (Param.read lenient) := by
  have hFields : List.Forall₂ (Field.CarriesTo f) (Param.fields strict) (Param.fields lenient) :=
    .cons (.of hLenient.text) <| .cons (.of hLenient.text) .nil
  refine (Document.readDraft_carries hLenient hFields _ _).bind fun draft p => ?_
  refine Document.required_bind_carries (fun name p => ?_) p
  refine Document.required_bind_carries (fun type p hDone => ?_) p
  cases hDone
  rfl

theorem Signature.read_carries : Carries f (Signature.read strict) (Signature.read lenient) := by
  have hFields : List.Forall₂ (Field.CarriesTo f) (Signature.fields strict)
      (Signature.fields lenient) :=
    .cons (.of (hLenient.listOf (Param.read_carries hLenient))) <|
    .cons (.of (hLenient.optional hLenient.text)) .nil
  exact (Document.readDraft_carries hLenient hFields _ _).map _

/-- A declaration that is read strictly is read leniently as the same. -/
theorem Declaration.read_carries :
    Carries f (Declaration.read strict) (Declaration.read lenient) := by
  have hFields : List.Forall₂ (Field.CarriesTo f) (Declaration.fields strict)
      (Declaration.fields lenient) :=
    .cons (.of hLenient.text) <|
    .cons (.of hLenient.text) <|
    .cons (.orNamed (.of (hLenient.oneOf _ _ _)) _) <|
    .cons (.of (hLenient.optional hLenient.text)) <|
    .cons (.of (hLenient.optional hLenient.text)) <|
    .cons (.orNamed (.of (hLenient.listOf (hLenient.oneOf _ _ _))) _) <|
    .cons (.orNamed (.of hLenient.flag) _) <|
    .cons (.orNamed (.of (hLenient.optional hLenient.text)) _) <|
    .cons (.of (hLenient.optional (RequestType.read_carries hLenient))) <|
    .cons (.of (hLenient.optional (RequestType.read_carries hLenient))) <|
    .cons (.of (hLenient.optional (Signature.read_carries hLenient))) .nil
  refine (Document.readDraft_carries hLenient hFields _ _).bind fun draft d => ?_
  refine Document.required_bind_carries (fun name d => ?_) d
  refine Document.required_bind_carries (fun method d hDone => ?_) d
  cases hDone
  rfl

end Endpoint

/-- A manifest that is read strictly is read leniently as the same. -/
theorem Manifest.read_carries : Carries f (Manifest.read strict) (Manifest.read lenient) := by
  have hFields : List.Forall₂ (Field.CarriesTo f) (Manifest.fields strict)
      (Manifest.fields lenient) :=
    .cons (.of (hLenient.listOf (Endpoint.Declaration.read_carries hLenient))) .nil
  exact (Document.readDraft_carries hLenient hFields _ _).map _

end Lenient

end Switchboard
