import Mathlib.Logic.Function.Basic
import Switchboard.Proofs.Document.Record

/-!
# Records of texts

A record all of whose fields are texts, some of which may be left out, is read from a document by its
description alone.  From entries with different keys that all hold texts it is read in any dialect as
what the texts under its names make of it, and not at all if a text is missing that may not be left
out (`TextRecord.toOption_read`).  So two documents that hold the same texts give the same record,
whatever their formats and the order of their entries.

A record that is read into a draft of another kind is read as before where the drafts stand for each
other (`readDraft_agree`).
-/

namespace Switchboard
namespace Document

variable {V ε δ δ' ρ α : Type}

/-! ### Descriptions -/

/-- A field that holds a text. -/
structure TextField where
  name : String
  /-- Whether the record may be without the text. -/
  isOptional : Bool
  /-- Whether a record given by its elements may end before the field. -/
  hasDefault : Bool

/-- A record of texts: its name, its fields, and its contents where these texts are held under its
names. -/
structure TextRecord (ρ : Type) where
  name : String
  fields : List TextField
  names_nodup : (fields.map (·.name)).Nodup
  make : (String → Option String) → ρ

/-- Texts that are being read, by the names of their fields; an optional one may be read as none. -/
abbrev TextDraft : Type := String → Option (Option String)

/-- The text of a field, or none where an optional one is nothing. -/
def TextField.readValue (field : TextField) (dialect : Dialect V ε) (value : V) :
    Except ε (Option String) :=
  if field.isOptional then dialect.optional dialect.text value
  else (dialect.text value).map some

/-- A draft with a text under a name. -/
def TextDraft.set (name : String) (text : Option String) (draft : TextDraft) : TextDraft :=
  Function.update draft name (some text)

def TextField.toField (dialect : Dialect V ε) (field : TextField) : Field V ε TextDraft :=
  .of field.name field.hasDefault (· field.name) (TextDraft.set field.name)
    (field.readValue dialect)

/-- Whether a text is missing that may not be left out. -/
def TextField.isMissing (draft : TextDraft) (field : TextField) : Bool :=
  !field.isOptional && (draft field.name).isNone

/-- The record that a draft gives; the first text that is missing is reported. -/
def TextRecord.finish (record : TextRecord ρ) (dialect : Dialect V ε) (draft : TextDraft) :
    Except ε ρ :=
  match record.fields.find? (·.isMissing draft) with
  | some field => .error (dialect.fault (.missingField field.name))
  | none => .ok (record.make fun name => (draft name).getD none)

/-- The record that a value holds. -/
def TextRecord.read (record : TextRecord ρ) (dialect : Dialect V ε) (value : V) : Except ε ρ :=
  (readDraft dialect record.name (record.fields.map (·.toField dialect)) (fun _ => none) value).bind
    (record.finish dialect)

/-! ### What is read from texts -/

/-- Each key comes once, every value is a text, and these are the texts under their names. -/
structure HoldTexts (dialect : Dialect V ε) (entries : List (String × V))
    (texts : String → Option String) : Prop where
  keys_nodup : (entries.map (·.1)).Nodup
  isText : ∀ entry ∈ entries, (∃ text, dialect.text entry.2 = .ok text) ∧
    dialect.isNothing entry.2 = false
  find?_eq : ∀ name, ((entries.find? (·.1 == name)).bind fun entry =>
    (dialect.text entry.2).toOption) = texts name

/-- What the texts under its names make of a record, if none is missing that may not be left out. -/
def TextRecord.ofTexts? (record : TextRecord ρ) (texts : String → Option String) : Option ρ :=
  if ∀ field ∈ record.fields, field.isOptional = true ∨ (texts field.name).isSome = true then
    some (record.make fun name => if name ∈ record.fields.map (·.name) then texts name else none)
  else none

/-- A record that is made of texts holds them under the names of its fields. -/
theorem TextRecord.exists_of_ofTexts? {record : TextRecord ρ} {texts : String → Option String}
    {contents : ρ} (hMade : record.ofTexts? texts = some contents) :
    ∃ own, contents = record.make own ∧
      ∀ field ∈ record.fields, own field.name = texts field.name := by
  unfold ofTexts? at hMade
  split_ifs at hMade
  exact ⟨_, (Option.some.inj hMade).symm, fun field hField => if_pos (List.mem_map_of_mem hField)⟩

theorem TextField.readValue_of_text (field : TextField) {dialect : Dialect V ε} {value : V}
    {text : String} (hText : dialect.text value = .ok text)
    (hThere : dialect.isNothing value = false) :
    field.readValue dialect value = .ok (some text) := by
  rw [readValue, Dialect.optional, hThere, hText]
  cases field.isOptional <;> rfl

/-- What no field shows is as before when entries have been read. -/
theorem get_of_readEntries_of_forall {dialect : Dialect V ε} {fields : List (Field V ε δ)}
    (get : δ → α) (hKeep : ∀ field ∈ fields, ∀ value draft draft',
      field.read value draft = .ok draft' → get draft' = get draft)
    {entries : List (String × V)} {draft draft' : δ}
    (hRead : entries.foldlM (readEntry dialect fields) draft = .ok draft') :
    get draft' = get draft := by
  induction entries generalizing draft with
  | nil => exact congrArg get (Except.ok.inj hRead).symm
  | cons entry entries ih =>
      rw [List.foldlM_cons] at hRead
      cases hFirst : readEntry dialect fields draft entry with
      | error e => rw [hFirst] at hRead; nomatch hRead
      | ok next =>
          rw [hFirst] at hRead
          refine (ih hRead).trans ?_
          unfold readEntry at hFirst
          split at hFirst
          · exact congrArg get (Except.ok.inj hFirst).symm
          · rename_i field hFind
            split_ifs at hFirst
            split at hFirst
            · nomatch hFirst
            · rename_i own hOwn
              obtain rfl := Except.ok.inj hFirst
              exact hKeep field (List.mem_of_find?_eq_some hFind) _ _ _ hOwn

section Reading

variable {dialect : Dialect V ε} (record : TextRecord ρ)

theorem TextRecord.governs {field : TextField} (hField : field ∈ record.fields) :
    (field.toField dialect).Governs (record.fields.map (·.toField dialect)) (· field.name)
      (field.readValue dialect) where
  mem := List.mem_map_of_mem hField
  isSet_eq _ := rfl
  own := Field.get_of_read_of field.name field.hasDefault fun _ _ => Function.update_self ..
  others := by
    intro other hOther
    obtain ⟨own, hOwn, rfl⟩ := List.mem_map.mp hOther
    by_cases hName : own.name = field.name
    · have hSame := List.inj_on_of_nodup_map record.names_nodup hOwn hField hName
      exact Or.inl (congrArg (TextField.toField dialect) hSame)
    · refine Or.inr (.of ?_ fun text draft => Function.update_of_ne (Ne.symm hName) ..)
      intro key hKey hMem
      obtain rfl : key = field.name := by simpa [Field.keys, TextField.toField, Field.of] using hKey
      exact hName (List.mem_singleton.mp hMem).symm

variable {value : V} {entries : List (String × V)} {texts : String → Option String}

/-- Entries that hold texts are read into the draft that holds these texts. -/
theorem TextRecord.exists_readDraft (hForm : dialect.form record.name value = .ok (.entries entries))
    (hTexts : HoldTexts dialect entries texts) :
    readDraft dialect record.name (record.fields.map (·.toField dialect)) (fun _ => none) value =
      .ok fun name => if name ∈ record.fields.map (·.name) then (texts name).map some else none := by
  have hTakes : ∀ entry ∈ entries, ∀ field ∈ record.fields.map (·.toField dialect),
      field.name = entry.1 → field.Takes (record.fields.map (·.toField dialect)) entry.2 := by
    intro entry hEntry field hField _
    obtain ⟨own, hOwn, rfl⟩ := List.mem_map.mp hField
    obtain ⟨⟨text, hText⟩, hThere⟩ := hTexts.isText entry hEntry
    refine .of (own.readValue_of_text hText hThere) fun other hOther => ?_
    obtain ⟨another, hAnother, rfl⟩ := List.mem_map.mp hOther
    by_cases hName : another.name = own.name
    · have hSame := List.inj_on_of_nodup_map record.names_nodup hAnother hOwn hName
      exact Or.inl (congrArg (TextField.toField dialect) hSame)
    · exact Or.inr fun a draft => congrArg Option.isSome (Function.update_of_ne hName ..)
  have hPlain : ∀ field ∈ record.fields.map (·.toField dialect), field.aliases = [] := by
    intro field hField
    obtain ⟨own, -, rfl⟩ := List.mem_map.mp hField
    rfl
  obtain ⟨draft, hDraft⟩ : ∃ draft, entries.foldlM
      (readEntry dialect (record.fields.map (·.toField dialect))) (fun _ => none) = .ok draft := by
    refine exists_readEntries_eq_ok hPlain hTexts.keys_nodup hTakes _ fun field hField _ => ?_
    obtain ⟨own, -, rfl⟩ := List.mem_map.mp hField
    rfl
  have hSame : draft = fun name =>
      if name ∈ record.fields.map (·.name) then (texts name).map some else none := by
    funext name
    split_ifs with hName
    · obtain ⟨field, hField, rfl⟩ := List.mem_map.mp hName
      have hGet := (record.governs hField).get_eq_of_readEntries rfl hDraft
      simp only [TextField.toField, Field.hasKey_of] at hGet
      rw [hGet, ← hTexts.find?_eq field.name]
      cases hFind : entries.find? (·.1 == field.name) with
      | none => rfl
      | some entry =>
          obtain ⟨⟨text, hText⟩, hThere⟩ := hTexts.isText entry (List.mem_of_find?_eq_some hFind)
          simp only [Option.bind_some, field.readValue_of_text hText hThere, hText,
            Except.toOption, Option.map_some]
    · refine get_of_readEntries_of_forall (fun draft : TextDraft => draft name) ?_ hDraft
      intro field hField value draft draft' hRead
      obtain ⟨own, hOwn, rfl⟩ := List.mem_map.mp hField
      obtain ⟨text, -, rfl⟩ := Field.read_of_eq_ok_iff.mp hRead
      exact Function.update_of_ne (fun hSame => hName (List.mem_map.mpr ⟨own, hOwn, hSame.symm⟩)) ..
  rw [readDraft, hForm]
  exact hSame ▸ hDraft

/-- **Entries that hold texts give what the texts make of the record.** -/
theorem TextRecord.toOption_read (hForm : dialect.form record.name value = .ok (.entries entries))
    (hTexts : HoldTexts dialect entries texts) :
    (record.read dialect value).toOption = record.ofTexts? texts := by
  have hMissing : ∀ field ∈ record.fields,
      field.isMissing (fun name =>
        if name ∈ record.fields.map (·.name) then (texts name).map some else none) = false ↔
      field.isOptional = true ∨ (texts field.name).isSome = true := by
    intro field hField
    have hName : field.name ∈ record.fields.map (·.name) := List.mem_map_of_mem hField
    rw [TextField.isMissing, if_pos hName]
    cases field.isOptional <;> cases texts field.name <;> simp
  rw [TextRecord.read, record.exists_readDraft hForm hTexts, Except.bind, TextRecord.finish,
    TextRecord.ofTexts?]
  cases hFind : record.fields.find? _ with
  | some field =>
      have hField := List.mem_of_find?_eq_some hFind
      rw [if_neg fun hAll => absurd ((hMissing field hField).mpr (hAll field hField))
        (ne_false_of_eq_true (List.find?_some hFind))]
      rfl
  | none =>
      rw [if_pos fun field hField => (hMissing field hField).mp
        (eq_false_of_ne_true (List.find?_eq_none.mp hFind field hField))]
      simp only [Except.toOption]
      congr 2
      funext name
      split_ifs
      · cases texts name <;> rfl
      · rfl

end Reading

/-! ### Drafts that stand for each other -/

/-- Two results are one fault, or values that stand for each other. -/
inductive Agree {α β : Type} (Stands : α → β → Prop) : Except ε α → Except ε β → Prop
  | ok {a : α} {b : β} (hStands : Stands a b) : Agree Stands (.ok a) (.ok b)
  | error (e : ε) : Agree Stands (.error e) (.error e)

/-- The fields have the same keys and give drafts that stand for each other. -/
structure Field.IsAlike (Stands : δ → δ' → Prop) (field : Field V ε δ) (field' : Field V ε δ') :
    Prop where
  hasKey_eq : ∀ key, field.hasKey key = field'.hasKey key
  name_eq : field.name = field'.name
  hasDefault_eq : field.hasDefault = field'.hasDefault
  isSet_eq : ∀ draft draft', Stands draft draft' → field.isSet draft = field'.isSet draft'
  read : ∀ value draft draft', Stands draft draft' →
    Agree Stands (field.read value draft) (field'.read value draft')

theorem Field.IsAlike.of {β : Type} {Stands : δ → δ' → Prop} (Fits : α → β → Prop) {name : String}
    {hasDefault : Bool} {get : δ → Option α} {set : α → δ → δ} {read : V → Except ε α}
    {get' : δ' → Option β} {set' : β → δ' → δ'} {read' : V → Except ε β}
    (hGet : ∀ draft draft', Stands draft draft' → (get draft).isSome = (get' draft').isSome)
    (hSet : ∀ a b draft draft', Fits a b → Stands draft draft' →
      Stands (set a draft) (set' b draft'))
    (hRead : ∀ value, Agree Fits (read value) (read' value)) :
    (Field.of name hasDefault get set read).IsAlike Stands
      (.of name hasDefault get' set' read') where
  hasKey_eq key := by rw [Field.hasKey_of, Field.hasKey_of]
  name_eq := rfl
  hasDefault_eq := rfl
  isSet_eq := hGet
  read value draft draft' hStands := by
    have hValue := hRead value
    simp only [Field.of]
    generalize read value = result at hValue ⊢
    generalize read' value = result' at hValue ⊢
    cases hValue with
    | ok hFits => exact .ok (hSet _ _ _ _ hFits hStands)
    | error e => exact .error e

section Alike

variable {Stands : δ → δ' → Prop} {dialect : Dialect V ε} {fields : List (Field V ε δ)}
  {fields' : List (Field V ε δ')} (hFields : List.Forall₂ (Field.IsAlike Stands) fields fields')

include hFields

theorem find?_hasKey_alike (key : String) :
    Option.Rel (Field.IsAlike Stands) (fields.find? (·.hasKey key))
      (fields'.find? (·.hasKey key)) := by
  induction hFields with
  | nil => exact .none
  | @cons field field' fields fields' hField _ ih =>
      rw [List.find?_cons, List.find?_cons, hField.hasKey_eq]
      cases field'.hasKey key with
      | true => exact .some hField
      | false => exact ih

theorem readEntry_agree (entry : String × V) {draft : δ} {draft' : δ'}
    (hStands : Stands draft draft') :
    Agree Stands (readEntry dialect fields draft entry)
      (readEntry dialect fields' draft' entry) := by
  have hFind := find?_hasKey_alike hFields entry.1
  unfold readEntry
  generalize fields.find? (·.hasKey entry.1) = found at hFind ⊢
  generalize fields'.find? (·.hasKey entry.1) = found' at hFind ⊢
  cases hFind with
  | none => exact .ok hStands
  | @some field field' hField =>
      have hRead := hField.read entry.2 draft draft' hStands
      simp only [hField.isSet_eq draft draft' hStands, hField.name_eq]
      split_ifs
      · exact .error _
      · generalize field.read entry.2 draft = result at hRead ⊢
        generalize field'.read entry.2 draft' = result' at hRead ⊢
        cases hRead with
        | ok hNext => exact .ok hNext
        | error e => exact .error _

theorem readEntries_agree (entries : List (String × V)) {draft : δ} {draft' : δ'}
    (hStands : Stands draft draft') :
    Agree Stands (entries.foldlM (readEntry dialect fields) draft)
      (entries.foldlM (readEntry dialect fields') draft') := by
  induction entries generalizing draft draft' with
  | nil => exact .ok hStands
  | cons entry entries ih =>
      have hFirst : Agree Stands (readEntry dialect fields draft entry)
          (readEntry dialect fields' draft' entry) := readEntry_agree hFields entry hStands
      rw [List.foldlM_cons, List.foldlM_cons]
      generalize readEntry dialect fields draft entry = result at hFirst ⊢
      generalize readEntry dialect fields' draft' entry = result' at hFirst ⊢
      cases hFirst with
      | ok hNext => exact ih hNext
      | error e => exact .error e

theorem readElements_agree (record : String) (size index : Nat) (elements : List V) {draft : δ}
    {draft' : δ'} (hStands : Stands draft draft') :
    Agree Stands (readElements dialect record size index fields elements draft)
      (readElements dialect record size index fields' elements draft') := by
  induction hFields generalizing index elements draft draft' with
  | nil =>
      rw [readElements, readElements]
      split_ifs
      · exact .error _
      · exact .ok hStands
  | @cons field field' fields fields' hField _ ih =>
      cases elements with
      | nil =>
          rw [readElements, readElements, hField.hasDefault_eq]
          split_ifs
          · exact ih _ _ hStands
          · exact .error _
      | cons value elements =>
          have hRead := hField.read value draft draft' hStands
          rw [readElements, readElements]
          generalize field.read value draft = result at hRead ⊢
          generalize field'.read value draft' = result' at hRead ⊢
          cases hRead with
          | ok hNext => exact ih _ _ hNext
          | error e => exact .error _

/-- Fields that are alike read a record into drafts that stand for each other. -/
theorem readDraft_agree (dialect : Dialect V ε) (record : String) {empty : δ} {empty' : δ'}
    (hEmpty : Stands empty empty') (value : V) :
    Agree Stands (readDraft dialect record fields empty value)
      (readDraft dialect record fields' empty' value) := by
  unfold readDraft
  cases dialect.form record value with
  | error e => exact .error e
  | ok form =>
      cases form with
      | entries entries => exact readEntries_agree hFields entries hEmpty
      | elements elements =>
          simp only [Except.bind, hFields.length_eq]
          exact readElements_agree hFields record _ 0 elements hEmpty

end Alike

section Texts

variable {Stands : TextDraft → δ → Prop} {dialect : Dialect V ε}

/-- A text that may not be left out is kept as a text. -/
theorem TextField.isAlike_of_required (field : TextField) (hRequired : field.isOptional = false)
    {get : δ → Option String} {set : String → δ → δ}
    (hGet : ∀ draft draft', Stands draft draft' →
      (draft field.name).isSome = (get draft').isSome)
    (hSet : ∀ text draft draft', Stands draft draft' →
      Stands (draft.set field.name (some text)) (set text draft')) :
    (field.toField dialect).IsAlike Stands
      (.of field.name field.hasDefault get set dialect.text) := by
  refine .of (fun text? text => text? = some text) hGet ?_ fun value => ?_
  · rintro _ text draft draft' rfl hStands
    exact hSet text draft draft' hStands
  · rw [readValue, hRequired]
    cases dialect.text value with
    | error e => exact .error e
    | ok text => exact .ok rfl

/-- A record of texts can be read through drafts of another kind. -/
theorem TextRecord.read_eq (record : TextRecord ρ) (Stands : TextDraft → δ → Prop)
    {fields : List (Field V ε δ)}
    (hFields : List.Forall₂ (Field.IsAlike Stands) (record.fields.map (·.toField dialect)) fields)
    {empty : δ} (hEmpty : Stands (fun _ => none) empty) {finish : δ → Except ε ρ}
    (hFinish : ∀ draft draft', Stands draft draft' →
      record.finish dialect draft = finish draft') (value : V) :
    record.read dialect value =
      (readDraft dialect record.name fields empty value).bind finish := by
  have hAgree := readDraft_agree hFields dialect record.name hEmpty value
  rw [TextRecord.read]
  generalize readDraft dialect record.name (record.fields.map _) _ value = result at hAgree ⊢
  generalize readDraft dialect record.name fields empty value = result' at hAgree ⊢
  cases hAgree with
  | ok hStands => exact hFinish _ _ hStands
  | error e => rfl

end Texts

end Document
end Switchboard
