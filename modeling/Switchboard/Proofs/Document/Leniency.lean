import Mathlib.Data.List.Forall2
import Switchboard.Document.Record

/-!
# Lenient dialects

A dialect is lenient towards another when it reads all that the other reads, and as the same, once
the values are carried over.  Leniency towards texts, flags, lists, choices and forms is leniency
towards every record, whatever its fields.  What a lenient dialect reads beyond that, and the faults
of either dialect, are not looked at here.
-/

namespace Switchboard
namespace Document

variable {V W ε η δ α β : Type}

/-- The second reader reads all that the first one reads, and as the same, once it is carried over. -/
def Carries (f : V → W) (read : V → Except ε α) (read' : W → Except η α) : Prop :=
  ∀ value a, read value = .ok a → read' (f value) = .ok a

def Form.map (f : V → W) : Form V → Form W
  | .entries given => .entries (given.map fun entry => (entry.1, f entry.2))
  | .elements given => .elements (given.map f)

/-- The dialect `lenient` presents all that `strict` presents, and as the same, once the values are
carried over by `f`. -/
structure Dialect.IsLenientTo (strict : Dialect V ε) (lenient : Dialect W η) (f : V → W) :
    Prop where
  text : Carries f strict.text lenient.text
  flag : Carries f strict.flag lenient.flag
  isNothing_eq : ∀ value, lenient.isNothing (f value) = strict.isNothing value
  list : ∀ value items, strict.list value = .ok items → lenient.list (f value) = .ok (items.map f)
  choice : ∀ type names, Carries f (strict.choice type names) (lenient.choice type names)
  form : ∀ record value form, strict.form record value = .ok form →
    lenient.form record (f value) = .ok (form.map f)
  closed : lenient.closed = true → strict.closed = true

/-! ### Readers made of readers -/

theorem Carries.map {f : V → W} {read : V → Except ε α} {read' : W → Except η α}
    (hCarries : Carries f read read') (g : α → β) :
    Carries f (fun value => (read value).map g) fun value => (read' value).map g := by
  intro value b hRead
  cases hFirst : read value with
  | error e => simp [hFirst, Except.map] at hRead
  | ok a => simpa [hFirst, hCarries value a hFirst, Except.map] using hRead

theorem Carries.bind {f : V → W} {read : V → Except ε α} {read' : W → Except η α}
    (hCarries : Carries f read read') {next : α → Except ε β} {next' : α → Except η β}
    (hNext : ∀ a b, next a = .ok b → next' a = .ok b) :
    Carries f (fun value => (read value).bind next) fun value => (read' value).bind next' := by
  intro value b hRead
  cases hFirst : read value with
  | error e => simp [hFirst, Except.bind] at hRead
  | ok a =>
      have hSecond : next a = .ok b := by simpa [hFirst, Except.bind] using hRead
      simpa [hCarries value a hFirst, Except.bind] using hNext a b hSecond

theorem readEach_carries {strict : Dialect V ε} {lenient : Dialect W η} {f : V → W}
    {read : V → Except ε α} {read' : W → Except η α} (hCarries : Carries f read read')
    (index : Nat) (values : List V) (items : List α)
    (hRead : strict.readEach read index values = .ok items) :
    lenient.readEach read' index (values.map f) = .ok items := by
  induction values generalizing index items with
  | nil => simpa [Dialect.readEach] using hRead
  | cons value values ih =>
      cases hFirst : read value with
      | error e => simp [Dialect.readEach, hFirst] at hRead
      | ok first =>
          cases hRest : strict.readEach read (index + 1) values with
          | error e => simp [Dialect.readEach, hFirst, hRest, Except.map] at hRead
          | ok rest =>
              simpa [Dialect.readEach, hFirst, hRest, hCarries value first hFirst,
                ih (index + 1) rest hRest, Except.map] using hRead

section Lenient

variable {strict : Dialect V ε} {lenient : Dialect W η} {f : V → W}
  (hLenient : strict.IsLenientTo lenient f)

include hLenient

theorem Dialect.IsLenientTo.optional {read : V → Except ε α} {read' : W → Except η α}
    (hCarries : Carries f read read') :
    Carries f (strict.optional read) (lenient.optional read') := by
  intro value o hRead
  rw [Dialect.optional] at hRead ⊢
  rw [hLenient.isNothing_eq]
  cases hNothing : strict.isNothing value with
  | true => simpa [hNothing] using hRead
  | false => exact hCarries.map some value o (by simpa [hNothing] using hRead)

theorem Dialect.IsLenientTo.listOf {read : V → Except ε α} {read' : W → Except η α}
    (hCarries : Carries f read read') : Carries f (strict.listOf read) (lenient.listOf read') := by
  intro value items hRead
  rw [Dialect.listOf] at hRead ⊢
  cases hList : strict.list value with
  | error e => simp [hList, Except.bind] at hRead
  | ok values =>
      have hEach : strict.readEach read 0 values = .ok items := by
        simpa [hList, Except.bind] using hRead
      simpa [hLenient.list value values hList, Except.bind] using
        readEach_carries hCarries 0 values items hEach

theorem Dialect.IsLenientTo.oneOf (type : String) (names : List (String × α)) (fallback : α) :
    Carries f (strict.oneOf type names fallback) (lenient.oneOf type names fallback) := by
  intro value a hRead
  rw [Dialect.oneOf] at hRead ⊢
  exact (hLenient.choice type _).map _ value a hRead

end Lenient

/-- What follows a field that must be there is carried over when the field is there. -/
theorem required_bind_carries {strict : Dialect V ε} {lenient : Dialect W η} {name : String}
    {o : Option α} {next : α → Except ε β} {next' : α → Except η β}
    (hNext : ∀ a b, next a = .ok b → next' a = .ok b) (b : β)
    (hRequired : (required strict name o).bind next = .ok b) :
    (required lenient name o).bind next' = .ok b := by
  cases o with
  | none => simp [required, Except.bind] at hRequired
  | some a => exact hNext a b hRequired

/-! ### Records -/

/-- The two fields differ only in what they are read from. -/
structure Field.CarriesTo (f : V → W) (field : Field V ε δ) (field' : Field W η δ) : Prop where
  name_eq : field'.name = field.name
  aliases_eq : field'.aliases = field.aliases
  isSet_eq : field'.isSet = field.isSet
  hasDefault_eq : field'.hasDefault = field.hasDefault
  read : ∀ draft, Carries f (field.read · draft) (field'.read · draft)

theorem Field.CarriesTo.of {f : V → W} {name : String} {hasDefault : Bool} {get : δ → Option α}
    {set : α → δ → δ} {read : V → Except ε α} {read' : W → Except η α}
    (hCarries : Carries f read read') :
    (Field.of name hasDefault get set read).CarriesTo f (Field.of name hasDefault get set read') where
  name_eq := rfl
  aliases_eq := rfl
  isSet_eq := rfl
  hasDefault_eq := rfl
  read draft := hCarries.map fun a => set a draft

theorem Field.CarriesTo.orNamed {f : V → W} {field : Field V ε δ} {field' : Field W η δ}
    (hField : field.CarriesTo f field') (key : String) :
    (field.orNamed key).CarriesTo f (field'.orNamed key) where
  name_eq := hField.name_eq
  aliases_eq := congrArg (· ++ [key]) hField.aliases_eq
  isSet_eq := hField.isSet_eq
  hasDefault_eq := hField.hasDefault_eq
  read := hField.read

theorem Field.CarriesTo.hasKey_eq {f : V → W} {field : Field V ε δ} {field' : Field W η δ}
    (hField : field.CarriesTo f field') (key : String) : field'.hasKey key = field.hasKey key := by
  rw [Field.hasKey, Field.hasKey, hField.name_eq, hField.aliases_eq]

section Records

variable {strict : Dialect V ε} {lenient : Dialect W η} {f : V → W}
  {fields : List (Field V ε δ)} {fields' : List (Field W η δ)}

/-- A key stands for fields at one place, or for none in either list. -/
theorem find?_hasKey_carries (hFields : List.Forall₂ (Field.CarriesTo f) fields fields')
    (key : String) :
    (fields.find? (·.hasKey key) = none ∧ fields'.find? (·.hasKey key) = none) ∨
      ∃ field field', fields.find? (·.hasKey key) = some field ∧
        fields'.find? (·.hasKey key) = some field' ∧ field.CarriesTo f field' := by
  induction hFields with
  | nil => exact .inl ⟨rfl, rfl⟩
  | @cons field field' fields fields' hField hFields ih =>
      have hKey := hField.hasKey_eq key
      cases hHas : field.hasKey key with
      | true => exact .inr ⟨field, field', by simp [hHas], by simp [hKey, hHas], hField⟩
      | false => simpa [hKey, hHas] using ih

theorem readEntry_carries (hFields : List.Forall₂ (Field.CarriesTo f) fields fields')
    {draft draft' : δ} {entry : String × V}
    (hRead : readEntry strict fields draft entry = .ok draft') :
    readEntry lenient fields' draft (entry.1, f entry.2) = .ok draft' := by
  rw [readEntry] at hRead ⊢
  obtain ⟨hFind, hFind'⟩ | ⟨field, field', hFind, hFind', hField⟩ :=
    find?_hasKey_carries hFields entry.1
  · simpa [hFind, hFind'] using hRead
  · cases hSet : field.isSet draft with
    | true => simp [hFind, hSet] at hRead
    | false =>
        cases hValue : field.read entry.2 draft with
        | error e => simp [hFind, hSet, hValue] at hRead
        | ok next =>
            have hValue' : field'.read (f entry.2) draft = .ok next :=
              hField.read draft entry.2 next hValue
            simpa [hFind, hFind', hField.isSet_eq, hSet, hValue, hValue'] using hRead

theorem readEntries_carries (hFields : List.Forall₂ (Field.CarriesTo f) fields fields')
    {draft draft' : δ} {entries : List (String × V)}
    (hRead : entries.foldlM (readEntry strict fields) draft = .ok draft') :
    (entries.map fun entry => (entry.1, f entry.2)).foldlM (readEntry lenient fields') draft =
      .ok draft' := by
  induction entries generalizing draft with
  | nil => simpa [pure, Except.pure] using hRead
  | cons entry entries ih =>
      rw [List.foldlM_cons] at hRead
      cases hEntry : readEntry strict fields draft entry with
      | error e => simp [hEntry, bind, Except.bind] at hRead
      | ok next =>
          have hRest : entries.foldlM (readEntry strict fields) next = .ok draft' := by
            simpa [hEntry, bind, Except.bind] using hRead
          rw [List.map_cons, List.foldlM_cons, readEntry_carries hFields hEntry]
          exact ih hRest

theorem readElements_carries (hLenient : strict.IsLenientTo lenient f)
    (hFields : List.Forall₂ (Field.CarriesTo f) fields fields') {record : String} {size : Nat} :
    ∀ {index : Nat} {values : List V} {draft draft' : δ},
      readElements strict record size index fields values draft = .ok draft' →
      readElements lenient record size index fields' (values.map f) draft = .ok draft' := by
  induction hFields with
  | nil =>
      intro index values draft draft' hRead
      -- Elements beyond the fields are a fault for a closed dialect only.
      cases values with
      | nil => simpa [readElements] using hRead
      | cons value values =>
          cases hStrict : strict.closed with
          | true => simp [readElements, hStrict] at hRead
          | false =>
              have hOpen : lenient.closed = false := by
                cases hClosed : lenient.closed with
                | false => rfl
                | true => simp [hLenient.closed hClosed] at hStrict
              simpa [readElements, hStrict, hOpen] using hRead
  | @cons field field' fields fields' hField hFields ih =>
      intro index values draft draft' hRead
      cases values with
      | nil =>
          cases hDefault : field.hasDefault with
          | false => simp [readElements, hDefault] at hRead
          | true =>
              have hLater : readElements strict record size (index + 1) fields [] draft =
                  .ok draft' := by
                simpa [readElements, hDefault] using hRead
              simpa [readElements, hField.hasDefault_eq, hDefault] using ih hLater
      | cons value values =>
          cases hValue : field.read value draft with
          | error e => simp [readElements, hValue] at hRead
          | ok next =>
              have hValue' : field'.read (f value) draft = .ok next :=
                hField.read draft value next hValue
              have hRest := ih (by simpa [readElements, hValue] using hRead)
              simpa [readElements, hValue'] using hRest

/-- A record is read alike when its fields are. -/
theorem readDraft_carries (hLenient : strict.IsLenientTo lenient f)
    (hFields : List.Forall₂ (Field.CarriesTo f) fields fields') (record : String) (empty : δ) :
    Carries f (readDraft strict record fields empty) (readDraft lenient record fields' empty) := by
  intro value draft hRead
  rw [readDraft] at hRead ⊢
  cases hForm : strict.form record value with
  | error e => simp [hForm, Except.bind] at hRead
  | ok form =>
      rw [hLenient.form record value form hForm]
      cases form with
      | entries entries =>
          have hEntries : entries.foldlM (readEntry strict fields) empty = .ok draft := by
            simpa [hForm, Except.bind] using hRead
          simpa [Form.map, Except.bind] using readEntries_carries hFields hEntries
      | elements elements =>
          have hElements : readElements strict record fields.length 0 fields elements empty =
              .ok draft := by
            simpa [hForm, Except.bind] using hRead
          rw [hFields.length_eq] at hElements
          simpa [Form.map, Except.bind] using readElements_carries hLenient hFields hElements

end Records

end Document
end Switchboard
