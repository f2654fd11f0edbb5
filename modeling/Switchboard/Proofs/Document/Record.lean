import Mathlib.Data.List.Forall2
import Mathlib.Data.List.Nodup
import Mathlib.Data.List.Perm.Subperm
import Switchboard.Document.Record

/-!
# What a record is read from

Two sides of reading a record.  Forwards: a record has a spelling, which says of each field under
which keys it may stand, which values give it, and whether it may be left out; where every field
accepts its spelling, entries in any order and elements in the order of the fields are read without
a fault.  Backwards: once reading has succeeded, a field that alone governs a place of the draft was
given by exactly one entry or by none, and the place holds the value read from that entry.  Entries
with different keys are all read where each field takes the value under its name.  Nothing is said
here about which fault is found first.
-/

namespace Switchboard
namespace Document

variable {V ε δ α : Type}

/-- The spellings of a field's name. -/
def Field.keys (field : Field V ε δ) : List String :=
  field.name :: field.aliases

theorem Field.hasKey_iff {field : Field V ε δ} {key : String} :
    field.hasKey key = true ↔ key ∈ field.keys := by
  rw [Field.hasKey, Field.keys, Bool.or_eq_true, beq_iff_eq, List.contains_iff_mem, List.mem_cons,
    eq_comm (a := key)]

theorem Field.read_of_eq_ok_iff {name : String} {hasDefault : Bool} {get : δ → Option α}
    {set : α → δ → δ} {read : V → Except ε α} {value : V} {draft draft' : δ} :
    (Field.of name hasDefault get set read).read value draft = .ok draft' ↔
      ∃ a, read value = .ok a ∧ set a draft = draft' := by
  cases hValue : read value with
  | error e => simp [Field.of, hValue, Except.map]
  | ok a => simp [Field.of, hValue, Except.map]

theorem Field.hasKey_of (name : String) (hasDefault : Bool) (get : δ → Option α)
    (set : α → δ → δ) (read : V → Except ε α) (key : String) :
    (Field.of name hasDefault get set read).hasKey key = (key == name) := by
  simp [Field.hasKey, Field.of, Bool.beq_comm]

/-! ## Spellings -/

/-- How one field of a record may be written down. -/
structure FieldSpelling (V : Type) where
  name : String
  aliases : List String
  /-- The values that give the field what the record has there. -/
  IsValue : V → Prop
  /-- Whether the record may be written without the field. -/
  MayBeOmitted : Prop

def FieldSpelling.keys (spelling : FieldSpelling V) : List String :=
  spelling.name :: spelling.aliases

/-- The entry gives the field under one of its keys. -/
def FieldSpelling.IsEntry (spelling : FieldSpelling V) (entry : String × V) : Prop :=
  entry.1 ∈ spelling.keys ∧ spelling.IsValue entry.2

/-- The form writes the record down: entries give fields, each at most once and in any order, and
only fields that may be omitted are not given; elements give all fields in order. -/
inductive IsSpelledBy (spellings : List (FieldSpelling V)) : Form V → Prop
  | entries (given : List (FieldSpelling V)) (entries : List (String × V))
      (subperm : given.Subperm spellings)
      (each : List.Forall₂ FieldSpelling.IsEntry given entries)
      (rest : ∀ s ∈ spellings, s ∈ given ∨ s.MayBeOmitted) :
      IsSpelledBy spellings (.entries entries)
  | elements (values : List V) (each : List.Forall₂ FieldSpelling.IsValue spellings values) :
      IsSpelledBy spellings (.elements values)

/-- The entries of all fields in order, each under its own name. -/
theorem IsSpelledBy.of_forall₂ {spellings : List (FieldSpelling V)} {entries : List (String × V)}
    (each : List.Forall₂ FieldSpelling.IsEntry spellings entries) :
    IsSpelledBy spellings (.entries entries) :=
  .entries spellings entries (List.Subperm.refl _) each fun _ hs => Or.inl hs

/-- A field reads the values of its spelling into the drafts of a record, where `part seen` is the
draft that holds the fields named in `seen`. -/
structure Field.Accepts (part : List String → δ) (field : Field V ε δ)
    (spelling : FieldSpelling V) : Prop where
  name_eq : field.name = spelling.name
  aliases_eq : field.aliases = spelling.aliases
  isSet_eq : ∀ seen, spelling.name ∉ seen → field.isSet (part seen) = false
  read_eq : ∀ seen value, spelling.name ∉ seen → spelling.IsValue value →
    field.read value (part seen) = .ok (part (spelling.name :: seen))

theorem Field.Accepts.hasKey_iff {part : List String → δ} {field : Field V ε δ}
    {spelling : FieldSpelling V} (h : field.Accepts part spelling) {key : String} :
    field.hasKey key = true ↔ key ∈ spelling.keys := by
  rw [Field.hasKey_iff, Field.keys, h.name_eq, h.aliases_eq, FieldSpelling.keys]

/-- A field that keeps a value in the draft's place for it accepts the values that are read as the
record's own. -/
theorem Field.Accepts.of {part : List String → δ} {name : String} {hasDefault : Bool}
    {get : δ → Option α} {set : α → δ → δ} {read : V → Except ε α} {IsValue : V → Prop}
    {omitted : Prop} (a : α) (hGet : ∀ seen, get (part seen) = if name ∈ seen then some a else none)
    (hSet : ∀ seen, set a (part seen) = part (name :: seen))
    (hRead : ∀ value, IsValue value → read value = .ok a) :
    (Field.of name hasDefault get set read).Accepts part ⟨name, [], IsValue, omitted⟩ where
  name_eq := rfl
  aliases_eq := rfl
  isSet_eq seen hUnseen := by
    simp only at hUnseen
    simp [Field.of, hGet, hUnseen]
  read_eq seen value _ hValue := by simp [Field.of, hRead value hValue, hSet, Except.map]

theorem Field.Accepts.orNamed {part : List String → δ} {field : Field V ε δ} {name : String}
    {IsValue : V → Prop} {omitted : Prop} (h : field.Accepts part ⟨name, [], IsValue, omitted⟩)
    (key : String) : (field.orNamed key).Accepts part ⟨name, [key], IsValue, omitted⟩ where
  name_eq := h.name_eq
  aliases_eq := congrArg (· ++ [key]) h.aliases_eq
  isSet_eq := h.isSet_eq
  read_eq := h.read_eq

/-- No key spells two fields. -/
def AreApart (spellings : List (FieldSpelling V)) : Prop :=
  (spellings.flatMap FieldSpelling.keys).Nodup

theorem AreApart.nodup_name {spellings : List (FieldSpelling V)} (h : AreApart spellings) :
    (spellings.map (·.name)).Nodup := by
  rw [AreApart, List.nodup_flatMap] at h
  rw [List.Nodup, List.pairwise_map]
  refine h.2.imp fun {s t} hDisjoint heq => ?_
  have hs : s.name ∈ s.keys := List.mem_cons_self
  have ht : s.name ∈ t.keys := heq ▸ List.mem_cons_self
  exact hDisjoint hs ht

/-- Fields after the first have not been seen once the first one has. -/
theorem name_notMem_cons {s : FieldSpelling V} {rest : List (FieldSpelling V)} {seen : List String}
    (hNodup : ((s :: rest).map (·.name)).Nodup) (hUnseen : ∀ t ∈ s :: rest, t.name ∉ seen) :
    ∀ t ∈ rest, t.name ∉ s.name :: seen := by
  intro t ht hin
  have hFresh : s.name ∉ rest.map (·.name) := (List.nodup_cons.mp hNodup).1
  rcases List.mem_cons.mp hin with heq | hin
  · exact hFresh (List.mem_map.mpr ⟨t, ht, heq⟩)
  · exact hUnseen t (List.mem_cons_of_mem _ ht) hin

section Accepting

variable {dialect : Dialect V ε} {fields : List (Field V ε δ)}
  {spellings : List (FieldSpelling V)} {part : List String → δ}

/-- The first field with the key accepts the spelling that has the key. -/
theorem exists_find?_hasKey_eq_some
    (hAccepts : List.Forall₂ (Field.Accepts part) fields spellings) (hApart : AreApart spellings)
    {spelling : FieldSpelling V} (hMem : spelling ∈ spellings) {key : String}
    (hKey : key ∈ spelling.keys) :
    ∃ field, fields.find? (·.hasKey key) = some field ∧ field.Accepts part spelling := by
  induction hAccepts with
  | nil => simp at hMem
  | @cons field s fields spellings hField hAccepts ih =>
    obtain ⟨-, hTail, hDisjoint⟩ := List.nodup_append.mp hApart
    rcases List.mem_cons.mp hMem with rfl | hMem'
    · have hHas : field.hasKey key = true := hField.hasKey_iff.mpr hKey
      exact ⟨field, by simp [hHas], hField⟩
    · have hNot : ¬field.hasKey key = true := fun hHas =>
        hDisjoint key (hField.hasKey_iff.mp hHas) key
          (List.mem_flatMap.mpr ⟨spelling, hMem', hKey⟩) rfl
      obtain ⟨found, hFound, hFoundAccepts⟩ := ih hTail hMem'
      exact ⟨found, by simp [hNot, hFound], hFoundAccepts⟩

/-- One entry of a field that has not been seen adds the field to the draft. -/
theorem readEntry_of_isEntry
    (hAccepts : List.Forall₂ (Field.Accepts part) fields spellings) (hApart : AreApart spellings)
    {spelling : FieldSpelling V} (hMem : spelling ∈ spellings) {entry : String × V}
    (hEntry : spelling.IsEntry entry) {seen : List String} (hUnseen : spelling.name ∉ seen) :
    readEntry dialect fields (part seen) entry = .ok (part (spelling.name :: seen)) := by
  obtain ⟨field, hFind, hField⟩ :=
    exists_find?_hasKey_eq_some hAccepts hApart hMem hEntry.1
  have hSet := hField.isSet_eq seen hUnseen
  have hRead := hField.read_eq seen entry.2 hUnseen hEntry.2
  simp [readEntry, hFind, hSet, hRead]

/-- Entries of different fields that have not been seen add these fields to the draft. -/
theorem readEntries_of_forall₂
    (hAccepts : List.Forall₂ (Field.Accepts part) fields spellings) (hApart : AreApart spellings)
    {given : List (FieldSpelling V)} {entries : List (String × V)}
    (hEach : List.Forall₂ FieldSpelling.IsEntry given entries) :
    ∀ {seen : List String}, given ⊆ spellings → (given.map (·.name)).Nodup →
      (∀ s ∈ given, s.name ∉ seen) →
      entries.foldlM (readEntry dialect fields) (part seen) =
        .ok (part ((given.map (·.name)).reverse ++ seen)) := by
  -- What has been seen grows with each entry, so the induction is over all that may be seen.
  induction hEach with
  | nil => intros; rfl
  | @cons s entry given entries hEntry hEach ih =>
    intro seen hSub hNodup hUnseen
    obtain ⟨hs, hGiven⟩ := List.cons_subset.mp hSub
    have hStep : readEntry dialect fields (part seen) entry = .ok (part (s.name :: seen)) :=
      readEntry_of_isEntry hAccepts hApart hs hEntry (hUnseen s List.mem_cons_self)
    have hRest := name_notMem_cons hNodup hUnseen
    rw [List.foldlM_cons, hStep]
    show entries.foldlM _ (part (s.name :: seen)) = _
    rw [ih hGiven hNodup.of_cons hRest]
    simp

/-- Elements for all remaining fields add these fields to the draft. -/
theorem readElements_of_forall₂ {record : String} {size : Nat}
    (hAccepts : List.Forall₂ (Field.Accepts part) fields spellings) :
    ∀ {values : List V} {index : Nat} {seen : List String},
      List.Forall₂ FieldSpelling.IsValue spellings values → (spellings.map (·.name)).Nodup →
      (∀ s ∈ spellings, s.name ∉ seen) →
      readElements dialect record size index fields values (part seen) =
        .ok (part ((spellings.map (·.name)).reverse ++ seen)) := by
  induction hAccepts with
  | nil =>
    intro values index seen hEach _ _
    cases hEach
    simp [readElements]
  | @cons field s fields spellings hField hAccepts ih =>
    intro values index seen hEach hNodup hUnseen
    cases hEach with
    | @cons _ value _ values hValue hEach =>
      have hRead := hField.read_eq seen value (hUnseen s List.mem_cons_self) hValue
      have hRest := name_notMem_cons hNodup hUnseen
      simp only [readElements, hRead]
      rw [ih hEach hNodup.of_cons hRest]
      simp

/-- A record that is written down in any way is read into a draft that holds all its fields apart
from some that may be omitted. -/
theorem exists_readDraft_eq_ok {record : String} {empty : δ} {value : V} {form : Form V}
    (hEmpty : part [] = empty)
    (hAccepts : List.Forall₂ (Field.Accepts part) fields spellings) (hApart : AreApart spellings)
    (hForm : dialect.form record value = .ok form) (hSpelled : IsSpelledBy spellings form) :
    ∃ seen, readDraft dialect record fields empty value = .ok (part seen) ∧
      ∀ s ∈ spellings, s.name ∈ seen ∨ s.MayBeOmitted := by
  have hNames := hApart.nodup_name
  subst hEmpty
  cases hSpelled with
  | entries given entries hSubperm hEach hRest =>
    obtain ⟨inOrder, hPerm, hSublist⟩ := hSubperm
    have hGivenNames : (given.map (·.name)).Nodup :=
      (hPerm.map _).nodup_iff.mp ((hSublist.map _).nodup hNames)
    have hGiven : given ⊆ spellings := List.Subset.trans hPerm.symm.subset hSublist.subset
    have hRead : entries.foldlM (readEntry dialect fields) (part []) = _ :=
      readEntries_of_forall₂ hAccepts hApart hEach hGiven hGivenNames (by simp)
    refine ⟨_, by simpa [readDraft, hForm, Except.bind] using hRead, fun s hs => ?_⟩
    refine (hRest s hs).imp_left fun hs => ?_
    simpa using ⟨s, hs, rfl⟩
  | elements values hEach =>
    have hRead : readElements dialect record fields.length 0 fields values (part []) = _ :=
      readElements_of_forall₂ hAccepts hEach hNames (by simp)
    refine ⟨_, by simpa [readDraft, hForm, Except.bind] using hRead, fun s hs => Or.inl ?_⟩
    simpa using ⟨s, hs, rfl⟩

end Accepting

/-! ## Lists -/

/-- Elements that are read one by one are read as the list of what they are read as. -/
theorem readEach_of_forall₂ {dialect : Dialect V ε} {read : V → Except ε α} {items : List α}
    {values : List V} (hEach : List.Forall₂ (fun a value => read value = .ok a) items values) :
    ∀ index, dialect.readEach read index values = .ok items := by
  induction hEach with
  | nil => intro index; rfl
  | @cons a value items values hValue hEach ih =>
    intro index
    simp [Dialect.readEach, hValue, ih (index + 1), Except.map]

/-! ## Fields that govern a place of the draft -/

/-- The other field has keys of its own and leaves in place what `get` shows of a draft. -/
structure Field.IsApartFrom (other field : Field V ε δ) (get : δ → Option α) : Prop where
  keys_disjoint : ∀ key ∈ field.keys, key ∉ other.keys
  get_eq : ∀ value draft draft', other.read value draft = .ok draft' → get draft' = get draft

/-- The field alone decides what `get` shows of a draft: it counts as set when something is shown,
reading it shows what the value decodes to, and every other field is apart from it. -/
structure Field.Governs (fields : List (Field V ε δ)) (field : Field V ε δ) (get : δ → Option α)
    (decode : V → Except ε α) : Prop where
  mem : field ∈ fields
  isSet_eq : ∀ draft, field.isSet draft = (get draft).isSome
  own : ∀ value draft draft', field.read value draft = .ok draft' →
    ∃ a, decode value = .ok a ∧ get draft' = some a
  others : ∀ other ∈ fields, other = field ∨ other.IsApartFrom field get

/-- A field that keeps a value in another place of the draft. -/
theorem Field.IsApartFrom.of {β : Type} {name : String} {hasDefault : Bool} {get' : δ → Option β}
    {set : β → δ → δ} {read : V → Except ε β} {field : Field V ε δ} {get : δ → Option α}
    (hKeys : ∀ key ∈ field.keys, key ∉ [name]) (hGet : ∀ b draft, get (set b draft) = get draft) :
    (Field.of name hasDefault get' set read).IsApartFrom field get where
  keys_disjoint := hKeys
  get_eq value draft draft' hRead := by
    obtain ⟨b, -, rfl⟩ := read_of_eq_ok_iff.mp hRead
    exact hGet b draft

theorem Field.IsApartFrom.orNamed {other field : Field V ε δ} {get : δ → Option α} {key : String}
    (h : other.IsApartFrom field get) (hKey : key ∉ field.keys) :
    (other.orNamed key).IsApartFrom field get where
  keys_disjoint k hk hMem := by
    rcases List.mem_append.mp (show k ∈ other.keys ++ [key] from hMem) with hOther | hLast
    · exact h.keys_disjoint k hk hOther
    · exact hKey (List.mem_singleton.mp hLast ▸ hk)
  get_eq := h.get_eq

/-- A field that keeps a value in the draft's place for it shows there what the value is read as. -/
theorem Field.get_of_read_of (name : String) (hasDefault : Bool) {get : δ → Option α}
    {set : α → δ → δ} {read : V → Except ε α} (hGet : ∀ a draft, get (set a draft) = some a)
    (value : V) (draft draft' : δ)
    (hRead : (Field.of name hasDefault get set read).read value draft = .ok draft') :
    ∃ a, read value = .ok a ∧ get draft' = some a := by
  obtain ⟨a, hValue, rfl⟩ := read_of_eq_ok_iff.mp hRead
  exact ⟨a, hValue, hGet a draft⟩

section Governing

variable {dialect : Dialect V ε} {fields : List (Field V ε δ)} {field : Field V ε δ}
  {get : δ → Option α} {decode : V → Except ε α}

theorem Field.Governs.find?_eq_some (h : field.Governs fields get decode) {key : String}
    (hKey : field.hasKey key = true) : fields.find? (·.hasKey key) = some field := by
  cases hFind : fields.find? (·.hasKey key) with
  | none => exact absurd hKey (List.find?_eq_none.mp hFind field h.mem)
  | some other =>
    have hOther : other.hasKey key = true := by simpa using List.find?_some hFind
    rcases h.others other (List.mem_of_find?_eq_some hFind) with rfl | hApart
    · rfl
    · exact absurd (Field.hasKey_iff.mp hOther)
        (hApart.keys_disjoint key (Field.hasKey_iff.mp hKey))

/-- After an entry with one of the field's keys the draft shows what its value decodes to, and
nothing was shown before. -/
theorem Field.Governs.get_of_readEntry (h : field.Governs fields get decode) {draft draft' : δ}
    {entry : String × V} (hKey : field.hasKey entry.1 = true)
    (hRead : readEntry dialect fields draft entry = .ok draft') :
    get draft = none ∧ ∃ a, decode entry.2 = .ok a ∧ get draft' = some a := by
  simp only [readEntry, h.find?_eq_some hKey] at hRead
  by_cases hSet : field.isSet draft = true
  · simp [hSet] at hRead
  · rw [if_neg hSet] at hRead
    have hNone : get draft = none := by simpa [h.isSet_eq] using hSet
    cases hField : field.read entry.2 draft with
    | error e => simp [hField] at hRead
    | ok next =>
      obtain rfl : next = draft' := by simpa [hField] using hRead
      exact ⟨hNone, h.own _ _ _ hField⟩

/-- An entry with another key leaves in place what the draft shows. -/
theorem Field.Governs.get_of_readEntry_other (h : field.Governs fields get decode)
    {draft draft' : δ} {entry : String × V} (hKey : ¬field.hasKey entry.1 = true)
    (hRead : readEntry dialect fields draft entry = .ok draft') : get draft' = get draft := by
  simp only [readEntry] at hRead
  cases hFind : fields.find? (·.hasKey entry.1) with
  | none =>
    obtain rfl : draft = draft' := by simpa [hFind] using hRead
    rfl
  | some other =>
    simp only [hFind] at hRead
    split at hRead
    · simp at hRead
    · cases hOther : other.read entry.2 draft with
      | error e => simp [hOther] at hRead
      | ok next =>
        obtain rfl : next = draft' := by simpa [hOther] using hRead
        rcases h.others other (List.mem_of_find?_eq_some hFind) with rfl | hApart
        · exact absurd (List.find?_some hFind) hKey
        · exact hApart.get_eq _ _ _ hOther

/-- Once all entries are read, the field was given by no entry and nothing has changed, or it was
given by exactly one, to a draft that showed nothing, and that entry's value is shown. -/
theorem Field.Governs.get_of_readEntries (h : field.Governs fields get decode)
    {entries : List (String × V)} :
    ∀ {draft draft' : δ}, entries.foldlM (readEntry dialect fields) draft = .ok draft' →
      (entries.filter (fun entry => field.hasKey entry.1) = [] ∧ get draft' = get draft) ∨
      (get draft = none ∧ ∃ entry a, entries.filter (fun entry => field.hasKey entry.1) = [entry] ∧
        decode entry.2 = .ok a ∧ get draft' = some a) := by
  induction entries with
  | nil =>
    intro draft draft' hRead
    obtain rfl : draft = draft' := by simpa [pure, Except.pure] using hRead
    exact Or.inl ⟨rfl, rfl⟩
  | cons entry entries ih =>
    intro draft draft' hRead
    rw [List.foldlM_cons] at hRead
    cases hStep : readEntry dialect fields draft entry with
    | error e => simp [hStep, bind, Except.bind] at hRead
    | ok next =>
      have hRest : entries.foldlM (readEntry dialect fields) next = .ok draft' := by
        simpa [hStep, bind, Except.bind] using hRead
      by_cases hKey : field.hasKey entry.1 = true
      · -- A later entry of the field would have to find nothing shown.
        obtain ⟨hNone, a, hDecode, hNext⟩ := h.get_of_readEntry hKey hStep
        rcases ih hRest with ⟨hFilter, hGet⟩ | ⟨hNone', -⟩
        · exact Or.inr ⟨hNone, entry, a, by simp [hKey, hFilter], hDecode, hGet.trans hNext⟩
        · simp [hNext] at hNone'
      · have hKeep := h.get_of_readEntry_other hKey hStep
        simpa [List.filter_cons_of_neg, hKey, hKeep] using ih hRest

/-- What a draft that showed nothing shows in the end is what the first entry of the field holds. -/
theorem Field.Governs.get_eq_of_readEntries (h : field.Governs fields get decode)
    {entries : List (String × V)} {draft draft' : δ} (hEmpty : get draft = none)
    (hRead : entries.foldlM (readEntry dialect fields) draft = .ok draft') :
    get draft' = (entries.find? fun entry => field.hasKey entry.1).bind fun entry =>
      (decode entry.2).toOption := by
  rw [← List.head?_filter]
  rcases h.get_of_readEntries hRead with ⟨hNone, hGet⟩ | ⟨-, entry, a, hOne, hDecode, hGet⟩
  · rw [hGet, hEmpty, hNone]
    rfl
  · rw [hGet, hOne, List.head?_singleton, Option.bind_some, hDecode]
    rfl

/-- Entries that give the field twice are not read. -/
theorem Field.Governs.exists_readEntries_eq_error (h : field.Governs fields get decode)
    {entries : List (String × V)} {first second : String × V} (hFirst : first ∈ entries)
    (hSecond : second ∈ entries) (hNe : first ≠ second) (hFirstKey : field.hasKey first.1 = true)
    (hSecondKey : field.hasKey second.1 = true) (draft : δ) :
    ∃ e, entries.foldlM (readEntry dialect fields) draft = .error e := by
  have hFirst' : first ∈ entries.filter (fun entry => field.hasKey entry.1) :=
    List.mem_filter.mpr ⟨hFirst, hFirstKey⟩
  have hSecond' : second ∈ entries.filter (fun entry => field.hasKey entry.1) :=
    List.mem_filter.mpr ⟨hSecond, hSecondKey⟩
  cases hRead : entries.foldlM (readEntry dialect fields) draft with
  | error e => exact ⟨e, rfl⟩
  | ok draft' =>
    rcases h.get_of_readEntries hRead with ⟨hFilter, -⟩ | ⟨-, entry, -, hFilter, -⟩
    · simp [hFilter] at hFirst'
    · rw [hFilter, List.mem_singleton] at hFirst' hSecond'
      exact absurd (hFirst'.trans hSecond'.symm) hNe

end Governing

/-! ## Entries that are all read -/

/-- The value is read into every draft, and of the other fields none is set by it. -/
def Field.Takes (fields : List (Field V ε δ)) (field : Field V ε δ) (value : V) : Prop :=
  ∀ draft, ∃ draft', field.read value draft = .ok draft' ∧
    ∀ other ∈ fields, other = field ∨ other.isSet draft' = other.isSet draft

theorem Field.Takes.of {fields : List (Field V ε δ)} {name : String} {hasDefault : Bool}
    {get : δ → Option α} {set : α → δ → δ} {read : V → Except ε α} {value : V} {a : α}
    (hValue : read value = .ok a)
    (hOthers : ∀ other ∈ fields, other = .of name hasDefault get set read ∨
      ∀ a draft, other.isSet (set a draft) = other.isSet draft) :
    (Field.of name hasDefault get set read).Takes fields value := fun draft =>
  ⟨set a draft, read_of_eq_ok_iff.mpr ⟨a, hValue, rfl⟩,
    fun other hOther => (hOthers other hOther).imp_right fun hKeep => hKeep a draft⟩

/-- Entries with different keys are all read if every field has one name only and takes the value
under it, and the draft has none of the fields already. -/
theorem exists_readEntries_eq_ok {dialect : Dialect V ε} {fields : List (Field V ε δ)}
    (hPlain : ∀ field ∈ fields, field.aliases = []) {entries : List (String × V)}
    (hKeys : (entries.map (·.1)).Nodup)
    (hTakes : ∀ entry ∈ entries, ∀ field ∈ fields, field.name = entry.1 →
      field.Takes fields entry.2) :
    ∀ draft, (∀ field ∈ fields, field.name ∈ entries.map (·.1) → field.isSet draft = false) →
      ∃ draft', entries.foldlM (readEntry dialect fields) draft = .ok draft' := by
  induction entries with
  | nil => exact fun draft _ => ⟨draft, rfl⟩
  | cons entry entries ih =>
    intro draft hUnset
    obtain ⟨hNew, hRest⟩ := List.nodup_cons.mp hKeys
    have hNext := ih hRest fun later hLater => hTakes later (List.mem_cons_of_mem _ hLater)
    rw [List.foldlM_cons]
    cases hFind : fields.find? (·.hasKey entry.1) with
    | none =>
      have hSame : readEntry dialect fields draft entry = .ok draft := by simp [readEntry, hFind]
      rw [hSame]
      exact hNext draft fun field hField hMem => hUnset field hField (List.mem_cons_of_mem _ hMem)
    | some field =>
      have hMem := List.mem_of_find?_eq_some hFind
      have hName : field.name = entry.1 := by
        have hKey : field.hasKey entry.1 = true := by simpa using List.find?_some hFind
        simpa [Field.hasKey, hPlain field hMem] using hKey
      obtain ⟨next, hRead, hOthers⟩ := hTakes entry List.mem_cons_self field hMem hName draft
      have hFirst : field.name ∈ (entry :: entries).map (·.1) := by simp [hName]
      have hStep : readEntry dialect fields draft entry = .ok next := by
        simp [readEntry, hFind, hUnset field hMem hFirst, hRead]
      rw [hStep]
      refine hNext next fun other hOther hLater => ?_
      rcases hOthers other hOther with rfl | hKeep
      · rw [hName] at hLater
        exact absurd hLater hNew
      · exact hKeep.trans (hUnset other hOther (List.mem_cons_of_mem _ hLater))

/-! ## Records of two fields -/

section Pairs

variable {β : Type} {dialect : Dialect V ε} {name name' : String} {hasDefault hasDefault' : Bool}
  {get : δ → Option α} {set : α → δ → δ} {read : V → Except ε α}
  {get' : δ → Option β} {set' : β → δ → δ} {read' : V → Except ε β}

/-- A record of two fields that keep their values in different places is read from entries with
different keys if the values of the fields are read, and each place shows what its field holds. -/
theorem exists_readDraft_pair (hNames : name ≠ name') (hGet : ∀ a draft, get (set a draft) = some a)
    (hGet' : ∀ b draft, get' (set' b draft) = some b)
    (hKeep : ∀ b draft, get (set' b draft) = get draft)
    (hKeep' : ∀ a draft, get' (set a draft) = get' draft) {empty : δ} (hEmpty : get empty = none)
    (hEmpty' : get' empty = none) {record : String} {value : V} {entries : List (String × V)}
    (hForm : dialect.form record value = .ok (.entries entries))
    (hKeys : (entries.map (·.1)).Nodup)
    (hRead : ∀ entry ∈ entries, entry.1 = name → ∃ a, read entry.2 = .ok a)
    (hRead' : ∀ entry ∈ entries, entry.1 = name' → ∃ b, read' entry.2 = .ok b) :
    ∃ draft, readDraft dialect record [.of name hasDefault get set read,
        .of name' hasDefault' get' set' read'] empty value = .ok draft ∧
      get draft = (entries.find? (·.1 == name)).bind (fun entry => (read entry.2).toOption) ∧
      get' draft = (entries.find? (·.1 == name')).bind fun entry => (read' entry.2).toOption := by
  let field : Field V ε δ := .of name hasDefault get set read
  let field' : Field V ε δ := .of name' hasDefault' get' set' read'
  have hGoverns : field.Governs [field, field'] get read :=
    { mem := List.mem_cons_self
      isSet_eq := fun _ => rfl
      own := Field.get_of_read_of name hasDefault hGet
      others := by
        simp only [List.forall_mem_cons, true_or, true_and]
        exact ⟨Or.inr (.of (by simpa [field, Field.keys, Field.of] using hNames) hKeep), nofun⟩ }
  have hGoverns' : field'.Governs [field, field'] get' read' :=
    { mem := List.mem_cons_of_mem _ List.mem_cons_self
      isSet_eq := fun _ => rfl
      own := Field.get_of_read_of name' hasDefault' hGet'
      others := by
        simp only [List.forall_mem_cons, true_or, true_and]
        exact ⟨Or.inr (.of (by simpa [field', Field.keys, Field.of] using hNames.symm) hKeep'),
          nofun⟩ }
  have hTakes : ∀ entry ∈ entries, ∀ own ∈ [field, field'], own.name = entry.1 →
      own.Takes [field, field'] entry.2 := by
    intro entry hEntry own hOwn hName
    simp only [List.mem_cons, List.not_mem_nil, or_false] at hOwn
    rcases hOwn with rfl | rfl
    · obtain ⟨a, hValue⟩ := hRead entry hEntry hName.symm
      refine .of hValue ?_
      simp only [List.forall_mem_cons]
      exact ⟨Or.inl rfl, Or.inr fun a draft => congrArg Option.isSome (hKeep' a draft), nofun⟩
    · obtain ⟨b, hValue⟩ := hRead' entry hEntry hName.symm
      refine .of hValue ?_
      simp only [List.forall_mem_cons]
      exact ⟨Or.inr fun b draft => congrArg Option.isSome (hKeep b draft), Or.inl rfl, nofun⟩
  have hUnset : ∀ own ∈ [field, field'], own.name ∈ entries.map (·.1) →
      own.isSet empty = false := by
    simp only [List.forall_mem_cons]
    exact ⟨fun _ => congrArg Option.isSome hEmpty, fun _ => congrArg Option.isSome hEmpty', nofun⟩
  have hPlain : ∀ own ∈ [field, field'], own.aliases = [] := by
    simp only [List.forall_mem_cons]
    exact ⟨rfl, rfl, nofun⟩
  obtain ⟨draft, hDraft⟩ : ∃ draft,
      entries.foldlM (readEntry dialect [field, field']) empty = .ok draft :=
    exists_readEntries_eq_ok hPlain hKeys hTakes empty hUnset
  refine ⟨draft, ?_, ?_, ?_⟩
  · rw [readDraft, hForm]
    exact hDraft
  · simpa only [field, Field.hasKey_of] using hGoverns.get_eq_of_readEntries hEmpty hDraft
  · simpa only [field', Field.hasKey_of] using hGoverns'.get_eq_of_readEntries hEmpty' hDraft

end Pairs

end Document
end Switchboard
