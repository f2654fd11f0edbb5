import Switchboard.Endpoint.Reading
import Switchboard.Endpoint.Writing
import Switchboard.Json.Dialect
import Switchboard.Proofs.Document.Record

/-!
# Spellings of declarations

A declaration can be written as JSON in many ways: four of its fields have a second key, what has
its default may be left out, what is absent may be null, constants have several names, and each
record may be an object with its entries in any order or an array of its elements.  Every way of
writing is read as the declaration that was written, its own JSON value among them, and an object
that gives a field under both of its keys is not read at all.  Which fault such an object is
reported with is left open: another one may come before.
-/

namespace Switchboard
namespace Endpoint

open Document (Dialect Field FieldSpelling IsSpelledBy AreApart)
open Json (Value)

variable {α : Type}

/-! ## Values -/

def IsText (s : String) (value : Value) : Prop :=
  value = .text s

def IsFlag (flag : Bool) (value : Value) : Prop :=
  value = .bool flag

/-- One of the names of a constant, as a text or as the one key of an object with nothing in it. -/
def IsNamed (names : List (String × α)) (a : α) (value : Value) : Prop :=
  ∃ name, (name, a) ∈ names ∧ (value = .text name ∨ value = .object [(name, .null)])

/-- Null for what is absent, and for what is there a value of its own. -/
def IsOptional (IsValue : α → Value → Prop) : Option α → Value → Prop
  | none, value => value = .null
  | some a, value => IsValue a value

def IsList (IsValue : α → Value → Prop) (items : List α) (value : Value) : Prop :=
  ∃ values, value = .array values ∧ List.Forall₂ IsValue items values

/-- An object with entries for the fields of a record, or an array of its elements. -/
inductive IsRecord (spellings : List (FieldSpelling Value)) : Value → Prop
  | object {entries : List (String × Value)} (spelled : IsSpelledBy spellings (.entries entries)) :
      IsRecord spellings (.object entries)
  | array {values : List Value} (spelled : IsSpelledBy spellings (.elements values)) :
      IsRecord spellings (.array values)

/-- Whatever stands for something is read as what it stands for. -/
def Reads (read : Value → Except Json.Fault α) (IsValue : α → Value → Prop) : Prop :=
  ∀ a value, IsValue a value → read value = .ok a

theorem reads_text : Reads Json.dialect.text IsText := by
  rintro s _ rfl
  rfl

theorem reads_flag : Reads Json.dialect.flag IsFlag := by
  rintro flag _ rfl
  rfl

/-- An entry is the first one with its key, where keys are not repeated. -/
theorem find?_fst_eq_some {names : List (String × α)} {name : String} {a : α}
    (hNodup : (names.map (·.1)).Nodup) (hMem : (name, a) ∈ names) :
    names.find? (·.1 == name) = some (name, a) := by
  cases hFind : names.find? (·.1 == name) with
  | none => simpa using List.find?_eq_none.mp hFind _ hMem
  | some found =>
    have hKey : found.1 = name := by simpa using List.find?_some hFind
    rw [List.inj_on_of_nodup_map hNodup (List.mem_of_find?_eq_some hFind) hMem hKey]

theorem reads_oneOf (type : String) {names : List (String × α)} (fallback : α)
    (hNodup : (names.map (·.1)).Nodup) :
    Reads (Json.dialect.oneOf type names fallback) (IsNamed names) := by
  rintro a value ⟨name, hMem, hValue⟩
  have hContains : (names.map (·.1)).contains name = true :=
    List.contains_iff_mem.mpr (List.mem_map.mpr ⟨_, hMem, rfl⟩)
  have hName : Json.readName (names.map (·.1)) name = .ok name := if_pos hContains
  have hChoice : Json.dialect.choice type (names.map (·.1)) value = .ok name := by
    rcases hValue with rfl | rfl
    · exact hName
    · show (Json.readName (names.map (·.1)) name).bind _ = _
      rw [hName]
      rfl
  rw [Dialect.oneOf, hChoice]
  simp [Except.map, find?_fst_eq_some hNodup hMem]

theorem Reads.optional {read : Value → Except Json.Fault α} {IsValue : α → Value → Prop}
    (hReads : Reads read IsValue) (hNull : ∀ a, ¬IsValue a .null) :
    Reads (Json.dialect.optional read) (IsOptional IsValue) := by
  intro o value hValue
  cases o with
  | none =>
    obtain rfl : value = .null := hValue
    rfl
  | some a =>
    have hSome : Json.dialect.isNothing value = false := by
      cases value with
      | null => exact absurd hValue (hNull a)
      | _ => rfl
    have hRead := hReads a value hValue
    simp [Dialect.optional, hSome, hRead, Except.map]

theorem Reads.list {read : Value → Except Json.Fault α} {IsValue : α → Value → Prop}
    (hReads : Reads read IsValue) : Reads (Json.dialect.listOf read) (IsList IsValue) := by
  rintro items _ ⟨values, rfl, hEach⟩
  exact Document.readEach_of_forall₂ (hEach.imp hReads) 0

theorem reads_optionalText : Reads (Json.dialect.optional Json.dialect.text) (IsOptional IsText) :=
  reads_text.optional nofun

/-- An optional record, which null never stands for when it is there. -/
theorem reads_optionalRecord {read : Value → Except Json.Fault α}
    {spellings : α → List (FieldSpelling Value)}
    (hReads : Reads read fun a => IsRecord (spellings a)) :
    Reads (Json.dialect.optional read) (IsOptional fun a => IsRecord (spellings a)) :=
  hReads.optional nofun

/-- A record that is written down is read into a draft that holds all its fields apart from some
that may be omitted. -/
theorem exists_readDraft_of_isRecord {δ : Type} {record : String} (empty : δ)
    {fields : List (Field Value Json.Fault δ)} {spellings : List (FieldSpelling Value)}
    {part : List String → δ} (hEmpty : part [] = empty)
    (hAccepts : List.Forall₂ (Field.Accepts part) fields spellings)
    (hApart : AreApart spellings) {value : Value} (h : IsRecord spellings value) :
    ∃ seen, Document.readDraft Json.dialect record fields empty value = .ok (part seen) ∧
      ∀ s ∈ spellings, s.name ∈ seen ∨ s.MayBeOmitted := by
  cases h with
  | object spelled =>
    exact Document.exists_readDraft_eq_ok hEmpty hAccepts hApart rfl spelled
  | array spelled =>
    exact Document.exists_readDraft_eq_ok hEmpty hAccepts hApart rfl spelled

/-- A field that was seen or has its default is finished as what the record has there. -/
theorem getD_shown {a fallback : α} {name : String} {seen : List String}
    (h : name ∈ seen ∨ a = fallback) :
    (if name ∈ seen then some a else none).getD fallback = a := by
  by_cases hSeen : name ∈ seen
  · simp [hSeen]
  · simp [hSeen, h.resolve_left hSeen]

/-! ## Parameters, signatures and request types -/

def Param.spellings (p : Param) : List (FieldSpelling Value) :=
  [⟨"name", [], IsText p.name, False⟩,
    ⟨"type", [], IsText p.type, False⟩]

/-- The draft that holds the named fields of a parameter. -/
def Param.part (p : Param) (seen : List String) : Param.Draft where
  name := if "name" ∈ seen then some p.name else none
  type := if "type" ∈ seen then some p.type else none

theorem Param.accepts (p : Param) :
    List.Forall₂ (Field.Accepts p.part) (Param.fields Json.dialect) p.spellings :=
  .cons (.of p.name (fun _ => rfl) (fun _ => by simp [part]) (reads_text _)) <|
  .cons (.of p.type (fun _ => rfl) (fun _ => by simp [part]) (reads_text _)) .nil

theorem reads_param : Reads (Param.read Json.dialect) fun p => IsRecord p.spellings := by
  intro p value hValue
  have hApart : AreApart p.spellings := by simp [AreApart, Param.spellings, FieldSpelling.keys]
  obtain ⟨seen, hRead, hSeen⟩ :=
    exists_readDraft_of_isRecord {} rfl p.accepts hApart hValue
  simp only [Param.spellings, List.forall_mem_cons, or_false] at hSeen
  obtain ⟨hName, hType, -⟩ := hSeen
  rw [Param.read, hRead]
  simp [Param.part, hName, hType, Document.required, bind, Except.bind, pure, Except.pure]

def Signature.spellings (signature : Signature) : List (FieldSpelling Value) :=
  [⟨"params", [], IsList (fun p => IsRecord p.spellings) signature.params, signature.params = []⟩,
    ⟨"returns", [], IsOptional IsText signature.returns, signature.returns = none⟩]

/-- The draft that holds the named fields of a signature. -/
def Signature.part (signature : Signature) (seen : List String) : Signature.Draft where
  params := if "params" ∈ seen then some signature.params else none
  returns := if "returns" ∈ seen then some signature.returns else none

theorem Signature.accepts (signature : Signature) :
    List.Forall₂ (Field.Accepts signature.part) (Signature.fields Json.dialect)
      signature.spellings :=
  .cons (.of signature.params (fun _ => rfl) (fun _ => by simp [part]) (reads_param.list _)) <|
  .cons (.of signature.returns (fun _ => rfl) (fun _ => by simp [part]) (reads_optionalText _))
  .nil

theorem reads_signature :
    Reads (Signature.read Json.dialect) fun signature => IsRecord signature.spellings := by
  intro signature value hValue
  have hApart : AreApart signature.spellings := by
    simp [AreApart, Signature.spellings, FieldSpelling.keys]
  obtain ⟨seen, hRead, hSeen⟩ :=
    exists_readDraft_of_isRecord {} rfl signature.accepts hApart hValue
  simp only [Signature.spellings, List.forall_mem_cons] at hSeen
  obtain ⟨hParams, hReturns, -⟩ := hSeen
  rw [Signature.read, hRead]
  simp only [Except.map, Signature.part, getD_shown hParams, getD_shown hReturns]

def RequestType.spellings (request : RequestType) : List (FieldSpelling Value) :=
  [⟨"type_name", [], IsOptional IsText request.typeName, request.typeName = none⟩,
    ⟨"validation", [], IsFlag request.validation, request.validation = false⟩]

/-- The draft that holds the named fields of a request type. -/
def RequestType.part (request : RequestType) (seen : List String) : RequestType.Draft where
  typeName := if "type_name" ∈ seen then some request.typeName else none
  validation := if "validation" ∈ seen then some request.validation else none

theorem RequestType.accepts (request : RequestType) :
    List.Forall₂ (Field.Accepts request.part) (RequestType.fields Json.dialect)
      request.spellings :=
  .cons (.of request.typeName (fun _ => rfl) (fun _ => by simp [part]) (reads_optionalText _)) <|
  .cons (.of request.validation (fun _ => rfl) (fun _ => by simp [part]) (reads_flag _)) .nil

theorem reads_requestType :
    Reads (RequestType.read Json.dialect) fun request => IsRecord request.spellings := by
  intro request value hValue
  have hApart : AreApart request.spellings := by
    simp [AreApart, RequestType.spellings, FieldSpelling.keys]
  obtain ⟨seen, hRead, hSeen⟩ :=
    exists_readDraft_of_isRecord {} rfl request.accepts hApart hValue
  simp only [RequestType.spellings, List.forall_mem_cons] at hSeen
  obtain ⟨hName, hValidation, -⟩ := hSeen
  rw [RequestType.read, hRead]
  simp only [Except.map, RequestType.part, getD_shown hName, getD_shown hValidation]

/-! ## Declarations -/

def Declaration.spellings (d : Declaration) : List (FieldSpelling Value) :=
  [⟨"name", [], IsText d.name, False⟩,
    ⟨"namespace", [], IsText d.namespaceName, d.namespaceName = ""⟩,
    ⟨"request_method", ["method"], IsNamed methodNames d.method, False⟩,
    ⟨"route", [], IsOptional IsText d.route, d.route = none⟩,
    ⟨"controller", [], IsOptional IsText d.controller, d.controller = none⟩,
    ⟨"produced_status_codes", ["produces"], IsList (IsNamed statusNames) d.statuses,
      d.statuses = []⟩,
    ⟨"requires_auth", ["auth"], IsFlag d.requiresAuth, d.requiresAuth = false⟩,
    ⟨"auth_policy", ["policy"], IsOptional IsText d.policy, d.policy = none⟩,
    ⟨"command", [], IsOptional (fun request => IsRecord request.spellings) d.command,
      d.command = none⟩,
    ⟨"query", [], IsOptional (fun request => IsRecord request.spellings) d.query, d.query = none⟩,
    ⟨"handler", [], IsOptional (fun signature => IsRecord signature.spellings) d.handler,
      d.handler = none⟩]

/-- The draft that holds the named fields of a declaration. -/
def Declaration.part (d : Declaration) (seen : List String) : Declaration.Draft where
  name := if "name" ∈ seen then some d.name else none
  namespaceName := if "namespace" ∈ seen then some d.namespaceName else none
  method := if "request_method" ∈ seen then some d.method else none
  route := if "route" ∈ seen then some d.route else none
  controller := if "controller" ∈ seen then some d.controller else none
  statuses := if "produced_status_codes" ∈ seen then some d.statuses else none
  requiresAuth := if "requires_auth" ∈ seen then some d.requiresAuth else none
  policy := if "auth_policy" ∈ seen then some d.policy else none
  command := if "command" ∈ seen then some d.command else none
  query := if "query" ∈ seen then some d.query else none
  handler := if "handler" ∈ seen then some d.handler else none

theorem reads_method : Reads (readMethod Json.dialect) (IsNamed methodNames) :=
  reads_oneOf _ _ (by decide)

theorem reads_status : Reads (readStatus Json.dialect) (IsNamed statusNames) :=
  reads_oneOf _ _ (by decide)

theorem Declaration.accepts (d : Declaration) :
    List.Forall₂ (Field.Accepts d.part) (Declaration.fields Json.dialect) d.spellings :=
  .cons (.of d.name (fun _ => rfl) (fun _ => by simp [part]) (reads_text _)) <|
  .cons (.of d.namespaceName (fun _ => rfl) (fun _ => by simp [part]) (reads_text _)) <|
  .cons (.orNamed (.of d.method (fun _ => rfl) (fun _ => by simp [part]) (reads_method _))
    "method") <|
  .cons (.of d.route (fun _ => rfl) (fun _ => by simp [part]) (reads_optionalText _)) <|
  .cons (.of d.controller (fun _ => rfl) (fun _ => by simp [part]) (reads_optionalText _)) <|
  .cons (.orNamed (.of d.statuses (fun _ => rfl) (fun _ => by simp [part]) (reads_status.list _))
    "produces") <|
  .cons (.orNamed (.of d.requiresAuth (fun _ => rfl) (fun _ => by simp [part]) (reads_flag _))
    "auth") <|
  .cons (.orNamed (.of d.policy (fun _ => rfl) (fun _ => by simp [part]) (reads_optionalText _))
    "policy") <|
  .cons (.of d.command (fun _ => rfl) (fun _ => by simp [part])
    (reads_optionalRecord reads_requestType _)) <|
  .cons (.of d.query (fun _ => rfl) (fun _ => by simp [part])
    (reads_optionalRecord reads_requestType _)) <|
  .cons (.of d.handler (fun _ => rfl) (fun _ => by simp [part])
    (reads_optionalRecord reads_signature _)) .nil

theorem reads_declaration :
    Reads (Declaration.read Json.dialect) fun d => IsRecord d.spellings := by
  intro d value hValue
  have hApart : AreApart d.spellings := by
    simp [AreApart, Declaration.spellings, FieldSpelling.keys]
  obtain ⟨seen, hRead, hSeen⟩ :=
    exists_readDraft_of_isRecord {} rfl d.accepts hApart hValue
  simp only [Declaration.spellings, List.forall_mem_cons, or_false] at hSeen
  obtain ⟨hName, hNamespace, hMethod, hRoute, hController, hStatuses, hAuth, hPolicy, hCommand,
    hQuery, hHandler, -⟩ := hSeen
  rw [Declaration.read, hRead]
  simp only [bind, Except.bind, Declaration.part, hName, hMethod, if_true, Document.required,
    getD_shown hNamespace, getD_shown hRoute, getD_shown hController, getD_shown hStatuses,
    getD_shown hAuth, getD_shown hPolicy, getD_shown hCommand, getD_shown hQuery,
    getD_shown hHandler]
  rfl

/-! ## The JSON value of a declaration -/

theorem isOptional_ofText? (o : Option String) : IsOptional IsText o (.ofText? o) := by
  cases o with
  | none => rfl
  | some s => rfl

theorem isOptional_optionalJson {IsValue : α → Value → Prop} {toJson : α → Value}
    (h : ∀ a, IsValue a (toJson a)) (o : Option α) :
    IsOptional IsValue o (optionalJson toJson o) := by
  cases o with
  | none => rfl
  | some a => exact h a

theorem isList_map {IsValue : α → Value → Prop} {toJson : α → Value}
    (h : ∀ a, IsValue a (toJson a)) (items : List α) :
    IsList IsValue items (.array (items.map toJson)) :=
  ⟨_, rfl, List.forall₂_map_right_iff.mpr (List.forall₂_same.mpr fun a _ => h a)⟩

theorem isNamed_method (method : Method) : IsNamed methodNames method (.text method.name) :=
  ⟨method.name, by cases method <;> decide, Or.inl rfl⟩

theorem isNamed_status (status : Status) : IsNamed statusNames status (.text status.name) :=
  ⟨status.name, by cases status <;> decide, Or.inl rfl⟩

/-- The entry of a field under its own name. -/
theorem isEntry_name {name : String} {aliases : List String} {IsValue : Value → Prop}
    {omitted : Prop} {value : Value} (h : IsValue value) :
    FieldSpelling.IsEntry ⟨name, aliases, IsValue, omitted⟩ (name, value) :=
  ⟨List.mem_cons_self, h⟩

/-- The entry of a field under its second key. -/
theorem isEntry_alias {name key : String} {IsValue : Value → Prop} {omitted : Prop} {value : Value}
    (h : IsValue value) : FieldSpelling.IsEntry ⟨name, [key], IsValue, omitted⟩ (key, value) :=
  ⟨List.mem_cons_of_mem _ List.mem_cons_self, h⟩

theorem Param.isRecord_toJson (p : Param) : IsRecord p.spellings p.toJson :=
  .object <| .of_forall₂ <| .cons (isEntry_name rfl) <| .cons (isEntry_name rfl) .nil

theorem Signature.isRecord_toJson (signature : Signature) :
    IsRecord signature.spellings signature.toJson :=
  .object <| .of_forall₂ <|
    .cons (isEntry_name (isList_map Param.isRecord_toJson _)) <|
    .cons (isEntry_name (isOptional_ofText? _)) .nil

theorem RequestType.isRecord_toJson (request : RequestType) :
    IsRecord request.spellings request.toJson :=
  .object <| .of_forall₂ <|
    .cons (isEntry_name (isOptional_ofText? _)) <| .cons (isEntry_name rfl) .nil

/-- The JSON value of a declaration is one way of writing it. -/
theorem Declaration.isRecord_toJson (d : Declaration) : IsRecord d.spellings d.toJson :=
  .object <| .of_forall₂ <|
    .cons (isEntry_name rfl) <|
    .cons (isEntry_name rfl) <|
    .cons (isEntry_name (isNamed_method _)) <|
    .cons (isEntry_name (isOptional_ofText? _)) <|
    .cons (isEntry_name (isOptional_ofText? _)) <|
    .cons (isEntry_name (isList_map isNamed_status _)) <|
    .cons (isEntry_name rfl) <|
    .cons (isEntry_name (isOptional_ofText? _)) <|
    .cons (isEntry_name (isOptional_optionalJson RequestType.isRecord_toJson _)) <|
    .cons (isEntry_name (isOptional_optionalJson RequestType.isRecord_toJson _)) <|
    .cons (isEntry_name (isOptional_optionalJson Signature.isRecord_toJson _)) .nil

/-! ## Fields with two keys -/

/-- The fields of a declaration that have a second key: their own one and the other. -/
def Declaration.doubleKeys : List (String × String) :=
  [("request_method", "method"), ("produced_status_codes", "produces"), ("requires_auth", "auth"),
    ("auth_policy", "policy")]

/-- Each field with two keys governs a place of the draft. -/
theorem Declaration.exists_governs {names : String × String} (h : names ∈ doubleKeys) :
    ∃ (α : Type) (field : Field Value Json.Fault Draft) (get : Draft → Option α)
      (decode : Value → Except Json.Fault α),
      field.Governs (fields Json.dialect) get decode ∧ field.keys = [names.1, names.2] := by
  simp only [doubleKeys, List.mem_cons, List.not_mem_nil, or_false] at h
  rcases h with rfl | rfl | rfl | rfl
  case' inl =>
    refine ⟨_, (fields Json.dialect).get ⟨2, by decide⟩, (·.method), readMethod Json.dialect,
      ⟨List.get_mem .., fun _ => rfl,
        Field.get_of_read_of "request_method" false fun _ _ => rfl, ?_⟩, rfl⟩
  case' inr.inl =>
    refine ⟨_, (fields Json.dialect).get ⟨5, by decide⟩, (·.statuses),
      Json.dialect.listOf (readStatus Json.dialect), ⟨List.get_mem .., fun _ => rfl,
        Field.get_of_read_of "produced_status_codes" true fun _ _ => rfl, ?_⟩, rfl⟩
  case' inr.inr.inl =>
    refine ⟨_, (fields Json.dialect).get ⟨6, by decide⟩, (·.requiresAuth), Json.dialect.flag,
      ⟨List.get_mem .., fun _ => rfl,
        Field.get_of_read_of "requires_auth" true fun _ _ => rfl, ?_⟩, rfl⟩
  case' inr.inr.inr =>
    refine ⟨_, (fields Json.dialect).get ⟨7, by decide⟩, (·.policy),
      Json.dialect.optional Json.dialect.text, ⟨List.get_mem .., fun _ => rfl,
        Field.get_of_read_of "auth_policy" true fun _ _ => rfl, ?_⟩, rfl⟩
  -- Of the eleven fields one is the field itself, and the others write to other places.
  all_goals
    simp only [fields, List.forall_mem_cons]
    refine ⟨?_, ?_, ?_, ?_, ?_, ?_, ?_, ?_, ?_, ?_, ?_, nofun⟩
    all_goals first
      | exact Or.inl rfl
      | exact Or.inr (.of (by decide) fun _ _ => rfl)
      | exact Or.inr (.orNamed (.of (by decide) fun _ _ => rfl) (by decide))

theorem Declaration.fst_ne_snd_of_mem_doubleKeys :
    ∀ names ∈ doubleKeys, names.1 ≠ names.2 := by
  decide

/-- An object that gives a field under both of its keys is not read. -/
theorem Declaration.exists_read_eq_error {names : String × String} (hNames : names ∈ doubleKeys)
    {entries : List (String × Value)} (hFirst : names.1 ∈ entries.map (·.1))
    (hSecond : names.2 ∈ entries.map (·.1)) :
    ∃ e, Declaration.read Json.dialect (.object entries) = .error e := by
  obtain ⟨α, field, get, decode, hGoverns, hKeys⟩ := exists_governs hNames
  obtain ⟨first, hFirst, hFirstKey⟩ := List.mem_map.mp hFirst
  obtain ⟨second, hSecond, hSecondKey⟩ := List.mem_map.mp hSecond
  have hNe : first ≠ second := fun heq =>
    fst_ne_snd_of_mem_doubleKeys names hNames (hFirstKey.symm.trans (heq ▸ hSecondKey))
  have hHasFirst : field.hasKey first.1 = true := by
    simp [Field.hasKey_iff, hKeys, hFirstKey]
  have hHasSecond : field.hasKey second.1 = true := by
    simp [Field.hasKey_iff, hKeys, hSecondKey]
  obtain ⟨e, hError⟩ : ∃ e, entries.foldlM
      (Document.readEntry Json.dialect (fields Json.dialect)) {} = .error e :=
    hGoverns.exists_readEntries_eq_error hFirst hSecond hNe hHasFirst hHasSecond {}
  have hDraft : Document.readDraft Json.dialect "EndpointDeclaration" (fields Json.dialect) {}
      (.object entries) = .error e := hError
  exact ⟨e, by rw [Declaration.read, hDraft]; rfl⟩

/-- **Every spelling of a declaration is read as that declaration.**  Its own JSON value is one of
them.  An object that gives one field under both of its keys is a fault, whatever else is in it. -/
theorem each_spelling_is_read (d : Declaration) :
    Declaration.read Json.dialect d.toJson = .ok d ∧
    (∀ value, IsRecord d.spellings value → Declaration.read Json.dialect value = .ok d) ∧
    ∀ names ∈ Declaration.doubleKeys, ∀ entries : List (String × Value),
      names.1 ∈ entries.map (·.1) → names.2 ∈ entries.map (·.1) →
      ∃ e, Declaration.read Json.dialect (.object entries) = .error e :=
  ⟨reads_declaration d _ d.isRecord_toJson, reads_declaration d,
    fun _ hNames _ => Declaration.exists_read_eq_error hNames⟩

/-- A declaration to write down: a command with a policy. -/
def orderCreation : Declaration where
  name := "Create"
  namespaceName := "app::orders"
  method := .post
  route := none
  controller := none
  statuses := [.ok, .badRequest]
  requiresAuth := true
  policy := some "orders:write"
  command := some { typeName := none, validation := true }
  query := none
  handler := some { params := [⟨"repo", "Arc<OrderRepository>"⟩, ⟨"command", "Command"⟩],
                    returns := none }

/-- The declaration under the second keys, with fields left out, a null, and records as arrays. -/
def orderCreationEntries : List (String × Value) :=
  [("name", .text "Create"), ("namespace", .text "app::orders"), ("method", .text "post"),
    ("produces", .array [.text "OK", .object [("bad_request", .null)]]), ("auth", .bool true),
    ("policy", .text "orders:write"), ("command", .object [("validation", .bool true)]),
    ("query", .null),
    ("handler", .array [.array [.array [.text "repo", .text "Arc<OrderRepository>"],
      .object [("name", .text "command"), ("type", .text "Command")]], .null])]

theorem orderCreation_isRecord :
    IsRecord orderCreation.spellings (.object orderCreationEntries) := by
  refine .object (.entries _ _ (List.Sublist.subperm
    (.cons_cons _ (.cons_cons _ (.cons_cons _ (.cons _ (.cons _ (.refl _))))))) ?_ ?_)
  · have hCommand : IsRecord (RequestType.spellings ⟨none, true⟩)
        (.object [("validation", .bool true)]) :=
      .object (.entries _ _ (List.Sublist.subperm (.cons _ (.refl _)))
        (.cons (isEntry_name rfl) .nil) (by simp [RequestType.spellings]))
    have hParam : IsRecord (Param.spellings ⟨"repo", "Arc<OrderRepository>"⟩)
        (.array [.text "repo", .text "Arc<OrderRepository>"]) :=
      .array (.elements _ (.cons rfl (.cons rfl .nil)))
    have hParams : IsList (fun p : Param => IsRecord p.spellings)
        [⟨"repo", "Arc<OrderRepository>"⟩, ⟨"command", "Command"⟩]
        (.array [.array [.text "repo", .text "Arc<OrderRepository>"],
          .object [("name", .text "command"), ("type", .text "Command")]]) :=
      ⟨_, rfl, .cons hParam (.cons (Param.isRecord_toJson ⟨"command", "Command"⟩) .nil)⟩
    have hStatuses : IsList (IsNamed statusNames) [.ok, .badRequest]
        (.array [.text "OK", .object [("bad_request", .null)]]) :=
      ⟨_, rfl, .cons ⟨"OK", by decide, Or.inl rfl⟩
        (.cons ⟨"bad_request", by decide, Or.inr rfl⟩ .nil)⟩
    exact
      .cons (isEntry_name rfl) <|
      .cons (isEntry_name rfl) <|
      .cons (isEntry_alias ⟨"post", by decide, Or.inl rfl⟩) <|
      .cons (isEntry_alias hStatuses) <|
      .cons (isEntry_alias rfl) <|
      .cons (isEntry_alias rfl) <|
      .cons (isEntry_name hCommand) <|
      .cons (isEntry_name rfl) <|
      .cons (isEntry_name (.array (.elements _ (.cons hParams (.cons rfl .nil))))) .nil
  · simp [Declaration.spellings, orderCreation]

theorem sample_spellings_are_read :
    Declaration.read Json.dialect (.object orderCreationEntries) = .ok orderCreation ∧
    ∃ e, Declaration.read Json.dialect
      (.object (("requires_auth", .bool true) :: orderCreationEntries)) = .error e :=
  ⟨(each_spelling_is_read orderCreation).2.1 _ orderCreation_isRecord,
    (each_spelling_is_read orderCreation).2.2 ("requires_auth", "auth") (by decide) _
      (by decide) (by decide)⟩

end Endpoint
end Switchboard
