import Switchboard.Proofs.Json.Quoted

/-!
# Layouts

A value can be laid out in many ways: between its tokens there may be any white space.  The two
spellings that are written are layouts of the value.  What a value is built of says how deep it nests
and what stands in it, and the first character of a layout tells what kind of value it lays out.  How
doubles are spelled is not looked at here.
-/

namespace Switchboard
namespace Json

/-- White space of the format, in any amount. -/
def IsGap (gap : List Char) : Prop :=
  ∀ c ∈ gap, isSpace c = true

/-- Neither an array nor an object. -/
def Value.IsScalar : Value → Prop
  | .array _ | .object _ => False
  | _ => True

mutual

/-- The text spells the value, with any white space between the tokens. -/
inductive IsLayout : Value → List Char → Prop
  | scalar {value : Value} (isScalar : value.IsScalar) : IsLayout value (scalar value)
  | array {items : List Value} {body : List Char} (elements : IsItemsLayout items body) :
      IsLayout (.array items) ('[' :: (body ++ [']']))
  | object {fields : List (String × Value)} {body : List Char}
      (members : IsFieldsLayout fields body) :
      IsLayout (.object fields) ('\x7b' :: (body ++ ['\x7d']))

/-- The text spells the elements of an array with commas between them. -/
inductive IsItemsLayout : List Value → List Char → Prop
  | empty {gap : List Char} (isGap : IsGap gap) : IsItemsLayout [] gap
  | last {item : Value} {before text after : List Char} (isGap : IsGap before)
      (isLayout : IsLayout item text) (isGapAfter : IsGap after) :
      IsItemsLayout [item] (before ++ (text ++ after))
  | more {item next : Value} {rest : List Value} {before text after body : List Char}
      (isGap : IsGap before) (isLayout : IsLayout item text) (isGapAfter : IsGap after)
      (elements : IsItemsLayout (next :: rest) body) :
      IsItemsLayout (item :: next :: rest) (before ++ (text ++ (after ++ ',' :: body)))

/-- The text spells the fields of an object with commas between them. -/
inductive IsFieldsLayout : List (String × Value) → List Char → Prop
  | empty {gap : List Char} (isGap : IsGap gap) : IsFieldsLayout [] gap
  | last (key : String) {value : Value} {before behindKey behindColon text after : List Char}
      (isGap : IsGap before) (isGapKey : IsGap behindKey) (isGapColon : IsGap behindColon)
      (isLayout : IsLayout value text) (isGapAfter : IsGap after) :
      IsFieldsLayout [(key, value)]
        (before ++ (quoted key ++ (behindKey ++ ':' :: (behindColon ++ (text ++ after)))))
  | more (key : String) {value : Value} {next : String × Value} {rest : List (String × Value)}
      {before behindKey behindColon text after body : List Char}
      (isGap : IsGap before) (isGapKey : IsGap behindKey) (isGapColon : IsGap behindColon)
      (isLayout : IsLayout value text) (isGapAfter : IsGap after)
      (members : IsFieldsLayout (next :: rest) body) :
      IsFieldsLayout ((key, value) :: next :: rest)
        (before ++ (quoted key ++ (behindKey ++ ':' ::
          (behindColon ++ (text ++ (after ++ ',' :: body))))))

end

theorem isGap_nil : IsGap [] := by
  simp [IsGap]

/-! ### The spellings that are written -/

mutual

theorem isLayout_compact : ∀ value, IsLayout value (compact value)
  | .null | .bool _ | .integer _ | .double _ | .text _ => .scalar trivial
  | .array items => .array (isItemsLayout_compactItems items)
  | .object fields => .object (isFieldsLayout_compactFields fields)

theorem isItemsLayout_compactItems : ∀ items, IsItemsLayout items (compactItems items)
  | [] => .empty isGap_nil
  | [item] => by
    have hLast := IsItemsLayout.last isGap_nil (isLayout_compact item) isGap_nil
    simpa [compactItems] using hLast
  | item :: next :: rest => by
    have hMore := IsItemsLayout.more isGap_nil (isLayout_compact item) isGap_nil
      (isItemsLayout_compactItems (next :: rest))
    simpa [compactItems] using hMore

theorem isFieldsLayout_compactFields : ∀ fields, IsFieldsLayout fields (compactFields fields)
  | [] => .empty isGap_nil
  | [(key, value)] => by
    have hLast := IsFieldsLayout.last key isGap_nil isGap_nil isGap_nil
      (isLayout_compact value) isGap_nil
    simpa [compactFields] using hLast
  | (key, value) :: next :: rest => by
    have hMore := IsFieldsLayout.more key isGap_nil isGap_nil isGap_nil
      (isLayout_compact value) isGap_nil (isFieldsLayout_compactFields (next :: rest))
    simpa [compactFields] using hMore

end

theorem isGap_lineBreak (level : Nat) : IsGap (lineBreak level) := by
  intro c hc
  rcases List.mem_cons.mp hc with rfl | hc
  · rfl
  · rw [List.eq_of_mem_replicate hc]
    rfl

theorem isGap_blank : IsGap [' '] := by
  simp [IsGap, isSpace]

mutual

theorem isLayout_indented (level : Nat) : ∀ value, IsLayout value (indented level value)
  | .null | .bool _ | .integer _ | .double _ | .text _ => .scalar trivial
  | .array [] => .array (.empty isGap_nil)
  | .array (item :: items) =>
    .array (isItemsLayout_indentedItems (level + 1) (isGap_lineBreak level) (item :: items))
  | .object [] => .object (.empty isGap_nil)
  | .object (field :: fields) =>
    .object (isFieldsLayout_indentedFields (level + 1) (isGap_lineBreak level) (field :: fields))

/-- The elements on lines of their own, and white space up to the closing bracket. -/
theorem isItemsLayout_indentedItems (level : Nat) {gap : List Char} (hGap : IsGap gap) :
    ∀ items, IsItemsLayout items (indentedItems level items ++ gap)
  | [] => .empty hGap
  | [item] => by
    have hLast := IsItemsLayout.last (isGap_lineBreak level) (isLayout_indented level item) hGap
    simpa [indentedItems] using hLast
  | item :: next :: rest => by
    have hMore := IsItemsLayout.more (isGap_lineBreak level) (isLayout_indented level item)
      isGap_nil (isItemsLayout_indentedItems level hGap (next :: rest))
    simpa [indentedItems] using hMore

/-- The fields on lines of their own, and white space up to the closing brace. -/
theorem isFieldsLayout_indentedFields (level : Nat) {gap : List Char} (hGap : IsGap gap) :
    ∀ fields, IsFieldsLayout fields (indentedFields level fields ++ gap)
  | [] => .empty hGap
  | [(key, value)] => by
    have hLast := IsFieldsLayout.last key (isGap_lineBreak level) isGap_nil isGap_blank
      (isLayout_indented level value) hGap
    simpa [indentedFields] using hLast
  | (key, value) :: next :: rest => by
    have hMore := IsFieldsLayout.more key (isGap_lineBreak level) isGap_nil isGap_blank
      (isLayout_indented level value) isGap_nil
      (isFieldsLayout_indentedFields level hGap (next :: rest))
    simpa [indentedFields] using hMore

end

/-- Both spellings of a value are layouts of it. -/
theorem isLayout_render (pretty : Bool) (value : Value) :
    IsLayout value (value.render pretty).toList := by
  rw [Value.render, String.toList_ofList]
  cases pretty with
  | true => exact isLayout_indented 0 value
  | false => exact isLayout_compact value

/-! ### What values are built of -/

/-- Arrays and objects nest at most `depth` deep, and all else in the value satisfies `Leaf`. -/
inductive Value.IsBuiltOf (Leaf : Value → Prop) : Nat → Value → Prop
  | scalar {depth : Nat} {value : Value} (isScalar : value.IsScalar) (leaf : Leaf value) :
      IsBuiltOf Leaf depth value
  | array {depth : Nat} {items : List Value} (each : ∀ item ∈ items, IsBuiltOf Leaf depth item) :
      IsBuiltOf Leaf (depth + 1) (.array items)
  | object {depth : Nat} {fields : List (String × Value)}
      (each : ∀ field ∈ fields, IsBuiltOf Leaf depth field.2) :
      IsBuiltOf Leaf (depth + 1) (.object fields)

theorem Value.IsBuiltOf.leaf {Leaf : Value → Prop} {depth : Nat} {value : Value}
    (hBuilt : value.IsBuiltOf Leaf depth) (hScalar : value.IsScalar) : Leaf value := by
  cases hBuilt with
  | scalar _ hLeaf => exact hLeaf
  | array => exact hScalar.elim
  | object => exact hScalar.elim

theorem Value.IsBuiltOf.mono {Leaf Leaf' : Value → Prop} (hLeaf : ∀ value, Leaf value → Leaf' value)
    {depth : Nat} {value : Value} (hBuilt : value.IsBuiltOf Leaf depth) :
    value.IsBuiltOf Leaf' depth := by
  induction hBuilt with
  | scalar hScalar hValue => exact .scalar hScalar (hLeaf _ hValue)
  | array _ ih => exact .array ih
  | object _ ih => exact .object ih

theorem Value.IsBuiltOf.map {Leaf : Value → Prop} {depth : Nat} {α : Type} {toJson : α → Value}
    (hEach : ∀ a, (toJson a).IsBuiltOf Leaf depth) (items : List α) :
    (Value.array (items.map toJson)).IsBuiltOf Leaf (depth + 1) :=
  .array (by simpa using fun a _ => hEach a)

theorem Value.IsBuiltOf.items {Leaf : Value → Prop} {depth : Nat} {items : List Value}
    (hBuilt : (Value.array items).IsBuiltOf Leaf depth) :
    ∀ item ∈ items, item.IsBuiltOf Leaf (depth - 1) := by
  cases hBuilt with
  | scalar hScalar => exact hScalar.elim
  | array hEach => exact hEach

theorem Value.IsBuiltOf.fields {Leaf : Value → Prop} {depth : Nat} {fields : List (String × Value)}
    (hBuilt : (Value.object fields).IsBuiltOf Leaf depth) :
    ∀ field ∈ fields, field.2.IsBuiltOf Leaf (depth - 1) := by
  cases hBuilt with
  | scalar hScalar => exact hScalar.elim
  | object hEach => exact hEach

section Leaves

variable {Leaf : Value → Prop} {depth : Nat}

theorem Value.isBuiltOf_iff_of_isScalar {value : Value} (hScalar : value.IsScalar) :
    value.IsBuiltOf Leaf depth ↔ Leaf value :=
  ⟨fun hBuilt => hBuilt.leaf hScalar, .scalar hScalar⟩

@[simp]
theorem Value.isBuiltOf_text_iff {s : String} :
    (Value.text s).IsBuiltOf Leaf depth ↔ Leaf (.text s) :=
  Value.isBuiltOf_iff_of_isScalar trivial

@[simp]
theorem Value.isBuiltOf_bool_iff {flag : Bool} :
    (Value.bool flag).IsBuiltOf Leaf depth ↔ Leaf (.bool flag) :=
  Value.isBuiltOf_iff_of_isScalar trivial

@[simp]
theorem Value.isBuiltOf_integer_iff {n : Int} :
    (Value.integer n).IsBuiltOf Leaf depth ↔ Leaf (.integer n) :=
  Value.isBuiltOf_iff_of_isScalar trivial

@[simp]
theorem Value.isBuiltOf_ofText?_iff {o : Option String} :
    (Value.ofText? o).IsBuiltOf Leaf depth ↔ Leaf (.ofText? o) := by
  cases o <;> exact Value.isBuiltOf_iff_of_isScalar trivial

end Leaves

/-- Not a number. -/
def Value.IsWord : Value → Prop
  | .integer _ | .double _ => False
  | _ => True

/-- Not a double. -/
def Value.IsExact : Value → Prop
  | .double _ => False
  | _ => True

theorem Value.IsWord.isExact {value : Value} (hWord : value.IsWord) : value.IsExact := by
  cases value <;> simp_all [Value.IsWord, Value.IsExact]

@[simp]
theorem Value.isWord_text (s : String) : (Value.text s).IsWord :=
  trivial

@[simp]
theorem Value.isWord_bool (flag : Bool) : (Value.bool flag).IsWord :=
  trivial

@[simp]
theorem Value.isWord_ofText? (o : Option String) : (Value.ofText? o).IsWord := by
  cases o <;> trivial

@[simp]
theorem Value.isExact_text (s : String) : (Value.text s).IsExact :=
  trivial

@[simp]
theorem Value.isExact_integer (n : Int) : (Value.integer n).IsExact :=
  trivial

@[simp]
theorem Value.isExact_ofText? (o : Option String) : (Value.ofText? o).IsExact :=
  (Value.isWord_ofText? o).isExact

/-! ### What values start with -/

/-- What the first character of a value tells of it. -/
inductive Lead where
  | null
  | flag (value : Bool)
  | number
  | text
  | array
  | object
deriving DecidableEq

def Lead.ofChar (c : Char) : Lead :=
  if c = 'n' then .null else if c = 't' then .flag true else if c = 'f' then .flag false
  else if c = '"' then .text else if c = '[' then .array else if c = '\x7b' then .object
  else .number

def Value.lead : Value → Lead
  | .null => .null
  | .bool value => .flag value
  | .integer _ | .double _ => .number
  | .text _ => .text
  | .array _ => .array
  | .object _ => .object

theorem toList_toString (n : Int) :
    (toString n).toList =
      if n < 0 then '-' :: Nat.toDigits 10 n.natAbs else Nat.toDigits 10 n.natAbs := by
  cases n with
  | ofNat n =>
      rw [Int.toString_eq_repr, Int.repr]
      simp [Nat.toList_repr]
  | negSucc n =>
      rw [Int.toString_eq_repr, Int.repr]
      simp [Nat.toList_repr, Int.negSucc_lt_zero]

/-- A whole number is spelled with digits and a sign in front. -/
theorem mem_toString {n : Int} {c : Char} (hMem : c ∈ (toString n).toList) :
    c = '-' ∨ c.isDigit = true := by
  have hDigit {c : Char} (hMem : c ∈ Nat.toDigits 10 n.natAbs) : c.isDigit = true :=
    Nat.isDigit_of_mem_toDigits (by decide) (by decide) hMem
  rw [toList_toString] at hMem
  split at hMem
  · exact (List.mem_cons.mp hMem).imp_right hDigit
  · exact .inr (hDigit hMem)

/-- A digit is none of the other marks. -/
theorem lead_of_isDigit {c : Char} (hDigit : c.isDigit = true) :
    Lead.ofChar c = .number ∧ isSpace c = false ∧ c ≠ ']' := by
  have hNe (mark : Char) (hMark : mark.isDigit = false) : c ≠ mark := by
    rintro rfl
    simp [hMark] at hDigit
  refine ⟨?_, ?_, hNe ']' rfl⟩
  · simp [Lead.ofChar, hNe 'n' rfl, hNe 't' rfl, hNe 'f' rfl, hNe '"' rfl, hNe '[' rfl,
      hNe '\x7b' rfl]
  · simp [isSpace, hNe ' ' rfl, hNe '\n' rfl, hNe '\t' rfl, hNe '\r' rfl]

/-- A whole number starts with its sign or with a digit. -/
theorem exists_cons_toString (n : Int) : ∃ c rest, (toString n).toList = c :: rest ∧
    Lead.ofChar c = .number ∧ isSpace c = false ∧ c ≠ ']' := by
  rw [toList_toString]
  split
  · exact ⟨'-', _, rfl, by decide, by decide, by decide⟩
  · obtain ⟨c, rest, hDigits⟩ := List.exists_cons_of_ne_nil (Nat.toDigits_ne_nil (n := n.natAbs))
    have hDigit : c.isDigit = true :=
      Nat.isDigit_of_mem_toDigits (b := 10) (n := n.natAbs) (by decide) (by decide)
        (hDigits ▸ List.mem_cons_self)
    exact ⟨c, rest, hDigits, lead_of_isDigit hDigit⟩

/-- The first character of a value tells its lead, and is no white space and no closing bracket. -/
theorem exists_cons_of_isLayout {value : Value} {text : List Char} (hLayout : IsLayout value text)
    {depth : Nat} (hBuilt : value.IsBuiltOf Value.IsExact depth) :
    ∃ c rest, text = c :: rest ∧ Lead.ofChar c = value.lead ∧ isSpace c = false ∧ c ≠ ']' := by
  cases hLayout with
  | scalar hScalar =>
      cases value with
      | null => exact ⟨'n', _, rfl, rfl, rfl, by decide⟩
      | bool flag => cases flag <;> exact ⟨_, _, rfl, rfl, rfl, by decide⟩
      | integer n => exact exists_cons_toString n
      | double x => exact (hBuilt.leaf hScalar).elim
      | text s => exact ⟨'"', _, rfl, rfl, rfl, by decide⟩
      | array items => exact hScalar.elim
      | object fields => exact hScalar.elim
  | array => exact ⟨'[', _, rfl, rfl, rfl, by decide⟩
  | object => exact ⟨'\x7b', _, rfl, rfl, rfl, by decide⟩

end Json
end Switchboard
