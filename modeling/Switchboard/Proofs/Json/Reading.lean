import Mathlib.Data.List.DropRight
import Switchboard.Proofs.Json.Layout

/-!
# Reading layouts

Every layout of a value without numbers is read, whatever follows it: the value comes back with the
fields of its objects in ascending order of their keys, the last one of each key.  The fuel that is
taken from the length of a text is enough, and only the depth of the value bounds what can be read.
-/

namespace Switchboard
namespace Json

/-! ### Values as reading gives them -/

mutual

/-- The value with the fields of its objects in order. -/
def Value.sorted : Value → Value
  | .array items => .array (sortedItems items)
  | .object fields => .object (ordered (sortedFields fields))
  | .null => .null
  | .bool value => .bool value
  | .integer value => .integer value
  | .double value => .double value
  | .text value => .text value

/-- The elements of an array with the fields of their objects in order. -/
def sortedItems : List Value → List Value
  | [] => []
  | item :: rest => item.sorted :: sortedItems rest

/-- The fields of an object, in their order, with the fields of objects in them in order. -/
def sortedFields : List (String × Value) → List (String × Value)
  | [] => []
  | (key, value) :: rest => (key, value.sorted) :: sortedFields rest

end

theorem sortedItems_eq_map (items : List Value) : sortedItems items = items.map Value.sorted := by
  induction items with
  | nil => rfl
  | cons item rest ih => rw [sortedItems, ih, List.map_cons]

theorem sortedFields_eq_map (fields : List (String × Value)) :
    sortedFields fields = fields.map fun field => (field.1, field.2.sorted) := by
  induction fields with
  | nil => rfl
  | cons field rest ih => rw [sortedFields, ih, List.map_cons]

/-! ### White space in front -/

theorem skipSpace_append {gap : List Char} (hGap : IsGap gap) (cs : List Char) :
    skipSpace (gap ++ cs) = skipSpace cs :=
  List.dropWhile_append_of_pos hGap

theorem skipSpace_cons {c : Char} (hSpace : isSpace c = false) (cs : List Char) :
    skipSpace (c :: cs) = c :: cs :=
  List.dropWhile_cons_of_neg (by simp [hSpace])

theorem skipSpace_append_cons {gap : List Char} (hGap : IsGap gap) {c : Char}
    (hSpace : isSpace c = false) (cs : List Char) : skipSpace (gap ++ c :: cs) = c :: cs := by
  rw [skipSpace_append hGap, skipSpace_cons hSpace]

theorem skipSpace_skipSpace (cs : List Char) : skipSpace (skipSpace cs) = skipSpace cs :=
  List.dropWhile_idempotent isSpace cs

theorem readValue_skipSpace (fuel depth : Nat) (cs : List Char) :
    readValue fuel depth (skipSpace cs) = readValue fuel depth cs := by
  cases fuel with
  | zero => rfl
  | succ fuel => rw [readValue, readValue, skipSpace_skipSpace]

theorem readItems_skipSpace (fuel depth : Nat) (cs : List Char) :
    readItems fuel depth (skipSpace cs) = readItems fuel depth cs := by
  cases fuel with
  | zero => rfl
  | succ fuel => rw [readItems, readItems, readValue_skipSpace]

theorem readFields_skipSpace (fuel depth : Nat) (cs : List Char) :
    readFields fuel depth (skipSpace cs) = readFields fuel depth cs := by
  cases fuel with
  | zero => rfl
  | succ fuel => rw [readFields, readFields, skipSpace_skipSpace]

theorem readValue_append {gap : List Char} (hGap : IsGap gap) (fuel depth : Nat) (cs : List Char) :
    readValue fuel depth (gap ++ cs) = readValue fuel depth cs := by
  rw [← readValue_skipSpace, skipSpace_append hGap, readValue_skipSpace]

theorem readFields_append {gap : List Char} (hGap : IsGap gap) (fuel depth : Nat)
    (cs : List Char) : readFields fuel depth (gap ++ cs) = readFields fuel depth cs := by
  rw [← readFields_skipSpace, skipSpace_append hGap, readFields_skipSpace]

/-! ### Brackets and braces -/

theorem readValue_emptyArray {gap : List Char} (hGap : IsGap gap) (fuel depth : Nat)
    (rest : List Char) :
    readValue (fuel + 1) (depth + 1) ('[' :: (gap ++ ']' :: rest)) = some (.array [], rest) := by
  rw [readValue, skipSpace_cons rfl]
  simp [skipSpace_append_cons hGap (show isSpace ']' = false from rfl)]

theorem readValue_array {cs : List Char} (hBody : (skipSpace cs).head? ≠ some ']')
    (fuel depth : Nat) :
    readValue (fuel + 1) (depth + 1) ('[' :: cs) =
      (readItems fuel depth cs).map fun (items, rest) => (.array items, rest) := by
  rw [readValue, skipSpace_cons rfl, ← readItems_skipSpace]
  simp only [Nat.add_one_ne_zero, if_false, Nat.add_sub_cancel]
  split
  · rename_i hEq
    simp [hEq] at hBody
  · rfl

theorem readValue_emptyObject {gap : List Char} (hGap : IsGap gap) (fuel depth : Nat)
    (rest : List Char) :
    readValue (fuel + 1) (depth + 1) ('\x7b' :: (gap ++ '\x7d' :: rest)) =
      some (.object [], rest) := by
  rw [readValue, skipSpace_cons rfl]
  simp [skipSpace_append_cons hGap (show isSpace '\x7d' = false from rfl)]

theorem readValue_object {cs : List Char} (hBody : (skipSpace cs).head? ≠ some '\x7d')
    (fuel depth : Nat) :
    readValue (fuel + 1) (depth + 1) ('\x7b' :: cs) =
      (readFields fuel depth cs).map fun (fields, rest) => (.object (ordered fields), rest) := by
  rw [readValue, skipSpace_cons rfl, ← readFields_skipSpace]
  simp only [Nat.add_one_ne_zero, if_false, Nat.add_sub_cancel]
  split
  · rename_i hEq
    simp [hEq] at hBody
  · rfl

/-! ### Elements and fields -/

section Steps

variable {fuel depth : Nat} {after : List Char} (hAfter : IsGap after)

include hAfter

/-- The last element is followed by the closing bracket. -/
theorem readItems_last {cs rest : List Char} {item : Value}
    (hItem : readValue fuel depth cs = some (item, after ++ ']' :: rest)) :
    readItems (fuel + 1) depth cs = some ([item], rest) := by
  have hMark : skipSpace (after ++ ']' :: rest) = ']' :: rest := skipSpace_append_cons hAfter rfl _
  simp [readItems, hItem, hMark]

/-- Any other element is followed by a comma and further elements. -/
theorem readItems_more {cs body rest : List Char} {item : Value} {items : List Value}
    (hItem : readValue fuel depth cs = some (item, after ++ ',' :: body))
    (hItems : readItems fuel depth body = some (items, rest)) :
    readItems (fuel + 1) depth cs = some (item :: items, rest) := by
  have hMark : skipSpace (after ++ ',' :: body) = ',' :: body := skipSpace_append_cons hAfter rfl _
  simp [readItems, hItem, hMark, hItems]

variable {behindKey : List Char} (hBehindKey : IsGap behindKey)

include hBehindKey

/-- The last field is followed by the closing brace. -/
theorem readFields_last (key : String) {cs rest : List Char} {value : Value}
    (hValue : readValue fuel depth cs = some (value, after ++ '\x7d' :: rest)) :
    readFields (fuel + 1) depth (quoted key ++ (behindKey ++ ':' :: cs)) =
      some ([(key, value)], rest) := by
  have hColon : skipSpace (behindKey ++ ':' :: cs) = ':' :: cs :=
    skipSpace_append_cons hBehindKey rfl _
  have hMark : skipSpace (after ++ '\x7d' :: rest) = '\x7d' :: rest :=
    skipSpace_append_cons hAfter rfl _
  rw [quoted, List.cons_append, readFields, skipSpace_cons rfl]
  simp [readQuoted_flatMap_escaped, hColon, hValue, hMark]

/-- Any other field is followed by a comma and further fields. -/
theorem readFields_more (key : String) {cs body rest : List Char} {value : Value}
    {fields : List (String × Value)}
    (hValue : readValue fuel depth cs = some (value, after ++ ',' :: body))
    (hFields : readFields fuel depth body = some (fields, rest)) :
    readFields (fuel + 1) depth (quoted key ++ (behindKey ++ ':' :: cs)) =
      some ((key, value) :: fields, rest) := by
  have hColon : skipSpace (behindKey ++ ':' :: cs) = ':' :: cs :=
    skipSpace_append_cons hBehindKey rfl _
  have hMark : skipSpace (after ++ ',' :: body) = ',' :: body := skipSpace_append_cons hAfter rfl _
  rw [quoted, List.cons_append, readFields, skipSpace_cons rfl]
  simp [readQuoted_flatMap_escaped, hColon, hValue, hMark, hFields]

end Steps

/-! ### Layouts -/

theorem readValue_scalar {value : Value} (hScalar : value.IsScalar) (hWord : value.IsWord)
    (fuel depth : Nat) (rest : List Char) :
    readValue (fuel + 1) depth (scalar value ++ rest) = some (value.sorted, rest) := by
  cases value with
  | null => rfl
  | bool flag => cases flag <;> rfl
  | text s =>
      rw [scalar, quoted, List.cons_append, readValue, skipSpace_cons rfl]
      simp [readQuoted_flatMap_escaped, Value.sorted]
  | integer n => exact hWord.elim
  | double x => exact hWord.elim
  | array items => exact hScalar.elim
  | object fields => exact hScalar.elim

/-- What is not white space comes first in a text with white space in front. -/
theorem head?_skipSpace_append {gap text : List Char} (hGap : IsGap gap) {c : Char}
    {more : List Char} (hText : text = c :: more) (hSpace : isSpace c = false) (cs : List Char) :
    (skipSpace (gap ++ (text ++ cs))).head? = some c := by
  rw [hText, List.cons_append, skipSpace_append_cons hGap hSpace, List.head?_cons]

theorem head?_skipSpace_items {item : Value} {items : List Value} {body : List Char}
    (hElements : IsItemsLayout (item :: items) body) {depth : Nat}
    (hBuilt : item.IsBuiltOf Value.IsExact depth) (cs : List Char) :
    (skipSpace (body ++ cs)).head? ≠ some ']' := by
  cases hElements with
  | last hGap hLayout hAfter =>
      obtain ⟨c, more, hText, -, hSpace, hNe⟩ := exists_cons_of_isLayout hLayout hBuilt
      simp [head?_skipSpace_append hGap hText hSpace, hNe]
  | more hGap hLayout hAfter elements =>
      obtain ⟨c, more, hText, -, hSpace, hNe⟩ := exists_cons_of_isLayout hLayout hBuilt
      simp [head?_skipSpace_append hGap hText hSpace, hNe]

theorem head?_skipSpace_fields {field : String × Value} {fields : List (String × Value)}
    {body : List Char} (hMembers : IsFieldsLayout (field :: fields) body) (cs : List Char) :
    (skipSpace (body ++ cs)).head? ≠ some '\x7d' := by
  cases hMembers with
  | last key hGap _ _ _ _ =>
      simp [head?_skipSpace_append hGap (show quoted key = '"' :: _ from rfl) rfl]
  | more key hGap _ _ _ _ _ =>
      simp [head?_skipSpace_append hGap (show quoted key = '"' :: _ from rfl) rfl]

-- Along the layout.  Each bracket and each step from one part to the next takes one from the fuel,
-- and there is a character of the text for each of them, so twice the length is enough.
mutual

/-- A layout of a value is read as the value, whatever follows it. -/
theorem readValue_of_isLayout : ∀ {value : Value} {text : List Char}, IsLayout value text →
    ∀ {fuel depth : Nat} (rest : List Char), value.IsBuiltOf Value.IsWord depth →
      2 * text.length ≤ fuel → readValue fuel depth (text ++ rest) = some (value.sorted, rest)
  | value, _, .scalar hScalar, fuel, depth, rest, hBuilt, hFuel => by
    obtain ⟨c, more, hText, -⟩ := exists_cons_of_isLayout (.scalar hScalar)
      (hBuilt.mono fun _ => Value.IsWord.isExact)
    have hPos : 0 < (scalar value).length := by simp [hText]
    obtain ⟨fuel, rfl⟩ : ∃ n, fuel = n + 1 := ⟨fuel - 1, by omega⟩
    exact readValue_scalar hScalar (hBuilt.leaf hScalar) fuel depth rest
  | _, _, @IsLayout.array [] _ (.empty hGap), fuel, depth + 1, rest, .array _, hFuel => by
    obtain ⟨fuel, rfl⟩ : ∃ n, fuel = n + 1 := ⟨fuel - 1, by simp at hFuel; omega⟩
    simpa [Value.sorted, sortedItems] using readValue_emptyArray hGap fuel depth rest
  | _, _, @IsLayout.array (item :: items) body elements, fuel, depth + 1, rest,
      .array hEach, hFuel => by
    obtain ⟨fuel, rfl⟩ : ∃ n, fuel = n + 1 := ⟨fuel - 1, by simp at hFuel; omega⟩
    have hBody : 2 * body.length < fuel := by simp at hFuel; omega
    have hItems := readItems_of_isLayout elements (List.cons_ne_nil _ _) rest hEach hBody
    have hHead := head?_skipSpace_items elements
      ((hEach item List.mem_cons_self).mono fun _ => Value.IsWord.isExact) (']' :: rest)
    simpa [Value.sorted, hItems] using readValue_array hHead fuel depth
  | _, _, @IsLayout.object [] _ (.empty hGap), fuel, depth + 1, rest, .object _, hFuel => by
    obtain ⟨fuel, rfl⟩ : ∃ n, fuel = n + 1 := ⟨fuel - 1, by simp at hFuel; omega⟩
    simpa [Value.sorted, sortedFields, ordered] using readValue_emptyObject hGap fuel depth rest
  | _, _, @IsLayout.object (field :: fields) body members, fuel, depth + 1, rest,
      .object hEach, hFuel => by
    obtain ⟨fuel, rfl⟩ : ∃ n, fuel = n + 1 := ⟨fuel - 1, by simp at hFuel; omega⟩
    have hBody : 2 * body.length < fuel := by simp at hFuel; omega
    have hFields := readFields_of_isLayout members (List.cons_ne_nil _ _) rest hEach hBody
    have hHead := head?_skipSpace_fields members ('\x7d' :: rest)
    simpa [Value.sorted, hFields] using readValue_object hHead fuel depth

/-- The elements of an array are read up to the closing bracket. -/
theorem readItems_of_isLayout : ∀ {items : List Value} {body : List Char},
    IsItemsLayout items body → items ≠ [] → ∀ {fuel depth : Nat} (rest : List Char),
      (∀ item ∈ items, item.IsBuiltOf Value.IsWord depth) → 2 * body.length < fuel →
      readItems fuel depth (body ++ ']' :: rest) = some (sortedItems items, rest)
  | _, _, .empty _, hNe, _, _, _, _, _ => absurd rfl hNe
  | _, _, @IsItemsLayout.last item _ text after hGap hLayout hAfter, _, fuel + 1, depth, rest,
      hEach, hFuel => by
    have hText : 2 * text.length ≤ fuel := by simp at hFuel; omega
    have hItem := readValue_of_isLayout hLayout (after ++ ']' :: rest)
      (hEach item List.mem_cons_self) hText
    have hLast := readItems_last hAfter ((readValue_append hGap fuel depth _).trans hItem)
    simpa [sortedItems] using hLast
  | _, _, @IsItemsLayout.more item _ _ _ text after body hGap hLayout hAfter elements, _,
      fuel + 1, depth, rest, hEach, hFuel => by
    have hText : 2 * text.length ≤ fuel := by simp at hFuel; omega
    have hBody : 2 * body.length < fuel := by simp at hFuel; omega
    have hItem := readValue_of_isLayout hLayout (after ++ ',' :: (body ++ ']' :: rest))
      (hEach item List.mem_cons_self) hText
    have hItems := readItems_of_isLayout elements (List.cons_ne_nil _ _) rest
      (fun value hValue => hEach value (List.mem_cons_of_mem _ hValue)) hBody
    have hMore := readItems_more hAfter ((readValue_append hGap fuel depth _).trans hItem) hItems
    simpa [sortedItems] using hMore

/-- The fields of an object are read up to the closing brace. -/
theorem readFields_of_isLayout : ∀ {fields : List (String × Value)} {body : List Char},
    IsFieldsLayout fields body → fields ≠ [] → ∀ {fuel depth : Nat} (rest : List Char),
      (∀ field ∈ fields, field.2.IsBuiltOf Value.IsWord depth) → 2 * body.length < fuel →
      readFields fuel depth (body ++ '\x7d' :: rest) = some (sortedFields fields, rest)
  | _, _, .empty _, hNe, _, _, _, _, _ => absurd rfl hNe
  | _, _, @IsFieldsLayout.last key value _ _ _ text after hGap hKey hColon hLayout hAfter, _,
      fuel + 1, depth, rest, hEach, hFuel => by
    have hText : 2 * text.length ≤ fuel := by simp at hFuel; omega
    have hValue := readValue_of_isLayout hLayout (after ++ '\x7d' :: rest)
      (hEach (key, value) List.mem_cons_self) hText
    have hLast := readFields_last hAfter hKey key
      ((readValue_append hColon fuel depth _).trans hValue)
    simpa [sortedFields] using (readFields_append hGap (fuel + 1) depth _).trans hLast
  | _, _, @IsFieldsLayout.more key value _ _ _ _ _ text after body hGap hKey hColon hLayout hAfter
      members, _, fuel + 1, depth, rest, hEach, hFuel => by
    have hText : 2 * text.length ≤ fuel := by simp at hFuel; omega
    have hBody : 2 * body.length < fuel := by simp at hFuel; omega
    have hValue := readValue_of_isLayout hLayout (after ++ ',' :: (body ++ '\x7d' :: rest))
      (hEach (key, value) List.mem_cons_self) hText
    have hFields := readFields_of_isLayout members (List.cons_ne_nil _ _) rest
      (fun member hMember => hEach member (List.mem_cons_of_mem _ hMember)) hBody
    have hMore := readFields_more hAfter hKey key
      ((readValue_append hColon fuel depth _).trans hValue) hFields
    simpa [sortedFields] using (readFields_append hGap (fuel + 1) depth _).trans hMore

end

/-- A text that is a layout of a value holds this value. -/
theorem parse?_of_isLayout {value : Value} {text : String}
    (hLayout : IsLayout value text.toList) (hBuilt : value.IsBuiltOf Value.IsWord maxDepth) :
    parse? text = some value.sorted := by
  have hRead : readValue (2 * text.toList.length + 2) maxDepth (text.toList ++ []) =
      some (value.sorted, []) := readValue_of_isLayout hLayout [] hBuilt (by omega)
  rw [List.append_nil] at hRead
  simp only [parse?, hRead, Option.bind_some]
  rfl

/-- Reading undoes writing, but for the order of fields. -/
theorem parse?_render (pretty : Bool) {value : Value}
    (hBuilt : value.IsBuiltOf Value.IsWord maxDepth) :
    parse? (value.render pretty) = some value.sorted :=
  parse?_of_isLayout (isLayout_render pretty value) hBuilt

end Json
end Switchboard
