import Switchboard.Proofs.Json.Layout

/-!
# Layouts without white space

Leaving out the white space of a layout that stands outside strings makes the compact spelling of the
value, and the compact spelling tells the value: what starts with it tells the value and what follows
it.  So the value can be told from any of its layouts.  Both are shown for values without doubles;
how doubles are spelled is not looked at here.
-/

namespace Switchboard
namespace Json

/-- The text without the white space outside strings, where `inside` says whether the text starts
inside a string.  Inside a string the character behind a backslash never ends the string. -/
def withoutSpace : (inside : Bool) → List Char → List Char
  | _, [] => []
  | true, '"' :: rest => '"' :: withoutSpace false rest
  | true, '\\' :: c :: rest => '\\' :: c :: withoutSpace true rest
  | true, c :: rest => c :: withoutSpace true rest
  | false, '"' :: rest => '"' :: withoutSpace true rest
  | false, c :: rest =>
    if isSpace c then withoutSpace false rest else c :: withoutSpace false rest

/-! ### Outside strings -/

theorem withoutSpace_of_isSpace {c : Char} (hSpace : isSpace c = true) (rest : List Char) :
    withoutSpace false (c :: rest) = withoutSpace false rest := by
  have hQuote : c ≠ '"' := by
    rintro rfl
    simp [isSpace] at hSpace
  rw [withoutSpace, if_pos hSpace]
  exact hQuote

theorem withoutSpace_of_ne {c : Char} (hSpace : isSpace c = false) (hQuote : c ≠ '"')
    (rest : List Char) : withoutSpace false (c :: rest) = c :: withoutSpace false rest := by
  rw [withoutSpace, if_neg (by simp [hSpace])]
  exact hQuote

theorem withoutSpace_gap {gap : List Char} (hGap : IsGap gap) (rest : List Char) :
    withoutSpace false (gap ++ rest) = withoutSpace false rest := by
  induction gap with
  | nil => rfl
  | cons c gap ih =>
      rw [List.cons_append, withoutSpace_of_isSpace (hGap c List.mem_cons_self)]
      exact ih fun d hd => hGap d (List.mem_cons_of_mem _ hd)

/-- Characters other than white space and quotes stay. -/
theorem withoutSpace_append {cs : List Char} (hPlain : ∀ c ∈ cs, isSpace c = false ∧ c ≠ '"')
    (rest : List Char) : withoutSpace false (cs ++ rest) = cs ++ withoutSpace false rest := by
  induction cs with
  | nil => rfl
  | cons c cs ih =>
      obtain ⟨hSpace, hQuote⟩ := hPlain c List.mem_cons_self
      rw [List.cons_append, withoutSpace_of_ne hSpace hQuote,
        ih fun d hd => hPlain d (List.mem_cons_of_mem _ hd), List.cons_append]

/-! ### Inside strings -/

/-- The digits of a number are no marks of a string. -/
theorem ne_mark_of_hexQuad? {a b c d : Char} {n : Nat} (hDigits : hexQuad? a b c d = some n) :
    (c ≠ '"' ∧ c ≠ '\\') ∧ d ≠ '"' ∧ d ≠ '\\' := by
  have hMark {mark : Char} (hSome : (hexValue? mark).isSome = true) : mark ≠ '"' ∧ mark ≠ '\\' := by
    constructor <;> rintro rfl <;> simp [hexValue?] at hSome
  have hBoth : (hexValue? c).isSome = true ∧ (hexValue? d).isSome = true := by
    cases hC : hexValue? c <;> cases hD : hexValue? d <;> simp_all [hexQuad?]
  exact ⟨hMark hBoth.1, hMark hBoth.2⟩

theorem withoutSpace_inside {c : Char} (hQuote : c ≠ '"') (hBackslash : c ≠ '\\')
    (rest : List Char) : withoutSpace true (c :: rest) = c :: withoutSpace true rest := by
  rw [withoutSpace]
  · exact hQuote
  · exact fun _ _ hEq => (hBackslash hEq).elim

/-- A character of a string stays in whichever form it stands. -/
theorem withoutSpace_of_isEscaped {c : Char} {form : List Char} (hForm : IsEscaped c form)
    (rest : List Char) : withoutSpace true (form ++ rest) = form ++ withoutSpace true rest := by
  cases hForm with
  | plain hQuote hBackslash hVisible => exact withoutSpace_inside hQuote hBackslash rest
  | short mark hEscape => rfl
  | numbered high low hDigits hControl =>
      obtain ⟨⟨hHigh, hHigh'⟩, hLow, hLow'⟩ := ne_mark_of_hexQuad? hDigits
      have hZero := withoutSpace_inside (show '0' ≠ '"' by decide) (by decide)
      -- The backslash takes the letter behind it along, the digits stand for themselves.
      simp [withoutSpace, hZero, withoutSpace_inside hHigh hHigh', withoutSpace_inside hLow hLow']

theorem withoutSpace_quoted (s : String) (rest : List Char) :
    withoutSpace false (quoted s ++ rest) = quoted s ++ withoutSpace false rest := by
  have hText (text : List Char) :
      withoutSpace true (text.flatMap escaped ++ '"' :: rest) =
        text.flatMap escaped ++ '"' :: withoutSpace false rest := by
    induction text with
    | nil => rfl
    | cons c text ih =>
        rw [List.flatMap_cons, List.append_assoc, withoutSpace_of_isEscaped (isEscaped_escaped c),
          ih, List.append_assoc]
  simp [quoted, withoutSpace, hText]

/-! ### Layouts -/

theorem withoutSpace_scalar {value : Value} (hScalar : value.IsScalar) (hExact : value.IsExact)
    (rest : List Char) :
    withoutSpace false (scalar value ++ rest) = compact value ++ withoutSpace false rest := by
  cases value with
  | null => rfl
  | bool flag => cases flag <;> rfl
  | integer n =>
      refine withoutSpace_append (fun c hc => ?_) rest
      obtain rfl | hDigit := mem_toString hc
      · exact ⟨rfl, by decide⟩
      · refine ⟨(lead_of_isDigit hDigit).2.1, ?_⟩
        rintro rfl
        simp at hDigit
  | text s => exact withoutSpace_quoted s rest
  | double x => exact hExact.elim
  | array items => exact hScalar.elim
  | object fields => exact hScalar.elim

mutual

/-- Leaving out white space turns a layout into the compact spelling, whatever follows it. -/
theorem withoutSpace_of_isLayout : ∀ {value : Value} {text : List Char}, IsLayout value text →
    ∀ {depth : Nat} (rest : List Char), value.IsBuiltOf Value.IsExact depth →
      withoutSpace false (text ++ rest) = compact value ++ withoutSpace false rest
  | _, _, .scalar hScalar, _, rest, hBuilt =>
    withoutSpace_scalar hScalar (hBuilt.leaf hScalar) rest
  | _, _, .array elements, _ + 1, rest, .array hEach => by
    have hItems := withoutSpace_of_isItemsLayout elements (']' :: rest) hEach
    simp (disch := decide) [compact, withoutSpace_of_ne, hItems]
  | _, _, .object members, _ + 1, rest, .object hEach => by
    have hFields := withoutSpace_of_isFieldsLayout members ('\x7d' :: rest) hEach
    simp (disch := decide) [compact, withoutSpace_of_ne, hFields]

theorem withoutSpace_of_isItemsLayout : ∀ {items : List Value} {body : List Char},
    IsItemsLayout items body → ∀ {depth : Nat} (rest : List Char),
      (∀ item ∈ items, item.IsBuiltOf Value.IsExact depth) →
      withoutSpace false (body ++ rest) = compactItems items ++ withoutSpace false rest
  | _, _, .empty hGap, _, rest, _ => withoutSpace_gap hGap rest
  | _, _, @IsItemsLayout.last item _ _ after hGap hLayout hAfter, _, rest, hEach => by
    have hItem := withoutSpace_of_isLayout hLayout (after ++ rest)
      (hEach item List.mem_cons_self)
    simp [compactItems, withoutSpace_gap hGap, hItem, withoutSpace_gap hAfter]
  | _, _, @IsItemsLayout.more item _ _ _ _ after body hGap hLayout hAfter elements, _, rest,
      hEach => by
    have hItem := withoutSpace_of_isLayout hLayout (after ++ ',' :: (body ++ rest))
      (hEach item List.mem_cons_self)
    have hItems := withoutSpace_of_isItemsLayout elements rest fun value hValue =>
      hEach value (List.mem_cons_of_mem _ hValue)
    simp (disch := decide) [compactItems, withoutSpace_gap hGap, hItem, withoutSpace_gap hAfter,
      withoutSpace_of_ne, hItems]

theorem withoutSpace_of_isFieldsLayout : ∀ {fields : List (String × Value)} {body : List Char},
    IsFieldsLayout fields body → ∀ {depth : Nat} (rest : List Char),
      (∀ field ∈ fields, field.2.IsBuiltOf Value.IsExact depth) →
      withoutSpace false (body ++ rest) = compactFields fields ++ withoutSpace false rest
  | _, _, .empty hGap, _, rest, _ => withoutSpace_gap hGap rest
  | _, _, @IsFieldsLayout.last key value _ _ _ _ after hGap hKey hColon hLayout hAfter, _, rest,
      hEach => by
    have hValue := withoutSpace_of_isLayout hLayout (after ++ rest)
      (hEach (key, value) List.mem_cons_self)
    simp (disch := decide) [compactFields, withoutSpace_gap hGap, withoutSpace_quoted,
      withoutSpace_gap hKey, withoutSpace_of_ne, withoutSpace_gap hColon, hValue,
      withoutSpace_gap hAfter]
  | _, _, @IsFieldsLayout.more key value _ _ _ _ _ _ after body hGap hKey hColon hLayout hAfter
      members, _, rest, hEach => by
    have hValue := withoutSpace_of_isLayout hLayout (after ++ ',' :: (body ++ rest))
      (hEach (key, value) List.mem_cons_self)
    have hFields := withoutSpace_of_isFieldsLayout members rest fun member hMember =>
      hEach member (List.mem_cons_of_mem _ hMember)
    simp (disch := decide) [compactFields, withoutSpace_gap hGap, withoutSpace_quoted,
      withoutSpace_gap hKey, withoutSpace_of_ne, withoutSpace_gap hColon, hValue,
      withoutSpace_gap hAfter, hFields]

end

/-- Only the white space outside the string goes. -/
example : withoutSpace false "[ \"a \\\" b\" , 1 ]".toList = "[\"a \\\" b\",1]".toList := by
  decide

/-- Without its white space outside strings, either spelling is the compact one. -/
theorem withoutSpace_render {value : Value} {depth : Nat}
    (hBuilt : value.IsBuiltOf Value.IsExact depth) (pretty : Bool) :
    withoutSpace false (value.render pretty).toList = (value.render false).toList := by
  have hLayout := withoutSpace_of_isLayout (isLayout_render pretty value) [] hBuilt
  simpa [Value.render, withoutSpace] using hLayout

/-! ### Telling the value from its compact spelling -/

/-- No digit comes first, so that a number in front of the text ends there. -/
def EndsNumber (rest : List Char) : Prop :=
  ∀ c ∈ rest.head?, c.isDigit = false

theorem endsNumber_cons {c : Char} (hDigit : c.isDigit = false) (rest : List Char) :
    EndsNumber (c :: rest) := by
  simpa [EndsNumber] using hDigit

theorem takeWhile_toDigits {n : Nat} {rest : List Char} (hEnds : EndsNumber rest) :
    (Nat.toDigits 10 n ++ rest).takeWhile Char.isDigit = Nat.toDigits 10 n := by
  have hDigits : ∀ c ∈ Nat.toDigits 10 n, c.isDigit = true := fun c hc =>
    Nat.isDigit_of_mem_toDigits (by decide) (by decide) hc
  have hRest : rest.takeWhile Char.isDigit = [] := by
    cases rest with
    | nil => rfl
    | cons c rest => exact List.takeWhile_cons_of_neg (by simp [hEnds c rfl])
  rw [List.takeWhile_append_of_pos hDigits, hRest, List.append_nil]

theorem toDigits_append_inj {n m : Nat} {rest left : List Char} (hEnds : EndsNumber rest)
    (hEnds' : EndsNumber left) (hEq : Nat.toDigits 10 n ++ rest = Nat.toDigits 10 m ++ left) :
    n = m ∧ rest = left := by
  have hDigits : Nat.toDigits 10 n = Nat.toDigits 10 m := by
    rw [← takeWhile_toDigits hEnds, hEq, takeWhile_toDigits hEnds']
  refine ⟨?_, List.append_cancel_left (hDigits ▸ hEq)⟩
  rw [← Nat.ofDigitChars_ten_toDigits (n := n), hDigits, Nat.ofDigitChars_ten_toDigits]

/-- No digits start with a sign. -/
theorem toDigits_append_ne_sign (n : Nat) (rest left : List Char) :
    Nat.toDigits 10 n ++ rest ≠ '-' :: left := by
  intro hEq
  obtain ⟨c, more, hDigits⟩ := List.exists_cons_of_ne_nil (Nat.toDigits_ne_nil (n := n) (b := 10))
  rw [hDigits, List.cons_append] at hEq
  have hDigit : c.isDigit = true := Nat.isDigit_of_mem_toDigits (b := 10) (n := n) (by decide)
    (by decide) (hDigits ▸ List.mem_cons_self)
  rw [(List.cons.inj hEq).1] at hDigit
  simp at hDigit

theorem toString_append_inj {n m : Int} {rest left : List Char} (hEnds : EndsNumber rest)
    (hEnds' : EndsNumber left)
    (hEq : (toString n).toList ++ rest = (toString m).toList ++ left) : n = m ∧ rest = left := by
  rw [toList_toString, toList_toString] at hEq
  by_cases hNeg : n < 0 <;> by_cases hNeg' : m < 0 <;>
    simp only [hNeg, hNeg', if_true, if_false] at hEq
  · obtain ⟨hAbs, hRest⟩ := toDigits_append_inj hEnds hEnds' (List.cons.inj hEq).2
    exact ⟨by omega, hRest⟩
  · exact (toDigits_append_ne_sign _ _ _ hEq.symm).elim
  · exact (toDigits_append_ne_sign _ _ _ hEq).elim
  · obtain ⟨hAbs, hRest⟩ := toDigits_append_inj hEnds hEnds' hEq
    exact ⟨by omega, hRest⟩

/-- Equal texts start with values of one lead. -/
theorem lead_eq_of_compact {value other : Value} {depth depth' : Nat}
    (hBuilt : value.IsBuiltOf Value.IsExact depth) (hBuilt' : other.IsBuiltOf Value.IsExact depth')
    {rest left : List Char} (hEq : compact value ++ rest = compact other ++ left) :
    value.lead = other.lead := by
  obtain ⟨c, more, hText, hLead, -⟩ := exists_cons_of_isLayout (isLayout_compact value) hBuilt
  obtain ⟨d, more', hText', hLead', -⟩ := exists_cons_of_isLayout (isLayout_compact other) hBuilt'
  rw [hText, hText', List.cons_append, List.cons_append] at hEq
  rw [← hLead, ← hLead', (List.cons.inj hEq).1]

/-- No value starts with a closing bracket. -/
theorem compact_append_ne {value : Value} {depth : Nat}
    (hBuilt : value.IsBuiltOf Value.IsExact depth) (rest left : List Char) :
    compact value ++ rest ≠ ']' :: left := by
  obtain ⟨c, more, hText, -, -, hNe⟩ := exists_cons_of_isLayout (isLayout_compact value) hBuilt
  rw [hText, List.cons_append]
  exact fun hEq => hNe (List.cons.inj hEq).1

/-- What stands behind one of several parts when `parts` are still to come, up to the closing mark. -/
def behind {α : Type} (close : Char) (spelled : List α → List Char) :
    List α → List Char → List Char
  | [], rest => close :: rest
  | part :: parts, rest => ',' :: (spelled (part :: parts) ++ close :: rest)

theorem endsNumber_behind {α : Type} {close : Char} (hClose : close.isDigit = false)
    (spelled : List α → List Char) (parts : List α) (rest : List Char) :
    EndsNumber (behind close spelled parts rest) := by
  cases parts with
  | nil => exact endsNumber_cons hClose _
  | cons part parts => exact endsNumber_cons rfl _

/-- A comma tells that more parts are to come. -/
theorem behind_inj {α : Type} {close : Char} (hClose : close ≠ ',') {spelled : List α → List Char}
    {parts others : List α} {rest left : List Char}
    (hEq : behind close spelled parts rest = behind close spelled others left) :
    spelled parts ++ close :: rest = spelled others ++ close :: left := by
  cases parts with
  | nil =>
      cases others with
      | nil => rw [(List.cons.inj hEq).2]
      | cons other others => exact (hClose (List.cons.inj hEq).1).elim
  | cons part parts =>
      cases others with
      | nil => exact (hClose (List.cons.inj hEq).1.symm).elim
      | cons other others => exact (List.cons.inj hEq).2

theorem compactItems_cons (item : Value) (items : List Value) (rest : List Char) :
    compactItems (item :: items) ++ ']' :: rest =
      compact item ++ behind ']' compactItems items rest := by
  cases items <;> simp [compactItems, behind]

theorem compactFields_cons (key : String) (value : Value) (fields : List (String × Value))
    (rest : List Char) :
    compactFields ((key, value) :: fields) ++ '\x7d' :: rest =
      quoted key ++ ':' :: (compact value ++ behind '\x7d' compactFields fields rest) := by
  cases fields <;> simp [compactFields, behind]

-- Along the first value: the first character leaves one constructor for the second one.
mutual

/-- What starts with a value tells the value and what follows it, unless a digit follows. -/
theorem compact_append_inj : ∀ (value other : Value) {depth depth' : Nat} {rest left : List Char},
    value.IsBuiltOf Value.IsExact depth → other.IsBuiltOf Value.IsExact depth' →
      EndsNumber rest → EndsNumber left → compact value ++ rest = compact other ++ left →
      value = other ∧ rest = left
  | .null, other, _, _, _, _, hBuilt, hBuilt', _, _, hEq => by
    have hLead := lead_eq_of_compact hBuilt hBuilt' hEq
    cases other with
    | null => simpa [compact, scalar] using hEq
    | _ => simp [Value.lead] at hLead
  | .bool flag, other, _, _, _, _, hBuilt, hBuilt', _, _, hEq => by
    have hLead := lead_eq_of_compact hBuilt hBuilt' hEq
    cases other with
    | bool flag' =>
        obtain rfl : flag = flag' := by simpa [Value.lead] using hLead
        exact ⟨rfl, List.append_cancel_left hEq⟩
    | _ => simp [Value.lead] at hLead
  | .integer n, other, _, _, _, _, hBuilt, hBuilt', hEnds, hEnds', hEq => by
    have hLead := lead_eq_of_compact hBuilt hBuilt' hEq
    cases other with
    | integer m =>
        obtain ⟨rfl, hRest⟩ := toString_append_inj hEnds hEnds' hEq
        exact ⟨rfl, hRest⟩
    | double x => exact (hBuilt'.leaf trivial).elim
    | _ => simp [Value.lead] at hLead
  | .double x, _, _, _, _, _, hBuilt, _, _, _, _ => (hBuilt.leaf trivial).elim
  | .text s, other, _, _, _, _, hBuilt, hBuilt', _, _, hEq => by
    have hLead := lead_eq_of_compact hBuilt hBuilt' hEq
    cases other with
    | text t =>
        obtain ⟨rfl, hRest⟩ := quoted_append_inj hEq
        exact ⟨rfl, hRest⟩
    | _ => simp [Value.lead] at hLead
  | .array items, other, _, _, rest, left, hBuilt, hBuilt', _, _, hEq => by
    have hLead := lead_eq_of_compact hBuilt hBuilt' hEq
    cases other with
    | array others =>
        have hItems : compactItems items ++ ']' :: rest = compactItems others ++ ']' :: left := by
          simpa [compact] using hEq
        obtain ⟨rfl, hRest⟩ := compactItems_append_inj items others hBuilt.items hBuilt'.items hItems
        exact ⟨rfl, hRest⟩
    | _ => simp [Value.lead] at hLead
  | .object fields, other, _, _, rest, left, hBuilt, hBuilt', _, _, hEq => by
    have hLead := lead_eq_of_compact hBuilt hBuilt' hEq
    cases other with
    | object others =>
        have hFields :
            compactFields fields ++ '\x7d' :: rest = compactFields others ++ '\x7d' :: left := by
          simpa [compact] using hEq
        obtain ⟨rfl, hRest⟩ :=
          compactFields_append_inj fields others hBuilt.fields hBuilt'.fields hFields
        exact ⟨rfl, hRest⟩
    | _ => simp [Value.lead] at hLead

/-- The elements of an array can be told up to the closing bracket. -/
theorem compactItems_append_inj : ∀ (items others : List Value) {depth depth' : Nat}
    {rest left : List Char}, (∀ item ∈ items, item.IsBuiltOf Value.IsExact depth) →
      (∀ item ∈ others, item.IsBuiltOf Value.IsExact depth') →
      compactItems items ++ ']' :: rest = compactItems others ++ ']' :: left →
      items = others ∧ rest = left
  | [], [], _, _, _, _, _, _, hEq => ⟨rfl, (List.cons.inj hEq).2⟩
  | [], other :: _, _, _, _, _, _, hEach', hEq => by
    rw [compactItems_cons] at hEq
    exact (compact_append_ne (hEach' other List.mem_cons_self) _ _ hEq.symm).elim
  | item :: _, [], _, _, _, _, hEach, _, hEq => by
    rw [compactItems_cons] at hEq
    exact (compact_append_ne (hEach item List.mem_cons_self) _ _ hEq).elim
  | item :: items, other :: others, _, _, _, _, hEach, hEach', hEq => by
    rw [compactItems_cons, compactItems_cons] at hEq
    obtain ⟨rfl, hBehind⟩ := compact_append_inj item other (hEach item List.mem_cons_self)
      (hEach' other List.mem_cons_self) (endsNumber_behind rfl _ _ _)
      (endsNumber_behind rfl _ _ _) hEq
    obtain ⟨rfl, hRest⟩ := compactItems_append_inj items others
      (fun value hValue => hEach value (List.mem_cons_of_mem _ hValue))
      (fun value hValue => hEach' value (List.mem_cons_of_mem _ hValue))
      (behind_inj (by decide) hBehind)
    exact ⟨rfl, hRest⟩

/-- The fields of an object can be told up to the closing brace. -/
theorem compactFields_append_inj : ∀ (fields others : List (String × Value)) {depth depth' : Nat}
    {rest left : List Char}, (∀ field ∈ fields, field.2.IsBuiltOf Value.IsExact depth) →
      (∀ field ∈ others, field.2.IsBuiltOf Value.IsExact depth') →
      compactFields fields ++ '\x7d' :: rest = compactFields others ++ '\x7d' :: left →
      fields = others ∧ rest = left
  | [], [], _, _, _, _, _, _, hEq => ⟨rfl, (List.cons.inj hEq).2⟩
  | [], (key, value) :: fields, _, _, _, _, _, _, hEq => by
    rw [compactFields_cons] at hEq
    exact absurd (List.cons.inj hEq).1 (by decide)
  | (key, value) :: fields, [], _, _, _, _, _, _, hEq => by
    rw [compactFields_cons] at hEq
    exact absurd (List.cons.inj hEq).1 (by decide)
  | (key, value) :: fields, (key', value') :: others, _, _, _, _, hEach, hEach', hEq => by
    rw [compactFields_cons, compactFields_cons] at hEq
    obtain ⟨rfl, hColon⟩ := quoted_append_inj hEq
    -- Behind a value comes a comma or a closing mark, so no number goes on there.
    obtain ⟨rfl, hBehind⟩ := compact_append_inj value value'
      (hEach (key, value) List.mem_cons_self) (hEach' (key, value') List.mem_cons_self)
      (endsNumber_behind rfl _ _ _) (endsNumber_behind rfl _ _ _) (List.cons.inj hColon).2
    obtain ⟨rfl, hRest⟩ := compactFields_append_inj fields others
      (fun field hField => hEach field (List.mem_cons_of_mem _ hField))
      (fun field hField => hEach' field (List.mem_cons_of_mem _ hField))
      (behind_inj (by decide) hBehind)
    exact ⟨rfl, hRest⟩

end

/-- Two values with equal texts are equal, whichever of the two spellings is used for both. -/
theorem render_inj {value other : Value} {depth depth' : Nat}
    (hBuilt : value.IsBuiltOf Value.IsExact depth)
    (hBuilt' : other.IsBuiltOf Value.IsExact depth') {pretty : Bool}
    (hEq : value.render pretty = other.render pretty) : value = other := by
  have hCompact : compact value ++ [] = compact other ++ [] := by
    have hTexts := withoutSpace_render hBuilt pretty
    rw [hEq, withoutSpace_render hBuilt' pretty] at hTexts
    simpa [Value.render] using hTexts.symm
  have hEnd : EndsNumber [] := by simp [EndsNumber]
  exact (compact_append_inj value other hBuilt hBuilt' hEnd hEnd hCompact).1

end Json
end Switchboard
