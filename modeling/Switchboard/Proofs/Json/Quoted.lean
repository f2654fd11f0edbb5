import Switchboard.Json.Parser
import Switchboard.Json.Printer

/-!
# Quoted texts

A character stands in a quoted text in one of three forms: as itself, behind a backslash, or by its
number.  Reading undoes each form, so a quoted text is read back whatever follows it, and what a text
starts with tells which text was quoted.
-/

namespace Switchboard
namespace Json

/-- The forms in which a character stands in a quoted text. -/
inductive IsEscaped (c : Char) : List Char → Prop
  | plain (ne_quote : c ≠ '"') (ne_backslash : c ≠ '\\') (visible : 32 ≤ c.toNat) : IsEscaped c [c]
  | short (mark : Char) (escape : shortEscape? mark = some c) : IsEscaped c ['\\', mark]
  | numbered (high low : Char) (digits : hexQuad? '0' '0' high low = some c.toNat)
      (control : c.toNat < 32) : IsEscaped c ['\\', 'u', '0', '0', high, low]

theorem hexQuad?_hexDigit : ∀ n < 32,
    hexQuad? '0' '0' (hexDigit (n / 16)) (hexDigit (n % 16)) = some n := by
  decide

theorem isEscaped_of_toNat_eq {c mark : Char} {n : Nat} (hEscape : shortEscape? mark = some (Char.ofNat n))
    (hCode : c.toNat = n) : IsEscaped c ['\\', mark] :=
  .short mark (by rw [hEscape, ← hCode, Char.ofNat_toNat])

theorem isEscaped_escaped (c : Char) : IsEscaped c (escaped c) := by
  unfold escaped
  split
  case isTrue hQuote =>
    obtain rfl : c = '"' := by simpa using hQuote
    exact .short '"' rfl
  case isFalse hQuote =>
  split
  case isTrue hBackslash =>
    obtain rfl : c = '\\' := by simpa using hBackslash
    exact .short '\\' rfl
  case isFalse hBackslash =>
  simp only [beq_iff_eq] at *
  split
  · exact isEscaped_of_toNat_eq rfl ‹_›
  split
  · exact isEscaped_of_toNat_eq rfl ‹_›
  split
  · exact isEscaped_of_toNat_eq rfl ‹_›
  split
  · exact isEscaped_of_toNat_eq rfl ‹_›
  split
  · exact isEscaped_of_toNat_eq rfl ‹_›
  split
  case isTrue hControl => exact .numbered _ _ (hexQuad?_hexDigit _ hControl) hControl
  case isFalse hVisible => exact .plain hQuote hBackslash (Nat.le_of_not_lt hVisible)

theorem readQuoted_of_isEscaped {c : Char} {form : List Char} (hForm : IsEscaped c form)
    (rest : List Char) :
    readQuoted (form ++ rest) = (readQuoted rest).map fun (text, left) => (c :: text, left) := by
  cases hForm with
  | plain hQuote hBackslash hVisible =>
      have hOther : ¬(c.toNat < 32 ∨ c = '\\') := by
        rintro (hControl | hEq)
        · exact absurd hVisible (Nat.not_le.mpr hControl)
        · exact hBackslash hEq
      rw [List.singleton_append, readQuoted]
      · simp [hOther]
      · exact hQuote
      · intros; exact hBackslash ‹_›
      · intros; exact hBackslash ‹_›
  | short mark hEscape =>
      have hNumber : mark ≠ 'u' := by
        rintro rfl
        simp [shortEscape?] at hEscape
      rw [List.cons_append, List.singleton_append, readQuoted]
      · simp [hEscape]
      · intros; exact hNumber ‹_›
  | numbered high low hDigits hControl =>
      have hHigh : ¬(0xD800 ≤ c.toNat ∧ c.toNat < 0xDC00) := by omega
      have hLow : ¬(0xDC00 ≤ c.toNat ∧ c.toNat < 0xE000) := by omega
      simp [readQuoted, hDigits, hHigh, hLow, Char.ofNat_toNat]

/-- A quoted text is read up to its closing quote. -/
theorem readQuoted_flatMap_escaped (text rest : List Char) :
    readQuoted (text.flatMap escaped ++ '"' :: rest) = some (text, rest) := by
  induction text with
  | nil => simp [readQuoted]
  | cons c text ih =>
      rw [List.flatMap_cons, List.append_assoc, readQuoted_of_isEscaped (isEscaped_escaped c), ih]
      rfl

/-- What starts with a quoted text tells the text and what follows it. -/
theorem quoted_append_inj {s t : String} {rest left : List Char}
    (hEq : quoted s ++ rest = quoted t ++ left) : s = t ∧ rest = left := by
  have hRead (s : String) (rest : List Char) :
      readQuoted ((quoted s ++ rest).tail) = some (s.toList, rest) := by
    simpa [quoted] using readQuoted_flatMap_escaped s.toList rest
  have hBoth := (hRead s rest).symm.trans (hEq ▸ hRead t left)
  obtain ⟨hText, hRest⟩ := Prod.mk.inj (Option.some.inj hBoth)
  exact ⟨String.toList_inj.mp hText, hRest⟩

end Json
end Switchboard
