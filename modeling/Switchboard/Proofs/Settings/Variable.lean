import Mathlib.Data.List.TakeWhile
import Switchboard.Settings.Source

/-!
# Texts of environment variables

The text of an environment variable is read as a flag or a number where it spells one.  Where a text is
wanted, what was read is written out again, so a text that spells neither comes back as it is, and any
other one as the flag or the number is written (`exists_respelling`).
-/

namespace Switchboard
namespace Setting

/-- How a flag is written. -/
def flagName (flag : Bool) : String := if flag then "true" else "false"

/-- A text is the name of a flag, in any case. -/
def SpellsFlag (text : String) (flag : Bool) : Prop :=
  Text.toLower text.toList = (flagName flag).toList

/-- A text that spells neither a flag nor a number. -/
structure IsPlainText (text : String) : Prop where
  not_flag : ∀ flag, ¬ SpellsFlag text flag
  not_integer : ∀ n, Decimal.readInt64 text.toList ≠ .ok n
  not_double : Decimal.readDouble? text.toList = none

/-- What a text becomes when it is read as a flag or a number, where it spells one, and written out
again. -/
inductive Respells (text : String) : String → Prop
  | flag {flag : Bool} (hFlag : SpellsFlag text flag) : Respells text (flagName flag)
  | integer {n : Int} (hFlag : ∀ flag, ¬ SpellsFlag text flag)
      (hInteger : Decimal.readInt64 text.toList = .ok n) : Respells text (toString n)
  | double {x : Decimal.Binary64} (hFlag : ∀ flag, ¬ SpellsFlag text flag)
      (hInteger : ∀ n, Decimal.readInt64 text.toList ≠ .ok n)
      (hDouble : Decimal.readDouble? text.toList = some x) :
      Respells text (Decimal.Layout.plain.render x)
  | plain (hPlain : IsPlainText text) : Respells text text

/-! ### What a variable gives -/

theorem ofVariable_of_spellsFlag {text : String} {flag : Bool} (hFlag : SpellsFlag text flag) :
    ofVariable text = .boolean environment flag := by
  have hLower : String.ofList (Text.toLower text.toList) = flagName flag := by
    rw [hFlag, String.ofList_toList]
  unfold ofVariable
  rw [hLower]
  cases flag <;> rfl

/-- A text that names no flag is tried as a whole number, and then as a double. -/
theorem ofVariable_of_forall_not_spellsFlag {text : String}
    (hFlag : ∀ flag, ¬ SpellsFlag text flag) :
    ofVariable text =
      match Decimal.readInt64 text.toList with
      | .ok n => .integer environment n
      | .error _ =>
        match Decimal.readDouble? text.toList with
        | some x => .double environment x
        | none => .text environment text := by
  have hNe (flag : Bool) : String.ofList (Text.toLower text.toList) ≠ flagName flag := fun hEq =>
    hFlag flag (by rw [SpellsFlag, ← hEq, String.toList_ofList])
  unfold ofVariable
  split
  · exact absurd ‹_› (hNe true)
  · exact absurd ‹_› (hNe false)
  · rfl

theorem ofVariable_of_isPlainText {text : String} (hPlain : IsPlainText text) :
    ofVariable text = .text environment text := by
  rw [ofVariable_of_forall_not_spellsFlag hPlain.not_flag, hPlain.not_double]
  cases hInteger : Decimal.readInt64 text.toList with
  | ok n => exact absurd hInteger (hPlain.not_integer n)
  | error fault => rfl

/-- **The text of a variable comes back respelled.** -/
theorem exists_respelling (text : String) :
    ∃ written, Respells text written ∧ readText (ofVariable text) = .ok written := by
  by_cases hFlag : ∃ flag, SpellsFlag text flag
  · obtain ⟨flag, hFlag⟩ := hFlag
    rw [ofVariable_of_spellsFlag hFlag]
    exact ⟨flagName flag, .flag hFlag, rfl⟩
  have hNoFlag : ∀ flag, ¬ SpellsFlag text flag := fun flag hSpells => hFlag ⟨flag, hSpells⟩
  rw [ofVariable_of_forall_not_spellsFlag hNoFlag]
  cases hInteger : Decimal.readInt64 text.toList with
  | ok n => exact ⟨toString n, .integer hNoFlag hInteger, rfl⟩
  | error fault =>
      have hNoInteger : ∀ n, Decimal.readInt64 text.toList ≠ .ok n := by
        rw [hInteger]
        exact nofun
      cases hDouble : Decimal.readDouble? text.toList with
      | some x => exact ⟨_, .double hNoFlag hNoInteger hDouble, rfl⟩
      | none => exact ⟨text, .plain ⟨hNoFlag, hNoInteger, hDouble⟩, rfl⟩

theorem SpellsFlag.unique {text : String} {flag other : Bool} (hFlag : SpellsFlag text flag)
    (hOther : SpellsFlag text other) : flag = other := by
  have hSame : (flagName flag).toList = (flagName other).toList := hFlag.symm.trans hOther
  revert hSame
  cases flag <;> cases other <;> decide

/-- A text has one respelling. -/
theorem Respells.unique {text written other : String} (hWritten : Respells text written)
    (hOther : Respells text other) : written = other := by
  cases hWritten with
  | flag hFlag =>
      cases hOther with
      | flag hSame => rw [hFlag.unique hSame]
      | integer hNone => exact absurd hFlag (hNone _)
      | double hNone => exact absurd hFlag (hNone _)
      | plain hPlain => exact absurd hFlag (hPlain.not_flag _)
  | integer hNone hInteger =>
      cases hOther with
      | flag hFlag => exact absurd hFlag (hNone _)
      | integer _ hSame => rw [Except.ok.inj (hInteger.symm.trans hSame)]
      | double _ hNot => exact absurd hInteger (hNot _)
      | plain hPlain => exact absurd hInteger (hPlain.not_integer _)
  | double hNone hNot hDouble =>
      cases hOther with
      | flag hFlag => exact absurd hFlag (hNone _)
      | integer _ hInteger => exact absurd hInteger (hNot _)
      | double _ _ hSame => rw [Option.some.inj (hDouble.symm.trans hSame)]
      | plain hPlain => exact absurd (hDouble.symm.trans hPlain.not_double) nofun
  | plain hPlain =>
      cases hOther with
      | flag hFlag => exact absurd hFlag (hPlain.not_flag _)
      | integer _ hInteger => exact absurd hInteger (hPlain.not_integer _)
      | double _ _ hDouble => exact absurd (hDouble.symm.trans hPlain.not_double) nofun
      | plain => rfl

/-! ### Characters of flags and numbers -/

/-- The signs, the point, and the letters of the words for flags and numbers. -/
def scalarMarks : List Char :=
  ['+', '-', '.', 't', 'r', 'u', 'e', 'f', 'a', 'l', 's', 'i', 'n', 'y']

/-- Whether flags and numbers are written with a character. -/
def isScalarChar (c : Char) : Bool :=
  c.isDigit || scalarMarks.contains c.toLower

theorem isScalarChar_of_toLower_mem {c : Char} (hLower : c.toLower ∈ scalarMarks) :
    isScalarChar c = true := by
  rw [isScalarChar, Bool.or_eq_true, List.contains_iff_mem]
  exact Or.inr hLower

/-- The characters that the lower-case form of a character consists of, wherever it stands. -/
theorem exists_lowered_subset {c : Char} {cs : List Char} (hChar : c ∈ cs) (before : List Char) :
    (c = 'Σ' ∧ ('σ' ∈ Text.lowerAfter before cs ∨ 'ς' ∈ Text.lowerAfter before cs)) ∨
      Text.lowerChar c ⊆ Text.lowerAfter before cs := by
  induction cs generalizing before with
  | nil => nomatch hChar
  | cons first rest ih =>
      rw [Text.lowerAfter]
      rcases List.mem_cons.mp hChar with rfl | hRest
      · by_cases hSigma : c = 'Σ'
        · subst hSigma
          refine Or.inl ⟨rfl, ?_⟩
          simp only [beq_self_eq_true, if_true]
          split_ifs <;> simp
        · refine Or.inr ?_
          simp only [beq_false_of_ne hSigma]
          exact List.subset_append_left _ _
      · refine (ih hRest (first :: before)).imp (And.imp_right ?_) ?_
        · exact Or.imp (List.mem_append_right _) (List.mem_append_right _)
        · exact fun hSubset => List.Subset.trans hSubset (List.subset_append_right _ _)

/-- Beyond the first 128 characters only the sign of the kelvin has one of these as its lower-case
form. -/
theorem le_shifted_lower {n : Nat} (hNat : 128 ≤ n) :
    Text.shifted Text.CaseTable.lower n = 'k'.toNat ∨ 128 ≤ Text.shifted Text.CaseTable.lower n := by
  have hRuns : ∀ run ∈ Text.CaseTable.lower,
      run.first = 0x212A ∧ run.last = 0x212A ∧ run.shift = -8383 ∨
        128 ≤ (run.first : Int) + run.shift := by
    decide +kernel
  rw [Text.shifted]
  cases hFind : Text.CaseTable.lower.find? (·.covers n) with
  | none => exact Or.inr hNat
  | some run =>
      have hCovers := List.find?_some hFind
      simp only [Text.CaseTable.Run.covers, Bool.and_eq_true, decide_eq_true_eq] at hCovers
      rcases hRuns run (List.mem_of_find?_eq_some hFind) with ⟨hFirst, hLast, hShift⟩ | hBound
      · refine Or.inl ?_
        have hK : 'k'.toNat = 107 := rfl
        simp only [hShift, hK, Int.ofNat_eq_natCast]
        omega
      · refine Or.inr ?_
        simp only [Int.ofNat_eq_natCast]
        omega

theorem toNat_ofNat_eq (n : Nat) : (Char.ofNat n).toNat = n ∨ (Char.ofNat n).toNat = 0 := by
  by_cases hValid : n.isValidChar
  · rw [Char.ofNat, dif_pos hValid]
    exact Or.inl rfl
  · rw [Char.ofNat, dif_neg hValid]
    exact Or.inr rfl

/-- The name of a flag is written with its letters only. -/
theorem isScalarChar_of_spellsFlag {text : String} {flag : Bool} (hFlag : SpellsFlag text flag) :
    ∀ c ∈ text.toList, isScalarChar c = true := by
  intro c hChar
  have hLetters : ∀ d ∈ (flagName flag).toList, d ≠ 'σ' ∧ d ≠ 'ς' ∧ d ≠ 'i' ∧ 0 < d.toNat ∧
      d.toNat < 128 ∧ d.toNat ≠ 'k'.toNat ∧ d ∈ scalarMarks := by
    have hAll : (flagName flag).toList.all (fun d => d ≠ 'σ' ∧ d ≠ 'ς' ∧ d ≠ 'i' ∧ 0 < d.toNat ∧
        d.toNat < 128 ∧ d.toNat ≠ 'k'.toNat ∧ d ∈ scalarMarks) = true := by
      cases flag <;> decide +kernel
    exact fun d hLetter => of_decide_eq_true (List.all_eq_true.mp hAll d hLetter)
  have hLower : Text.lowerAfter [] text.toList = (flagName flag).toList := hFlag
  rcases exists_lowered_subset hChar [] with ⟨-, hSigma⟩ | hSubset
  · rw [hLower] at hSigma
    rcases hSigma with hSigma | hSigma
    · exact absurd rfl (hLetters _ hSigma).1
    · exact absurd rfl (hLetters _ hSigma).2.1
  · rw [hLower, Text.lowerChar] at hSubset
    split_ifs at hSubset with hAscii hDotted
    · obtain ⟨-, -, -, -, -, -, hLetter⟩ := hLetters _ (hSubset List.mem_cons_self)
      exact isScalarChar_of_toLower_mem hLetter
    · exact absurd rfl (hLetters _ (hSubset List.mem_cons_self)).2.2.1
    · obtain ⟨-, -, -, hPos, hLess, hNotK, -⟩ := hLetters _ (hSubset List.mem_cons_self)
      rcases toNat_ofNat_eq (Text.shifted Text.CaseTable.lower c.toNat) with hValid | hInvalid
      · rw [hValid] at hLess hNotK
        rcases le_shifted_lower (not_lt.mp hAscii) with hK | hBeyond
        · exact absurd hK hNotK
        · omega
      · omega

theorem isScalarChar_of_isDigit {c : Char} (hDigit : c.isDigit = true) : isScalarChar c = true := by
  rw [isScalarChar, hDigit, Bool.true_or]

theorem isDigit_of_readDigits {limit : Nat} {excess : Decimal.IntegerFault} {digits : List Char}
    {value n : Nat} (hRead : Decimal.readDigits limit excess value digits = .ok n) :
    ∀ c ∈ digits, c.isDigit = true := by
  induction digits generalizing value with
  | nil => exact nofun
  | cons c rest ih =>
      rw [Decimal.readDigits] at hRead
      split at hRead
      · nomatch hRead
      · rename_i hDigit
        simp only at hRead
        split_ifs at hRead
        exact List.forall_mem_cons.mpr ⟨by simpa using hDigit, ih hRead⟩

/-- A whole number is written with digits and a sign. -/
theorem isScalarChar_of_readInt64 {cs : List Char} {n : Int}
    (hRead : Decimal.readInt64 cs = .ok n) : ∀ c ∈ cs, isScalarChar c = true := by
  have hDigits {limit : Nat} {excess : Decimal.IntegerFault} {digits : List Char}
      (hOk : ∀ fault, Decimal.readDigits limit excess 0 digits ≠ .error fault) :
      ∀ c ∈ digits, isScalarChar c = true := by
    cases hValue : Decimal.readDigits limit excess 0 digits with
    | error fault => exact absurd hValue (hOk fault)
    | ok value =>
        exact fun c hChar => isScalarChar_of_isDigit (isDigit_of_readDigits hValue c hChar)
  unfold Decimal.readInt64 at hRead
  split at hRead
  · nomatch hRead
  · nomatch hRead
  · nomatch hRead
  · exact List.forall_mem_cons.mpr ⟨by decide +kernel,
      hDigits fun fault hFault => by rw [hFault] at hRead; nomatch hRead⟩
  · exact List.forall_mem_cons.mpr ⟨by decide +kernel,
      hDigits fun fault hFault => by rw [hFault] at hRead; nomatch hRead⟩
  · exact hDigits fun fault hFault => by rw [hFault] at hRead; nomatch hRead

/-- What follows the sign is written with such characters if the whole is. -/
theorem isScalarChar_of_splitSign {cs : List Char}
    (hBody : ∀ c ∈ (Decimal.splitSign cs).2, isScalarChar c = true) :
    ∀ c ∈ cs, isScalarChar c = true := by
  unfold Decimal.splitSign at hBody
  split at hBody
  · exact List.forall_mem_cons.mpr ⟨by decide +kernel, hBody⟩
  · exact List.forall_mem_cons.mpr ⟨by decide +kernel, hBody⟩
  · exact hBody

theorem isScalarChar_of_readExponent? {cs : List Char} {n : Int}
    (hRead : Decimal.readExponent? cs = some n) : ∀ c ∈ cs, isScalarChar c = true := by
  cases cs with
  | nil => exact fun c hChar => absurd hChar List.not_mem_nil
  | cons c rest =>
      rw [Decimal.readExponent?] at hRead
      split_ifs at hRead with hMark
      have hFirst : isScalarChar c = true := by
        simp only [Bool.or_eq_true, beq_iff_eq] at hMark
        rcases hMark with rfl | rfl <;> decide +kernel
      refine List.forall_mem_cons.mpr ⟨hFirst, isScalarChar_of_splitSign ?_⟩
      simp only at hRead
      have hDigits : ¬ ((Decimal.splitSign rest).2.isEmpty ||
          !(Decimal.splitSign rest).2.all Char.isDigit) = true := fun hBad => by
        rw [if_pos hBad] at hRead
        cases hRead
      simp only [Bool.or_eq_true, Bool.not_eq_true', not_or, Bool.not_eq_false] at hDigits
      exact fun d hDigit => isScalarChar_of_isDigit (List.all_eq_true.mp hDigits.2 d hDigit)

theorem isScalarChar_of_map_toLower {word : List Char}
    (hWord : word.all scalarMarks.contains = true) {cs : List Char}
    (hLower : cs.map Char.toLower = word) : ∀ c ∈ cs, isScalarChar c = true := by
  intro c hChar
  have hLetter := List.all_eq_true.mp hWord c.toLower (hLower ▸ List.mem_map_of_mem hChar)
  exact isScalarChar_of_toLower_mem (List.contains_iff_mem.mp hLetter)

theorem isScalarChar_of_takeWhile {cs : List Char}
    (hRest : ∀ c ∈ cs.dropWhile Char.isDigit, isScalarChar c = true) :
    ∀ c ∈ cs, isScalarChar c = true := by
  intro c hChar
  rw [← List.takeWhile_append_dropWhile (p := Char.isDigit) (l := cs), List.mem_append] at hChar
  exact hChar.elim (fun hDigit => isScalarChar_of_isDigit (List.mem_takeWhile_imp hDigit)) (hRest c)

/-- A double is written with digits, signs, points and the letters of its words. -/
theorem isScalarChar_of_readDouble? {cs : List Char} {x : Decimal.Binary64}
    (hRead : Decimal.readDouble? cs = some x) : ∀ c ∈ cs, isScalarChar c = true := by
  refine isScalarChar_of_splitSign ?_
  unfold Decimal.readDouble? at hRead
  revert hRead
  generalize Decimal.splitSign cs = split
  obtain ⟨negative, body⟩ := split
  intro hRead
  simp only at hRead ⊢
  split_ifs at hRead with hInfinite hNone hEmpty
  · rw [Bool.or_eq_true, beq_iff_eq, beq_iff_eq] at hInfinite
    rcases hInfinite with hLower | hLower <;>
      exact isScalarChar_of_map_toLower (by decide +kernel) hLower
  · exact isScalarChar_of_map_toLower (by decide +kernel) (beq_iff_eq.mp hNone)
  · refine isScalarChar_of_takeWhile ?_
    obtain ⟨exponent, hExponent, -⟩ := Option.map_eq_some_iff.mp hRead
    have hTail := isScalarChar_of_readExponent? hExponent
    split at hTail
    · rename_i rest hRest
      rw [hRest]
      exact List.forall_mem_cons.mpr ⟨by decide +kernel, isScalarChar_of_takeWhile hTail⟩
    · exact hTail

/-- **A text with another character is plain.** -/
theorem isPlainText_of_not_isScalarChar {text : String} {c : Char} (hChar : c ∈ text.toList)
    (hOther : isScalarChar c = false) : IsPlainText text where
  not_flag _ hFlag :=
    absurd (isScalarChar_of_spellsFlag hFlag c hChar) (ne_true_of_eq_false hOther)
  not_integer _ hInteger :=
    absurd (isScalarChar_of_readInt64 hInteger c hChar) (ne_true_of_eq_false hOther)
  not_double := Option.eq_none_iff_forall_ne_some.mpr fun _ hDouble =>
    absurd (isScalarChar_of_readDouble? hDouble c hChar) (ne_true_of_eq_false hOther)

end Setting
end Switchboard
