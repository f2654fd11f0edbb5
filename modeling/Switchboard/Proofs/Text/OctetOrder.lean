import Mathlib.Data.String.Basic

/-!
# The order of texts octet by octet

Texts are ordered by their characters, and that is the order of their UTF-8 octets
(`lt_iff_utf8_lt`).  The reason is that the encoding of a smaller character is not only smaller
but differs from that of a greater one at an octet that both have (`Precedes`), so that nothing
which follows the two can turn the order round.
-/

namespace Switchboard
namespace Text

/-- The UTF-8 octets of a text. -/
def utf8 (s : String) : List UInt8 := s.toUTF8.data.toList

/-- The octets of a text are those of its characters. -/
theorem utf8_eq_flatMap (s : String) : utf8 s = s.toList.flatMap String.utf8EncodeChar := by
  have hUtf8 : s.toUTF8 = s.toList.utf8Encode := String.utf8Encode_toList.symm
  rw [utf8, hUtf8, List.utf8Encode]
  exact List.toList_data_toByteArray

/-- At the first place where two lists differ, which both of them have, the first one is less. -/
inductive Precedes : List UInt8 → List UInt8 → Prop
  | head {a b : UInt8} (hLt : a < b) (xs ys : List UInt8) : Precedes (a :: xs) (b :: ys)
  | tail (a : UInt8) {xs ys : List UInt8} (hRest : Precedes xs ys) : Precedes (a :: xs) (a :: ys)

theorem Precedes.append {xs ys : List UInt8} (hPrecedes : Precedes xs ys)
    (us vs : List UInt8) : Precedes (xs ++ us) (ys ++ vs) := by
  induction hPrecedes with
  | head hLt xs ys => exact Precedes.head hLt _ _
  | tail a _ ih => exact Precedes.tail a ih

theorem Precedes.lt {xs ys : List UInt8} (hPrecedes : Precedes xs ys) : xs < ys := by
  induction hPrecedes with
  | head hLt xs ys => exact List.cons_lt_cons_iff.mpr (Or.inl hLt)
  | tail a _ ih => exact List.cons_lt_cons_iff.mpr (Or.inr ⟨rfl, ih⟩)

/-! ### One character -/

/-- The octets that lead an encoding or follow in it are ordered like the numbers in them. -/
theorem ofNat_lt_ofNat {m n : Nat} (hLt : m < n) (hBound : n < 256) :
    UInt8.ofNat m < UInt8.ofNat n := by
  rw [UInt8.lt_iff_toNat_lt, UInt8.toNat_ofNat', UInt8.toNat_ofNat',
    Nat.mod_eq_of_lt (by omega), Nat.mod_eq_of_lt (by omega)]
  exact hLt

/-- An octet that follows in an encoding, with the last six bits of a number. -/
def follower (n : Nat) : UInt8 := UInt8.ofNat (n % 64 + 128)

/-- One more following octet: the numbers without their last six bits are encoded before it. -/
theorem precedes_append_follower {xs ys : List UInt8} {m n : Nat} (hLt : m < n)
    (hBefore : m / 64 < n / 64 → Precedes xs ys) (hSame : m / 64 = n / 64 → xs = ys) :
    Precedes (xs ++ [follower m]) (ys ++ [follower n]) := by
  rcases Nat.lt_or_ge (m / 64) (n / 64) with hHigh | hHigh
  · exact (hBefore hHigh).append _ _
  · have hEq : m / 64 = n / 64 := by omega
    rw [hSame hEq]
    have hLast : follower m < follower n := ofNat_lt_ofNat (by omega) (by omega)
    clear hSame hBefore
    induction ys with
    | nil => exact Precedes.head hLast _ _
    | cons y rest ih => exact Precedes.tail y ih

/-- The octets of a character by its number. -/
def encodeNumber (n : Nat) : List UInt8 :=
  if n ≤ 0x7f then [UInt8.ofNat n]
  else if n ≤ 0x7ff then [UInt8.ofNat (n / 64 + 0xc0)] ++ [follower n]
  else if n ≤ 0xffff then
    [UInt8.ofNat (n / 4096 + 0xe0)] ++ [follower (n / 64)] ++ [follower n]
  else
    [UInt8.ofNat (n / 262144 + 0xf0)] ++ [follower (n / 4096)] ++ [follower (n / 64)] ++
      [follower n]

theorem toNat_le_maximum (c : Char) : c.toNat ≤ 0x10ffff := by
  rcases c.valid with hLow | hHigh
  · exact le_of_lt (lt_trans hLow (by decide))
  · exact Nat.le_of_lt_succ hHigh.2

/-- The octets of a character depend on its number. -/
theorem utf8EncodeChar_eq_encodeNumber (c : Char) :
    String.utf8EncodeChar c = encodeNumber c.toNat := by
  have hBound := toNat_le_maximum c
  have hVal : c.val.toNat = c.toNat := rfl
  unfold String.utf8EncodeChar encodeNumber follower
  simp only [hVal]
  split
  · rfl
  · split
    · rw [Nat.mod_eq_of_lt (a := c.toNat / 64) (by omega)]
      rfl
    · split
      · rw [Nat.mod_eq_of_lt (a := c.toNat / 4096) (by omega)]
        rfl
      · rw [Nat.mod_eq_of_lt (a := c.toNat / 262144) (by omega)]
        rfl

/-- Of two encodings, that of the smaller number differs at an octet that both have. -/
theorem encodeNumber_precedes {m n : Nat} (hLt : m < n) (hBound : n ≤ 0x10ffff) :
    Precedes (encodeNumber m) (encodeNumber n) := by
  have hLead : ∀ {a b : Nat} (xs ys : List UInt8), a < b → b < 256 →
      Precedes (UInt8.ofNat a :: xs) (UInt8.ofNat b :: ys) :=
    fun xs ys h hb => Precedes.head (ofNat_lt_ofNat h hb) xs ys
  unfold encodeNumber
  -- Sixteen pairs of lengths: the longer encoding has the greater first octet, and encodings of one
  -- length are compared octet by octet from the last one.
  split_ifs
  · exact hLead _ _ hLt (by omega)
  · exact hLead _ _ (by omega) (by omega)
  · exact hLead _ _ (by omega) (by omega)
  · exact hLead _ _ (by omega) (by omega)
  · omega
  · exact precedes_append_follower hLt (fun h => hLead _ _ (by omega) (by omega))
      fun h => by rw [h]
  · exact hLead _ _ (by omega) (by omega)
  · exact hLead _ _ (by omega) (by omega)
  · omega
  · omega
  · refine precedes_append_follower hLt (fun h => precedes_append_follower h ?_ ?_) ?_
    · exact fun h => hLead _ _ (by omega) (by omega)
    · intro h
      rw [show m / 4096 = n / 4096 by omega]
    · intro h
      rw [show m / 4096 = n / 4096 by omega, h]
  · exact hLead _ _ (by omega) (by omega)
  · omega
  · omega
  · omega
  · refine precedes_append_follower hLt
      (fun h => precedes_append_follower h (fun h' => precedes_append_follower ?_ ?_ ?_) ?_) ?_
    · omega
    · exact fun h => hLead _ _ (by omega) (by omega)
    · intro h
      rw [show m / 262144 = n / 262144 by omega]
    · intro h
      rw [show m / 262144 = n / 262144 by omega, show m / 4096 = n / 4096 by omega]
    · intro h
      rw [show m / 262144 = n / 262144 by omega, show m / 4096 = n / 4096 by omega, h]

theorem utf8EncodeChar_precedes {c d : Char} (hLt : c < d) :
    Precedes (String.utf8EncodeChar c) (String.utf8EncodeChar d) := by
  rw [utf8EncodeChar_eq_encodeNumber, utf8EncodeChar_eq_encodeNumber]
  exact encodeNumber_precedes (UInt32.lt_iff_toNat_lt.mp hLt) (toNat_le_maximum d)

/-! ### Texts -/

theorem flatMap_utf8EncodeChar_lt {cs ds : List Char} (hLt : cs < ds) :
    cs.flatMap String.utf8EncodeChar < ds.flatMap String.utf8EncodeChar := by
  induction List.lex_lt.mpr hLt with
  | @nil d rest =>
      obtain ⟨octet, more, hOctets⟩ :=
        List.exists_cons_of_ne_nil (String.utf8EncodeChar_ne_nil (c := d))
      rw [List.flatMap_nil, List.flatMap_cons, hOctets]
      exact List.nil_lt_cons _ _
  | @cons c cs ds _ ih =>
      rw [List.flatMap_cons, List.flatMap_cons]
      exact List.append_left_lt (ih (List.lex_lt.mp ‹_›))
  | @rel c cs d ds hChars =>
      rw [List.flatMap_cons, List.flatMap_cons]
      exact ((utf8EncodeChar_precedes hChars).append _ _).lt

/-- The order of texts is the order of their octets. -/
theorem lt_iff_utf8_lt (s t : String) : s < t ↔ utf8 s < utf8 t := by
  have hMono : ∀ {s t : String}, s < t → utf8 s < utf8 t := by
    intro s t hLt
    rw [utf8_eq_flatMap, utf8_eq_flatMap]
    exact flatMap_utf8EncodeChar_lt (String.lt_iff_toList_lt.mp hLt)
  refine ⟨hMono, fun hOctets => ?_⟩
  -- Texts are ordered totally, so the other direction follows from the first.
  rcases lt_trichotomy s t with hLt | hEq | hGt
  · exact hLt
  · rw [hEq] at hOctets
    exact absurd hOctets (List.lt_irrefl _)
  · exact absurd hOctets (List.lt_asymm (hMono hGt))

end Text
end Switchboard
