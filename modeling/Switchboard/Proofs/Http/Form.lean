import Switchboard.Http.Form
import Switchboard.Proofs.Text.OctetOrder
import Switchboard.Proofs.Text.Pieces

/-!
# Reading form data that was written

Queries that are joined by ampersands have the pairs of the one before the pairs of the other
(`pairs_glue`): nothing that is written after a query changes its pairs.  A text that is written as
its octets is read back (`decodeOctets_octets`), and writing the marks between pairs as escapes does
not change what a value stands for (`percentDecode_flatMap_escapeOctet`).  Octets that are no text
are replaced in the same way on both sides; which characters stand for them is not looked at.
-/

namespace Switchboard
namespace Http

open Text (encodeNumber follower utf8EncodeChar_eq_encodeNumber toNat_le_maximum)

/-! ## Octets of texts -/

theorem toNat_ofNat {n : Nat} (hBound : n < 256) : (UInt8.ofNat n).toNat = n := by
  rw [UInt8.toNat_ofNat', Nat.mod_eq_of_lt hBound]

theorem toNat_follower (n : Nat) : (follower n).toNat = n % 64 + 128 :=
  toNat_ofNat (by omega)

/-- A character with a number below 128 is one octet, and every octet of another one is above. -/
theorem utf8EncodeChar_cases (c : Char) :
    (c.toNat < 0x80 ∧ String.utf8EncodeChar c = [UInt8.ofNat c.toNat]) ∨
      (0x80 ≤ c.toNat ∧ ∀ octet ∈ String.utf8EncodeChar c, 0x80 ≤ octet.toNat) := by
  have hBound := toNat_le_maximum c
  rw [utf8EncodeChar_eq_encodeNumber]
  unfold encodeNumber
  split_ifs with h1 h2 h3
  · exact Or.inl ⟨by omega, rfl⟩
  all_goals
    refine Or.inr ⟨by omega, ?_⟩
    simp only [List.cons_append, List.nil_append, List.forall_mem_cons, toNat_follower]
  · rw [toNat_ofNat (by omega)]
    exact ⟨by omega, by omega, nofun⟩
  · rw [toNat_ofNat (by omega)]
    exact ⟨by omega, by omega, by omega, nofun⟩
  · rw [toNat_ofNat (by omega)]
    exact ⟨by omega, by omega, by omega, by omega, nofun⟩

/-- The number of a character is none that is set aside. -/
theorem toNat_not_surrogate (c : Char) : c.toNat < 0xd800 ∨ 0xdfff < c.toNat := by
  rcases c.valid with hLow | hHigh
  · exact Or.inl hLow
  · exact Or.inr hHigh.1

theorem continuation_follower {low high n : Nat} (hLow : low ≤ n % 64 + 128)
    (hHigh : n % 64 + 128 ≤ high) (count : Nat) (rest : List Octet) :
    continuation (count + 1) low high (follower n :: rest) =
      (n % 64 + 128) :: continuation count 0x80 0xBF rest := by
  rw [continuation, toNat_follower, if_pos ⟨hLow, hHigh⟩]

/-- A first octet with all the octets that it asks for gives the character of their bits. -/
theorem firstChar_eq {c : Char} {octet : Octet} {rest : List Octet} {count low high bits : Nat}
    {numbers : List Nat} (hLeading : leading? octet.toNat = some (count, low, high, bits))
    (hMore : continuation count low high rest = numbers) (hCount : numbers.length = count)
    (hBits : numbers.foldl (fun total n => total * 64 + (n - 0x80)) bits = c.toNat) :
    firstChar octet rest = (c, count) := by
  simp only [firstChar, hLeading, hMore, hCount, hBits, if_true, Char.ofNat_toNat]

theorem leading?_two {n : Nat} (hLow : 0x7f < n) (hHigh : n ≤ 0x7ff) :
    leading? (n / 64 + 0xc0) = some (1, 0x80, 0xBF, n / 64) := by
  rw [leading?, if_neg (by omega), if_neg (by omega), if_pos (by omega), Nat.add_sub_cancel]

/-- The first of three octets asks for the second to be in a range in which it is. -/
theorem exists_leading?_three {n : Nat} (hLow : 0x7ff < n) (hHigh : n ≤ 0xffff)
    (hValid : n < 0xd800 ∨ 0xdfff < n) :
    ∃ low high, leading? (n / 4096 + 0xe0) = some (2, low, high, n / 4096) ∧
      low ≤ n / 64 % 64 + 128 ∧ n / 64 % 64 + 128 ≤ high := by
  -- The first leading octet excludes longer forms, and `0xED` excludes surrogates.
  by_cases hFirst : n / 4096 = 0
  · exact ⟨0xA0, 0xBF, by rw [hFirst]; rfl, by omega, by omega⟩
  by_cases hLast : n / 4096 = 0xD
  · exact ⟨0x80, 0x9F, by rw [hLast]; rfl, by omega, by omega⟩
  refine ⟨0x80, 0xBF, ?_, by omega, by omega⟩
  rw [leading?, if_neg (by omega), if_neg (by omega), if_neg (by omega), if_neg (by omega),
    if_neg (by omega), if_pos (by omega), Nat.add_sub_cancel]

/-- The first of four octets asks for the second to be in a range in which it is. -/
theorem exists_leading?_four {n : Nat} (hLow : 0xffff < n) (hHigh : n ≤ 0x10ffff) :
    ∃ low high, leading? (n / 262144 + 0xf0) = some (3, low, high, n / 262144) ∧
      low ≤ n / 4096 % 64 + 128 ∧ n / 4096 % 64 + 128 ≤ high := by
  by_cases hFirst : n / 262144 = 0
  · exact ⟨0x90, 0xBF, by rw [hFirst]; rfl, by omega, by omega⟩
  by_cases hLast : n / 262144 = 4
  · exact ⟨0x80, 0x8F, by rw [hLast]; rfl, by omega, by omega⟩
  refine ⟨0x80, 0xBF, ?_, by omega, by omega⟩
  rw [leading?, if_neg (by omega), if_neg (by omega), if_neg (by omega), if_neg (by omega),
    if_neg (by omega), if_neg (by omega), if_neg (by omega), if_pos (by omega), Nat.add_sub_cancel]

/-- The octets of a character are read as that character, whatever follows. -/
theorem firstChar_of_encodeNumber (c : Char) {octet : Octet} {more : List Octet}
    (hOctets : encodeNumber c.toNat = octet :: more) (rest : List Octet) :
    firstChar octet (more ++ rest) = (c, more.length) := by
  have hBound := toNat_le_maximum c
  unfold encodeNumber at hOctets
  simp only [List.cons_append, List.nil_append] at hOctets
  -- One case for each number of octets; the leading one says how many follow.
  split_ifs at hOctets with h1 h2 h3 <;> obtain ⟨rfl, rfl⟩ := List.cons.inj hOctets <;>
    simp only [List.cons_append, List.nil_append]
  · have hLeading : leading? (UInt8.ofNat c.toNat).toNat = some (0, 0x80, 0xBF, c.toNat) := by
      rw [toNat_ofNat (by omega)]
      exact if_pos (by omega)
    exact firstChar_eq hLeading rfl rfl rfl
  · have hLeading := leading?_two (n := c.toNat) (by omega) h2
    rw [← toNat_ofNat (n := c.toNat / 64 + 0xc0) (by omega)] at hLeading
    have hMore : continuation 1 0x80 0xBF (follower c.toNat :: rest) =
        (c.toNat % 64 + 128) :: continuation 0 0x80 0xBF rest :=
      continuation_follower (by omega) (by omega) 0 rest
    refine firstChar_eq hLeading hMore rfl ?_
    simp only [List.foldl_cons, List.foldl_nil, continuation]
    omega
  · obtain ⟨low, high, hLeading, hLow, hHigh⟩ :=
      exists_leading?_three (by omega) h3 (toNat_not_surrogate c)
    rw [← toNat_ofNat (n := c.toNat / 4096 + 0xe0) (by omega)] at hLeading
    have hMore := continuation_follower hLow hHigh 1 (follower c.toNat :: rest)
    rw [continuation_follower (by omega) (by omega) 0 rest] at hMore
    refine firstChar_eq hLeading hMore rfl ?_
    simp only [List.foldl_cons, List.foldl_nil, continuation]
    omega
  · obtain ⟨low, high, hLeading, hLow, hHigh⟩ := exists_leading?_four (by omega) hBound
    rw [← toNat_ofNat (n := c.toNat / 262144 + 0xf0) (by omega)] at hLeading
    have hMore := continuation_follower hLow hHigh 2
      (follower (c.toNat / 64) :: follower c.toNat :: rest)
    rw [continuation_follower (by omega) (by omega) 1,
      continuation_follower (by omega) (by omega) 0 rest] at hMore
    refine firstChar_eq hLeading hMore rfl ?_
    simp only [List.foldl_cons, List.foldl_nil, continuation]
    omega

/-- A text that is written as its octets is read back. -/
theorem decodeOctets_octets (cs : List Char) : decodeOctets (octets cs) = cs := by
  induction cs with
  | nil => rw [octets, List.flatMap_nil, decodeOctets]
  | cons c cs ih =>
    have hSplit : octets (c :: cs) = encodeNumber c.toNat ++ octets cs := by
      rw [octets, List.flatMap_cons, utf8EncodeChar_eq_encodeNumber]
      rfl
    have hNe : encodeNumber c.toNat ≠ [] := by
      rw [← utf8EncodeChar_eq_encodeNumber]
      exact String.utf8EncodeChar_ne_nil
    obtain ⟨octet, more, hOctets⟩ := List.exists_cons_of_ne_nil hNe
    have hFirst := firstChar_of_encodeNumber c hOctets (octets cs)
    rw [hSplit, hOctets, List.cons_append, decodeOctets]
    simp only [hFirst, List.drop_left, ih]

/-! ## Escapes -/

/-- An octet as it is written where the octets of `+`, `&` and `=` are escaped. -/
def escapeOctet (octet : Octet) : List Octet :=
  if octet = 0x2B then [0x25, 0x32, 0x42]
  else if octet = 0x26 then [0x25, 0x32, 0x36]
  else if octet = 0x3D then [0x25, 0x33, 0x44]
  else [octet]

theorem percentDecode_cons_of_ne {octet : Octet} (hNe : octet ≠ 0x25) (rest : List Octet) :
    percentDecode (octet :: rest) = octet :: percentDecode rest := by
  rw [percentDecode, if_neg hNe]

theorem percentDecode_of_escaped {rest : List Octet} {value : Octet}
    (hEscaped : escaped? rest = some value) :
    percentDecode (0x25 :: rest) = value :: percentDecode (rest.drop 2) := by
  rw [percentDecode, if_pos rfl]
  simp only [hEscaped]

theorem percentDecode_of_not_escaped {rest : List Octet} (hNone : escaped? rest = none) :
    percentDecode (0x25 :: rest) = 0x25 :: percentDecode rest := by
  rw [percentDecode, if_pos rfl]
  simp only [hNone]

/-- An octet is written as itself, or it is no digit and an escape is written that gives it back. -/
theorem escapeOctet_cases (octet : Octet) :
    escapeOctet octet = [octet] ∨
      octet ≠ 0x25 ∧ hexValue? octet = none ∧ ∃ digits, escapeOctet octet = 0x25 :: digits ∧
        ∀ rest, percentDecode (0x25 :: digits ++ rest) = octet :: percentDecode rest := by
  have hEscape : ∀ {high low : Octet}, escaped? [high, low] = some octet → ∀ rest,
      percentDecode (0x25 :: [high, low] ++ rest) = octet :: percentDecode rest := by
    intro high low h rest
    have hEscaped : escaped? (high :: low :: rest) = some octet := h
    exact percentDecode_of_escaped hEscaped
  by_cases hPlus : octet = 0x2B
  · subst hPlus
    exact Or.inr ⟨by decide, by decide, _, rfl, hEscape (by decide)⟩
  by_cases hAmpersand : octet = 0x26
  · subst hAmpersand
    exact Or.inr ⟨by decide, by decide, _, rfl, hEscape (by decide)⟩
  by_cases hEquals : octet = 0x3D
  · subst hEquals
    exact Or.inr ⟨by decide, by decide, _, rfl, hEscape (by decide)⟩
  · exact Or.inl (by rw [escapeOctet, if_neg hPlus, if_neg hAmpersand, if_neg hEquals])

theorem escaped?_of_high {high : Octet} (hHigh : hexValue? high = none) (rest : List Octet) :
    escaped? (high :: rest) = none := by
  cases rest with
  | nil => rfl
  | cons low rest => simp [escaped?, hHigh]

theorem escaped?_of_low {low : Octet} (hLow : hexValue? low = none) (high : Octet)
    (rest : List Octet) : escaped? (high :: low :: rest) = none := by
  simp [escaped?, hLow]

/-- Two digits are written as themselves, and what is no pair of digits is not written as one. -/
theorem escaped?_flatMap_escapeOctet (rest : List Octet) :
    escaped? (rest.flatMap escapeOctet) = escaped? rest ∧
      (escaped? rest ≠ none →
        (rest.flatMap escapeOctet).drop 2 = (rest.drop 2).flatMap escapeOctet) := by
  have hPercent : hexValue? 0x25 = none := by decide
  cases rest with
  | nil => exact ⟨rfl, fun h => absurd rfl h⟩
  | cons high rest =>
    rcases escapeOctet_cases high with hHigh | ⟨-, hNone, digits, hHigh, -⟩
    · cases rest with
      | nil =>
        rw [List.flatMap_cons, hHigh]
        exact ⟨rfl, fun h => absurd rfl h⟩
      | cons low rest =>
        rcases escapeOctet_cases low with hLow | ⟨-, hNone, digits, hLow, -⟩
        · rw [List.flatMap_cons, List.flatMap_cons, hHigh, hLow]
          exact ⟨rfl, fun _ => rfl⟩
        · simp only [List.flatMap_cons, hHigh, hLow, List.cons_append, List.nil_append,
            escaped?_of_low hNone, escaped?_of_low hPercent]
          exact ⟨trivial, fun h => absurd rfl h⟩
    · simp only [List.flatMap_cons, hHigh, List.cons_append, escaped?_of_high hNone,
        escaped?_of_high hPercent]
      exact ⟨trivial, fun h => absurd rfl h⟩

/-- Octets that are written with escapes stand for the same octets, whatever escapes and lone
percent signs are among them already. -/
theorem percentDecode_flatMap_escapeOctet (written : List Octet) :
    percentDecode (written.flatMap escapeOctet) = percentDecode written := by
  -- An escape takes three octets at once, so the induction is on the length.
  induction hLength : written.length using Nat.strongRecOn generalizing written with
  | ind length ih =>
    have hShorter : ∀ shorter : List Octet, shorter.length < written.length →
        percentDecode (shorter.flatMap escapeOctet) = percentDecode shorter :=
      fun shorter hLess => ih shorter.length (hLength ▸ hLess) shorter rfl
    cases written with
    | nil => rfl
    | cons octet rest =>
      have hRest := hShorter rest (Nat.lt_succ_self _)
      rw [List.flatMap_cons]
      rcases escapeOctet_cases octet with hSame | ⟨hNe, -, digits, hEscape, hBack⟩
      · rw [hSame, List.singleton_append]
        by_cases hPercent : octet = 0x25
        · subst hPercent
          obtain ⟨hEscaped, hDrop⟩ := escaped?_flatMap_escapeOctet rest
          cases hValue : escaped? rest with
          | none =>
            rw [percentDecode_of_not_escaped hValue,
              percentDecode_of_not_escaped (hEscaped.trans hValue), hRest]
          | some value =>
            have hLess : (rest.drop 2).length < (0x25 :: rest).length := by
              simp only [List.length_drop, List.length_cons]
              omega
            rw [percentDecode_of_escaped hValue,
              percentDecode_of_escaped (hEscaped.trans hValue), hDrop (by simp [hValue]),
              hShorter _ hLess]
        · rw [percentDecode_cons_of_ne hPercent, percentDecode_cons_of_ne hPercent, hRest]
      · rw [hEscape, hBack, percentDecode_cons_of_ne hNe, hRest]

/-- Without percent signs nothing is decoded. -/
theorem percentDecode_eq_self {written : List Octet} (hFree : (0x25 : Octet) ∉ written) :
    percentDecode written = written := by
  induction written with
  | nil => rw [percentDecode]
  | cons octet rest ih =>
    obtain ⟨hNe, hRest⟩ := not_or.mp (mt List.mem_cons.mpr hFree)
    rw [percentDecode_cons_of_ne (Ne.symm hNe), ih hRest]

/-! ## Parts of pairs -/

/-- What a part of a path stands for. -/
def percentDecoded (text : String) : String :=
  String.ofList (decodeOctets (percentDecode (octets text.toList)))

/-- A character with a number below 128 that is not in a text is not among its octets. -/
theorem ofNat_not_mem_octets {c : Char} (hAscii : c.toNat < 0x80) {cs : List Char}
    (hFree : c ∉ cs) : UInt8.ofNat c.toNat ∉ octets cs := by
  intro hMem
  obtain ⟨d, hd, hOctet⟩ := List.mem_flatMap.mp hMem
  have hNumber := toNat_ofNat (n := c.toNat) (by omega)
  rcases utf8EncodeChar_cases d with ⟨hLow, hSingle⟩ | ⟨-, hHigh⟩
  · rw [hSingle, List.mem_singleton] at hOctet
    have hSame : c.toNat = d.toNat := by
      rw [← hNumber, hOctet, toNat_ofNat (by omega)]
    exact hFree (Char.toNat_inj.mp hSame ▸ hd)
  · have := hHigh _ hOctet
    omega

/-- A name without plus and percent signs stands for itself. -/
theorem decodePart_eq_self {part : List Char} (hPlus : '+' ∉ part) (hPercent : '%' ∉ part) :
    decodePart part = String.ofList part := by
  have hBlanked : (part.map fun c => if c == '+' then ' ' else c) = part := by
    refine (List.map_congr_left fun c hc => ?_).trans (List.map_id part)
    have hNe : c ≠ '+' := fun h => hPlus (h ▸ hc)
    simp [hNe]
  have hFree : (0x25 : Octet) ∉ octets part := ofNat_not_mem_octets (c := '%') (by decide) hPercent
  simp only [decodePart, hBlanked, percentDecode_eq_self hFree, decodeOctets_octets]

/-! ## Pairs -/

/-- The pair of a text between ampersands. -/
def pairOf (part : List Char) : String × String :=
  (decodePart (part.takeWhile (· != '=')), decodePart ((part.dropWhile (· != '=')).drop 1))

theorem pairs_eq_map (query : String) :
    pairs query =
      ((Text.split (· == '&') query.toList).filter (!·.isEmpty)).map pairOf := rfl

/-- Queries that are joined keep their pairs: none is changed, split or joined with another. -/
theorem pairs_glue (queries : List String) :
    pairs (Text.glue '&' queries) = queries.flatMap pairs := by
  cases queries with
  | nil => rfl
  | cons query queries =>
    have hSplit : Text.split (· == '&') (Text.glue '&' (query :: queries)).toList =
        ((query :: queries).map String.toList).flatMap (Text.split (· == '&')) := by
      rw [Text.glue, String.toList_ofList]
      exact Text.split_join_eq_flatMap '&' (by simp)
    rw [pairs_eq_map, hSplit, List.filter_flatMap, List.map_flatMap, List.flatMap_map]
    rfl

/-- A name and a value with an equals sign between them are one pair. -/
theorem pairs_pair {name value : List Char} (hAmpersand : '&' ∉ name) (hEquals : '=' ∉ name)
    (hValue : '&' ∉ value) :
    pairs (String.ofList (name ++ '=' :: value)) = [(decodePart name, decodePart value)] := by
  have hWhole : Text.split (· == '&') (name ++ '=' :: value) = [name ++ '=' :: value] := by
    refine Text.split_eq_singleton _ _ fun c hc => beq_eq_false_iff_ne.mpr ?_
    rintro rfl
    rcases List.mem_append.mp hc with hName | hRest
    · exact hAmpersand hName
    · exact hValue ((List.mem_cons.mp hRest).resolve_left (by decide))
  have hOther : ∀ c ∈ name, (c != '=') = true := fun c hc =>
    bne_iff_ne.mpr fun h => hEquals (h ▸ hc)
  have hTake : (name ++ '=' :: value).takeWhile (· != '=') = name := by
    rw [List.takeWhile_append_of_pos hOther]
    simp
  have hDrop : (name ++ '=' :: value).dropWhile (· != '=') = '=' :: value := by
    rw [List.dropWhile_append_of_pos hOther]
    rfl
  rw [pairs_eq_map, String.toList_ofList, hWhole]
  simp [pairOf, hTake, hDrop]

end Http
end Switchboard
