/-!
# Cutting and trimming text

A text is cut at separator characters into pieces, pieces are joined again by one separator
character, and characters of a chosen kind are trimmed from both ends.  Every function works on the
list of characters; the functions on strings are these up to conversion.  Joining at a
character undoes cutting at it (`join_split`).
-/

namespace Switchboard
namespace Text

/-- The pieces of a text between its separators: one more than there are separators. -/
def split (isSep : Char → Bool) : List Char → List (List Char)
  | [] => [[]]
  | c :: rest =>
    if isSep c then [] :: split isSep rest
    else
      match split isSep rest with
      | [] => [[c]]
      | piece :: pieces => (c :: piece) :: pieces

/-- The pieces one after another with `sep` between neighbours. -/
def join (sep : Char) : List (List Char) → List Char
  | [] => []
  | [piece] => piece
  | piece :: next :: pieces => piece ++ sep :: join sep (next :: pieces)

/-- The text without the characters of the kind `p` at its end. -/
def dropEndWhile (p : Char → Bool) (cs : List Char) : List Char :=
  (cs.reverse.dropWhile p).reverse

/-- The text without the characters of the kind `p` at its two ends. -/
def trimWhile (p : Char → Bool) (cs : List Char) : List Char :=
  dropEndWhile p (cs.dropWhile p)

theorem split_ne_nil (isSep : Char → Bool) (cs : List Char) : split isSep cs ≠ [] := by
  cases cs with
  | nil => simp [split]
  | cons c rest =>
    simp only [split]
    split
    · simp
    · split <;> simp

/-- Joining the pieces between the occurrences of one character gives back the text. -/
theorem join_split (sep : Char) (cs : List Char) : join sep (split (· == sep) cs) = cs := by
  induction cs with
  | nil => rfl
  | cons c rest ih =>
    simp only [split]
    by_cases hSep : c = sep
    · subst hSep
      simp only [beq_self_eq_true, if_true]
      obtain ⟨piece, pieces, hPieces⟩ := List.exists_cons_of_ne_nil (split_ne_nil (· == c) rest)
      rw [hPieces] at ih ⊢
      simp [join, ih]
    · simp only [beq_iff_eq, hSep, if_false]
      obtain ⟨piece, pieces, hPieces⟩ := List.exists_cons_of_ne_nil (split_ne_nil (· == sep) rest)
      rw [hPieces] at ih ⊢
      cases pieces with
      | nil => simpa [join] using ih
      | cons next pieces => simpa [join] using ih

/-- The pieces of a string between its separators. -/
def pieces (isSep : Char → Bool) (s : String) : List String :=
  (split isSep s.toList).map String.ofList

/-- The strings one after another with `sep` between neighbours. -/
def glue (sep : Char) (parts : List String) : String :=
  String.ofList (join sep (parts.map String.toList))

/-- The string without the characters of the kind `p` at its two ends. -/
def trimBy (p : Char → Bool) (s : String) : String :=
  String.ofList (trimWhile p s.toList)

/-- The strings one after another with a longer separator between neighbours. -/
def listed (sep : String) : List String → String
  | [] => ""
  | [part] => part
  | part :: next :: parts => part ++ sep ++ listed sep (next :: parts)

end Text
end Switchboard
