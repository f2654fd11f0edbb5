import Switchboard.Text.Blank
import Mathlib.Data.List.DropRight

/-!
# Pieces of texts

Cutting a text at one character undoes joining pieces at that character, as long as there is a piece
and no piece holds the character.  So a text that is joined from such pieces determines them, which
is how two paths are compared segment by segment.  Trimming only ever takes characters away, and
what is joined from trimmed pieces that are not empty is trimmed.

A piece holds no separator itself, and beside it is a separator or an end of the text
(`StandsBetween`).
-/

namespace Switchboard
namespace Text

theorem isSep_eq_false_of_mem_split (isSep : Char → Bool) (cs : List Char)
    {piece : List Char} (hPiece : piece ∈ split isSep cs)
    {c : Char} (hChar : c ∈ piece) : isSep c = false := by
  induction cs generalizing piece with
  | nil =>
      simp only [split, List.mem_singleton] at hPiece
      subst hPiece
      simp at hChar
  | cons first rest ih =>
      obtain ⟨head, tail, hRest⟩ :=
        List.exists_cons_of_ne_nil (split_ne_nil isSep rest)
      rw [hRest] at ih
      by_cases hSep : isSep first = true
      · simp only [split, hSep, if_true, hRest, List.mem_cons] at hPiece
        rcases hPiece with rfl | hPiece
        · simp at hChar
        · exact ih (by simpa using hPiece) hChar
      · simp only [split, hSep, hRest] at hPiece
        rcases List.mem_cons.mp hPiece with rfl | hTail
        · rcases List.mem_cons.mp hChar with rfl | hHead
          · simpa using hSep
          · exact ih (by simp) hHead
        · exact ih (by simp [hTail]) hChar

theorem split_eq_singleton (isSep : Char → Bool) (cs : List Char)
    (hFree : ∀ c ∈ cs, isSep c = false) : split isSep cs = [cs] := by
  induction cs with
  | nil => rfl
  | cons c rest ih =>
      have hFirst : isSep c = false := hFree c (by simp)
      have hRest := ih fun d hd => hFree d (by simp [hd])
      simp [split, hFirst, hRest]

/-- The first separator ends the first piece. -/
theorem split_append_cons (isSep : Char → Bool) (cs rest : List Char) (sep : Char)
    (hFree : ∀ c ∈ cs, isSep c = false) (hSep : isSep sep = true) :
    split isSep (cs ++ sep :: rest) = cs :: split isSep rest := by
  induction cs with
  | nil => simp [split, hSep]
  | cons c more ih =>
      have hFirst : isSep c = false := hFree c (by simp)
      have hMore := ih fun d hd => hFree d (by simp [hd])
      simp [split, hFirst, hMore]

/-- Cutting undoes joining. -/
theorem split_join (sep : Char) (parts : List (List Char)) (hNe : parts ≠ [])
    (hFree : ∀ part ∈ parts, sep ∉ part) :
    split (· == sep) (join sep parts) = parts := by
  have hNoSep : ∀ part ∈ parts, ∀ c ∈ part, (c == sep) = false := by
    intro part hPart c hc
    exact beq_false_of_ne fun hEq => hFree part hPart (hEq ▸ hc)
  induction parts with
  | nil => exact absurd rfl hNe
  | cons part rest ih =>
      -- Only between two parts does a separator stand.
      cases rest with
      | nil => exact split_eq_singleton _ part (hNoSep part (by simp))
      | cons next more =>
          rw [show join sep (part :: next :: more) =
              part ++ sep :: join sep (next :: more) from rfl,
            split_append_cons _ part _ sep (hNoSep part (by simp)) (by simp),
            ih (by simp) (fun p hp => hFree p (by simp [hp]))
              (fun p hp => hNoSep p (by simp [hp]))]

theorem pieces_ne_nil (isSep : Char → Bool) (s : String) : pieces isSep s ≠ [] := by
  simp [pieces, split_ne_nil]

theorem not_mem_of_mem_pieces (sep : Char) (s : String) {piece : String}
    (hPiece : piece ∈ pieces (· == sep) s) : sep ∉ piece.toList := by
  obtain ⟨cs, hMem, rfl⟩ := List.mem_map.mp hPiece
  intro hSep
  rw [String.toList_ofList] at hSep
  simpa using isSep_eq_false_of_mem_split _ _ hMem hSep

/-- The pieces of glued strings are these strings, if none of them holds the separator. -/
theorem pieces_glue (sep : Char) (parts : List String) (hNe : parts ≠ [])
    (hFree : ∀ part ∈ parts, sep ∉ part.toList) :
    pieces (· == sep) (glue sep parts) = parts := by
  have hSplit : split (· == sep) (join sep (parts.map String.toList)) =
      parts.map String.toList := by
    apply split_join sep _ (by simpa using hNe)
    intro cs hcs
    obtain ⟨part, hPart, rfl⟩ := List.mem_map.mp hcs
    exact hFree part hPart
  rw [pieces, glue, String.toList_ofList, hSplit]
  simp [List.map_map, Function.comp_def]

/-- Strings without the separator are determined by what they are glued to. -/
theorem glue_inj (sep : Char) {parts others : List String} (hNe : parts ≠ [])
    (hOtherNe : others ≠ []) (hFree : ∀ part ∈ parts, sep ∉ part.toList)
    (hOtherFree : ∀ part ∈ others, sep ∉ part.toList) :
    glue sep parts = glue sep others ↔ parts = others := by
  constructor
  · intro hGlue
    rw [← pieces_glue sep parts hNe hFree, hGlue, pieces_glue sep others hOtherNe hOtherFree]
  · rintro rfl
    rfl

theorem dropEndWhile_subset (p : Char → Bool) (cs : List Char) : dropEndWhile p cs ⊆ cs := by
  intro c hc
  rw [dropEndWhile, List.mem_reverse] at hc
  exact List.mem_reverse.mp ((List.dropWhile_sublist p).subset hc)

theorem trim_subset (s : String) : (trim s).toList ⊆ s.toList := by
  intro c hc
  rw [trim, trimBy, String.toList_ofList, trimWhile] at hc
  exact (List.dropWhile_sublist isBlank).subset (dropEndWhile_subset isBlank _ hc)

/-- What is left of a trimmed string, if anything is left. -/
theorem nonBlank?_eq_some_iff (s t : String) :
    nonBlank? s = some t ↔ t = trim s ∧ trim s ≠ "" := by
  rw [nonBlank?]
  by_cases hEmpty : (trim s).isEmpty = true
  · have hEq : trim s = "" := String.isEmpty_iff.mp hEmpty
    simp [hEq]
  · have hNe : trim s ≠ "" := fun hEq => hEmpty (String.isEmpty_iff.mpr hEq)
    simp [hEmpty, hNe, eq_comm]

/-! ### Pieces of joined texts -/

/-- A separator ends a piece wherever it stands. -/
theorem split_append_sep (isSep : Char → Bool) (cs rest : List Char) (sep : Char)
    (hSep : isSep sep = true) :
    split isSep (cs ++ sep :: rest) = split isSep cs ++ split isSep rest := by
  induction cs with
  | nil => simp [split, hSep]
  | cons c more ih =>
      obtain ⟨piece, pieces, hMore⟩ := List.exists_cons_of_ne_nil (split_ne_nil isSep more)
      by_cases hFirst : isSep c = true
      · simp [split, hFirst, ih]
      · simp [split, hFirst, ih, hMore]

theorem join_cons (sep : Char) (part : List Char) {parts : List (List Char)} (hNe : parts ≠ []) :
    join sep (part :: parts) = part ++ sep :: join sep parts := by
  cases parts with
  | nil => exact absurd rfl hNe
  | cons next more => rfl

theorem join_append (sep : Char) {parts others : List (List Char)} (hNe : parts ≠ [])
    (hOtherNe : others ≠ []) :
    join sep (parts ++ others) = join sep parts ++ sep :: join sep others := by
  induction parts with
  | nil => exact absurd rfl hNe
  | cons part rest ih =>
      cases rest with
      | nil => exact join_cons sep part hOtherNe
      | cons next more =>
          rw [List.cons_append, join_cons sep part (by simp), ih (by simp),
            join_cons sep part (by simp), List.append_assoc, List.cons_append]

theorem mem_join {sep c : Char} {parts : List (List Char)} (hMem : c ∈ join sep parts) :
    c = sep ∨ ∃ part ∈ parts, c ∈ part := by
  induction parts with
  | nil => exact nomatch hMem
  | cons part parts ih =>
    cases parts with
    | nil => exact Or.inr ⟨part, List.mem_cons_self, hMem⟩
    | cons next more =>
      rcases List.mem_append.mp hMem with hPart | hRest
      · exact Or.inr ⟨part, List.mem_cons_self, hPart⟩
      · rcases List.mem_cons.mp hRest with rfl | hRest
        · exact Or.inl rfl
        · rcases ih hRest with rfl | ⟨other, hOther, hc⟩
          · exact Or.inl rfl
          · exact Or.inr ⟨other, List.mem_cons_of_mem _ hOther, hc⟩

theorem mem_glue {sep c : Char} {parts : List String} (hMem : c ∈ (glue sep parts).toList) :
    c = sep ∨ ∃ part ∈ parts, c ∈ part.toList := by
  rw [glue, String.toList_ofList] at hMem
  refine (mem_join hMem).imp_right ?_
  rintro ⟨_, hChars, hc⟩
  obtain ⟨part, hPart, rfl⟩ := List.mem_map.mp hChars
  exact ⟨part, hPart, hc⟩

theorem subset_join {sep : Char} {parts : List (List Char)} {part : List Char}
    (hPart : part ∈ parts) : part ⊆ join sep parts := by
  induction parts with
  | nil => exact nomatch hPart
  | cons first parts ih =>
    cases parts with
    | nil =>
      obtain rfl := List.mem_singleton.mp hPart
      exact fun _ h => h
    | cons next more =>
      rcases List.mem_cons.mp hPart with rfl | hRest
      · exact List.subset_append_left _ _
      · exact fun _ h => List.mem_append_right _ (List.mem_cons_of_mem _ (ih hRest h))

/-- The pieces of joined texts are the pieces of these texts. -/
theorem split_join_eq_flatMap (sep : Char) {parts : List (List Char)} (hNe : parts ≠ []) :
    split (· == sep) (join sep parts) = parts.flatMap (split (· == sep)) := by
  induction parts with
  | nil => exact absurd rfl hNe
  | cons part rest ih =>
      cases rest with
      | nil => simp [join]
      | cons next more =>
          rw [join_cons sep part (by simp), split_append_sep _ _ _ sep (by simp), ih (by simp)]
          rfl

theorem glue_append (sep : Char) {parts others : List String} (hNe : parts ≠ [])
    (hOtherNe : others ≠ []) :
    glue sep (parts ++ others) = glue sep parts ++ String.singleton sep ++ glue sep others := by
  have hJoin : join sep (parts.map String.toList ++ others.map String.toList) =
      join sep (parts.map String.toList) ++ sep :: join sep (others.map String.toList) :=
    join_append sep (by simpa using hNe) (by simpa using hOtherNe)
  rw [← String.toList_inj]
  simp [glue, hJoin]

theorem pieces_glue_eq_flatMap (sep : Char) {parts : List String} (hNe : parts ≠ []) :
    pieces (· == sep) (glue sep parts) = parts.flatMap (pieces (· == sep)) := by
  have hSplit : split (· == sep) (join sep (parts.map String.toList)) =
      (parts.map String.toList).flatMap (split (· == sep)) :=
    split_join_eq_flatMap sep (by simpa using hNe)
  rw [pieces, glue, String.toList_ofList, hSplit, List.flatMap_map, List.map_flatMap]
  rfl

/-! ### Trimmed texts -/

/-- A text that has no character of a kind at either of its ends. -/
structure IsTrimmed (p : Char → Bool) (cs : List Char) : Prop where
  first : ∀ c, cs.head? = some c → p c = false
  last : ∀ c, cs.getLast? = some c → p c = false

theorem dropEndWhile_eq_rdropWhile (p : Char → Bool) (cs : List Char) :
    dropEndWhile p cs = cs.rdropWhile p := rfl

theorem trimWhile_eq_self {p : Char → Bool} {cs : List Char} (hTrimmed : IsTrimmed p cs) :
    trimWhile p cs = cs := by
  have hFirst : cs.dropWhile p = cs := by
    cases cs with
    | nil => rfl
    | cons c rest => simp [hTrimmed.first c rfl]
  rw [trimWhile, hFirst, dropEndWhile_eq_rdropWhile, List.rdropWhile_eq_self_iff]
  intro hNe
  simp [hTrimmed.last _ (List.getLast?_eq_some_getLast hNe)]

theorem isTrimmed_trimWhile (p : Char → Bool) (cs : List Char) : IsTrimmed p (trimWhile p cs) := by
  have hPrefix : trimWhile p cs <+: cs.dropWhile p := by
    rw [trimWhile, dropEndWhile_eq_rdropWhile]
    exact List.rdropWhile_prefix p _
  constructor
  · intro c hFirst
    obtain ⟨rest, hRest⟩ := hPrefix
    have hHead : (cs.dropWhile p).head? = some c := by
      rw [← hRest, List.head?_append, hFirst]
      rfl
    have hNot := List.head?_dropWhile_not p cs
    rw [hHead] at hNot
    simpa using hNot
  · intro c hLast
    have hNe : (cs.dropWhile p).rdropWhile p ≠ [] := fun hNil => by
      rw [trimWhile, dropEndWhile_eq_rdropWhile, hNil] at hLast
      cases hLast
    have hNot := List.rdropWhile_last_not p (cs.dropWhile p) hNe
    rw [trimWhile, dropEndWhile_eq_rdropWhile, List.getLast?_eq_some_getLast hNe] at hLast
    rw [← Option.some.inj hLast]
    simpa using hNot

/-- What is joined from trimmed texts, none of them empty, is trimmed. -/
theorem isTrimmed_join {sep : Char} {p : Char → Bool} {parts : List (List Char)}
    (hTrimmed : ∀ part ∈ parts, part ≠ [] ∧ IsTrimmed p part) : IsTrimmed p (join sep parts) := by
  induction parts with
  | nil => exact ⟨by simp [join], by simp [join]⟩
  | cons part rest ih =>
      obtain ⟨hNe, hPart⟩ := hTrimmed part (by simp)
      cases rest with
      | nil => exact hPart
      | cons next more =>
          have hRest := ih fun other hOther => hTrimmed other (List.mem_cons_of_mem _ hOther)
          have hNext : join sep (next :: more) ≠ [] := by
            obtain ⟨hNextNe, -⟩ := hTrimmed next (by simp)
            cases more with
            | nil => exact hNextNe
            | cons => simp [join, hNextNe]
          rw [join_cons sep part (by simp)]
          constructor
          · intro c hFirst
            rw [List.head?_append_of_ne_nil _ hNe] at hFirst
            exact hPart.first c hFirst
          · intro c hLast
            rw [List.getLast?_append_of_ne_nil _ (by simp), List.getLast?_cons_of_ne_nil hNext]
              at hLast
            exact hRest.last c hLast

theorem trimWhile_cons {p : Char → Bool} {c : Char} (hFirst : p c = true) (cs : List Char) :
    trimWhile p (c :: cs) = trimWhile p cs := by
  simp [trimWhile, hFirst]

theorem split_dropEndWhile_subset (isSep : Char → Bool) (cs : List Char) :
    split isSep (dropEndWhile isSep cs) ⊆ split isSep cs := by
  induction cs using List.reverseRecOn with
  | nil => exact List.Subset.refl _
  | append_singleton more c ih =>
      rw [dropEndWhile_eq_rdropWhile] at ih ⊢
      by_cases hSep : isSep c = true
      · rw [List.rdropWhile_concat_pos _ _ _ hSep, split_append_sep _ _ _ c hSep]
        exact List.Subset.trans ih (List.subset_append_left _ _)
      · rw [List.rdropWhile_concat_neg _ _ _ hSep]
        exact List.Subset.refl _

/-- Trimming separators takes only empty pieces away. -/
theorem split_trimWhile_subset (isSep : Char → Bool) (cs : List Char) :
    split isSep (trimWhile isSep cs) ⊆ split isSep cs := by
  have hFront : split isSep (cs.dropWhile isSep) ⊆ split isSep cs := by
    induction cs with
    | nil => exact List.Subset.refl _
    | cons c rest ih =>
        by_cases hSep : isSep c = true
        · rw [List.dropWhile_cons_of_pos hSep, split, if_pos hSep]
          exact List.Subset.trans ih (List.subset_cons_self _ _)
        · rw [List.dropWhile_cons_of_neg hSep]
          exact List.Subset.refl _
  exact List.Subset.trans (split_dropEndWhile_subset isSep _) hFront

/-! ### What trimming takes away -/

/-- A trimmed text stands in the text between blanks. -/
theorem exists_eq_append_trimWhile (p : Char → Bool) (cs : List Char) :
    ∃ front back, cs = front ++ trimWhile p cs ++ back ∧ (∀ c ∈ front, p c = true) ∧
      ∀ c ∈ back, p c = true := by
  refine ⟨cs.takeWhile p, (cs.dropWhile p).rtakeWhile p, ?_, ?_, ?_⟩
  · rw [trimWhile, dropEndWhile_eq_rdropWhile, List.append_assoc,
      List.rdropWhile_append_rtakeWhile, List.takeWhile_append_dropWhile]
  · exact fun c hc => List.mem_takeWhile_imp hc
  · exact fun c hc => List.mem_rtakeWhile_imp hc

theorem trimWhile_append_left {p : Char → Bool} {front : List Char}
    (hFront : ∀ c ∈ front, p c = true) (cs : List Char) :
    trimWhile p (front ++ cs) = trimWhile p cs := by
  induction front with
  | nil => rfl
  | cons c rest ih =>
      rw [List.cons_append, trimWhile_cons (hFront c (by simp)),
        ih fun d hd => hFront d (by simp [hd])]

theorem trimWhile_append_singleton {p : Char → Bool} {c : Char} (hLast : p c = true)
    (cs : List Char) : trimWhile p (cs ++ [c]) = trimWhile p cs := by
  simp only [trimWhile, dropEndWhile_eq_rdropWhile, List.dropWhile_append]
  -- Where nothing but such characters stands in front, the last one goes with them.
  cases hDrop : cs.dropWhile p with
  | nil => simp [hLast]
  | cons d rest =>
      rw [List.isEmpty_cons, if_neg (by simp), List.rdropWhile_concat_pos _ _ _ hLast]

theorem trimWhile_append_right {p : Char → Bool} (cs : List Char) {back : List Char}
    (hBack : ∀ c ∈ back, p c = true) : trimWhile p (cs ++ back) = trimWhile p cs := by
  induction back using List.reverseRecOn with
  | nil => rw [List.append_nil]
  | append_singleton more c ih =>
      rw [← List.append_assoc, trimWhile_append_singleton (hBack c (by simp)),
        ih fun d hd => hBack d (by simp [hd])]

/-- Nothing is left of a text that is made of such characters. -/
theorem trimWhile_eq_nil_iff {p : Char → Bool} (cs : List Char) :
    trimWhile p cs = [] ↔ ∀ c ∈ cs, p c = true := by
  constructor
  · intro hTrim c hc
    obtain ⟨front, back, hCs, hFront, hBack⟩ := exists_eq_append_trimWhile p cs
    rw [hCs, hTrim, List.append_nil] at hc
    exact (List.mem_append.mp hc).elim (hFront c) (hBack c)
  · intro hAll
    have hTrim := trimWhile_append_left hAll []
    rwa [List.append_nil] at hTrim

theorem nonBlank?_ofList_append_singleton {c : Char} (hBlank : isBlank c = true)
    (cs : List Char) :
    nonBlank? (String.ofList (cs ++ [c])) = nonBlank? (String.ofList cs) := by
  simp only [nonBlank?, trim, trimBy, String.toList_ofList, trimWhile_append_singleton hBlank]

theorem nonBlank?_ofList_append_left {front : List Char} (hFront : ∀ c ∈ front, isBlank c = true)
    (cs : List Char) :
    nonBlank? (String.ofList (front ++ cs)) = nonBlank? (String.ofList cs) := by
  simp only [nonBlank?, trim, trimBy, String.toList_ofList, trimWhile_append_left hFront]

/-- The trimmed string stands in the string between blanks. -/
theorem exists_eq_append_of_nonBlank? {cs : List Char} {name : String}
    (hName : nonBlank? (String.ofList cs) = some name) :
    ∃ front back, cs = front ++ name.toList ++ back ∧ (∀ c ∈ front, isBlank c = true) ∧
      ∀ c ∈ back, isBlank c = true := by
  obtain ⟨rfl, -⟩ := (nonBlank?_eq_some_iff _ _).mp hName
  simpa [trim, trimBy] using exists_eq_append_trimWhile isBlank cs

theorem trim_eq_empty_iff (s : String) : trim s = "" ↔ ∀ c ∈ s.toList, isBlank c = true := by
  rw [← trimWhile_eq_nil_iff, ← String.toList_inj, trim, trimBy, String.toList_ofList,
    String.toList_empty]

theorem isBlank_of_nonBlank?_eq_none {cs : List Char}
    (hNone : nonBlank? (String.ofList cs) = none) : ∀ c ∈ cs, isBlank c = true := by
  rw [← String.toList_ofList (l := cs), ← trim_eq_empty_iff]
  by_contra hNe
  rw [(nonBlank?_eq_some_iff _ _).mpr ⟨rfl, hNe⟩] at hNone
  cases hNone

theorem trim_trim (s : String) : trim (trim s) = trim s := by
  simp only [trim, trimBy, String.toList_ofList,
    trimWhile_eq_self (isTrimmed_trimWhile isBlank s.toList)]

/-! ### Where the pieces stand -/

/-- A text holds no separator, or it has a first one. -/
theorem plain_or_exists_first_separator (isSep : Char → Bool) (cs : List Char) :
    (∀ c ∈ cs, isSep c = false) ∨
      ∃ front sep back, cs = front ++ sep :: back ∧ (∀ c ∈ front, isSep c = false) ∧
        isSep sep = true := by
  induction cs with
  | nil => exact Or.inl (by simp)
  | cons c rest ih =>
      cases hFirst : isSep c with
      | true => exact Or.inr ⟨[], c, rest, rfl, by simp, hFirst⟩
      | false =>
          rcases ih with hPlain | ⟨front, sep, back, rfl, hFront, hSep⟩
          · exact Or.inl (List.forall_mem_cons.mpr ⟨hFirst, hPlain⟩)
          · exact Or.inr
              ⟨c :: front, sep, back, rfl, List.forall_mem_cons.mpr ⟨hFirst, hFront⟩, hSep⟩

/-- A text holds no separator, or it has a last one. -/
theorem plain_or_exists_last_separator (isSep : Char → Bool) (cs : List Char) :
    (∀ c ∈ cs, isSep c = false) ∨
      ∃ front sep back, cs = front ++ sep :: back ∧ isSep sep = true ∧
        ∀ c ∈ back, isSep c = false := by
  -- It is the first one from the right.
  rcases plain_or_exists_first_separator isSep cs.reverse with
    hPlain | ⟨back, sep, front, hReverse, hBack, hSep⟩
  · exact Or.inl fun c hc => hPlain c (List.mem_reverse.mpr hc)
  · refine Or.inr ⟨front.reverse, sep, back.reverse, ?_, hSep, ?_⟩
    · rw [← List.reverse_reverse cs, hReverse]
      simp
    · exact fun c hc => hBack c (List.mem_reverse.mp hc)

/-- A text is taken apart from its end, by one separator after another. -/
@[elab_as_elim]
theorem last_separator_induction (isSep : Char → Bool) {P : List Char → Prop}
    (plain : ∀ cs, (∀ c ∈ cs, isSep c = false) → P cs)
    (separated : ∀ front sep back, isSep sep = true → (∀ c ∈ back, isSep c = false) → P front →
      P (front ++ sep :: back)) (cs : List Char) : P cs := by
  -- What stands before the last separator is shorter.
  induction hLength : cs.length using Nat.strong_induction_on generalizing cs with
  | _ length ih =>
      subst hLength
      rcases plain_or_exists_last_separator isSep cs with
        hPlain | ⟨front, sep, back, rfl, hSep, hBack⟩
      · exact plain cs hPlain
      · have hShorter : front.length < (front ++ sep :: back).length := by
          simp only [List.length_append, List.length_cons]
          omega
        exact separated front sep back hSep hBack (ih front.length hShorter front rfl)

/-- A piece stands in a text between separators or the ends of the text. -/
structure StandsBetween (isSep : Char → Bool) (before piece after : List Char) : Prop where
  plain : ∀ c ∈ piece, isSep c = false
  before : ∀ c ∈ before.getLast?, isSep c = true
  after : ∀ c ∈ after.head?, isSep c = true

theorem exists_standsBetween_of_mem_split {isSep : Char → Bool} {cs piece : List Char}
    (hPiece : piece ∈ split isSep cs) :
    ∃ before after, cs = before ++ piece ++ after ∧ StandsBetween isSep before piece after := by
  -- Each step goes on behind the first separator, where the text is shorter.
  induction hLength : cs.length using Nat.strong_induction_on generalizing cs with
  | _ length ih =>
      subst hLength
      rcases plain_or_exists_first_separator isSep cs with
        hPlain | ⟨front, sep, back, rfl, hFront, hSep⟩
      · rw [split_eq_singleton _ _ hPlain, List.mem_singleton] at hPiece
        subst hPiece
        exact ⟨[], [], by simp, hPlain, by simp, by simp⟩
      · rw [split_append_cons _ _ _ _ hFront hSep] at hPiece
        rcases List.mem_cons.mp hPiece with rfl | hBack
        · exact ⟨[], sep :: back, by simp, hFront, by simp, by simpa using hSep⟩
        · have hShorter : back.length < (front ++ sep :: back).length := by
            simp only [List.length_append, List.length_cons]
            omega
          obtain ⟨before, after, rfl, hBetween⟩ := ih back.length hShorter hBack rfl
          refine ⟨front ++ sep :: before, after, by simp, hBetween.plain, ?_, hBetween.after⟩
          intro c hLast
          rw [List.getLast?_append_of_ne_nil _ (List.cons_ne_nil _ _), List.getLast?_cons,
            Option.mem_some] at hLast
          subst hLast
          cases hBefore : before.getLast? with
          | none => exact hSep
          | some last => exact hBetween.before last hBefore

theorem StandsBetween.mem_split {isSep : Char → Bool} {before piece after : List Char}
    (hBetween : StandsBetween isSep before piece after) :
    piece ∈ split isSep (before ++ piece ++ after) := by
  have hHere : piece ∈ split isSep (piece ++ after) := by
    cases after with
    | nil =>
        rw [List.append_nil, split_eq_singleton _ _ hBetween.plain]
        exact List.mem_singleton_self _
    | cons sep rest =>
        rw [split_append_cons _ _ _ _ hBetween.plain (hBetween.after sep rfl)]
        exact List.mem_cons_self
  cases before using List.reverseRecOn with
  | nil => exact hHere
  | append_singleton front sep =>
      have hSep : isSep sep = true := hBetween.before sep (by simp)
      rw [List.append_assoc, List.append_assoc, List.singleton_append,
        split_append_sep _ _ _ _ hSep]
      exact List.mem_append_right _ hHere

/-! ### What stands between joined texts -/

section Joining

variable {sep : Char} {parts : List (List Char)}

theorem filter_join (hFree : ∀ part ∈ parts, sep ∉ part) :
    (join sep parts).filter (· ≠ sep) = parts.flatten := by
  have hKeep : ∀ part ∈ parts, part.filter (· ≠ sep) = part := by
    intro part hPart
    refine List.filter_eq_self.mpr fun c hc => decide_eq_true ?_
    rintro rfl
    exact hFree part hPart hc
  induction parts with
  | nil => rfl
  | cons part rest ih =>
      cases rest with
      | nil => simpa [join] using hKeep part (by simp)
      | cons next more =>
          have hRest := ih (fun p hp => hFree p (List.mem_cons_of_mem part hp))
            (fun p hp => hKeep p (List.mem_cons_of_mem part hp))
          rw [join_cons sep part (by simp), List.filter_append, hKeep part (by simp),
            List.filter_cons_of_neg (by simp), hRest]
          rfl

/-- Between joined parts that are not empty there is never more than one separator. -/
theorem not_infix_join (hParts : ∀ part ∈ parts, part ≠ [] ∧ sep ∉ part) :
    ¬ [sep, sep] <:+: join sep parts := by
  rintro ⟨front, back, hJoin⟩
  have hNe : parts ≠ [] := by
    rintro rfl
    simp [join] at hJoin
  have hBetween : StandsBetween (· == sep) (front ++ [sep]) [] (sep :: back) :=
    ⟨by simp, by simp, by simp⟩
  have hMem := hBetween.mem_split
  rw [show front ++ [sep] ++ [] ++ sep :: back = join sep parts by simp [← hJoin],
    split_join sep parts hNe fun part hPart => (hParts part hPart).2] at hMem
  exact (hParts [] hMem).1 rfl

theorem isTrimmed_of_not_mem {part : List Char} (hFree : sep ∉ part) :
    IsTrimmed (· == sep) part := by
  refine ⟨fun c hc => beq_false_of_ne ?_, fun c hc => beq_false_of_ne ?_⟩
  · rintro rfl
    exact hFree (List.mem_of_head? hc)
  · rintro rfl
    exact hFree (List.mem_of_getLast? hc)

theorem exists_join_append {others : List (List Char)} (hNe : others ≠ [])
    (hFree : ∀ part ∈ parts, sep ∉ part) :
    ∃ left, join sep (parts ++ others) = left ++ join sep others ∧
      left.filter (· ≠ sep) = parts.flatten := by
  by_cases hNil : parts = []
  · exact ⟨[], by simp [hNil], by simp [hNil]⟩
  · refine ⟨join sep parts ++ [sep], ?_, ?_⟩
    · rw [join_append sep hNil hNe]
      simp
    · rw [List.filter_append, filter_join hFree]
      simp

theorem exists_join_cons (part : List Char) (hFree : ∀ part ∈ parts, sep ∉ part) :
    ∃ right, join sep (part :: parts) = part ++ right ∧
      right.filter (· ≠ sep) = parts.flatten := by
  by_cases hNil : parts = []
  · exact ⟨[], by simp [hNil, join], by simp [hNil]⟩
  · refine ⟨sep :: join sep parts, join_cons sep part hNil, ?_⟩
    rw [List.filter_cons_of_neg (by simp), filter_join hFree]

theorem join_eq_nil_iff (hParts : ∀ part ∈ parts, part ≠ []) :
    join sep parts = [] ↔ parts = [] := by
  cases parts with
  | nil => simp [join]
  | cons part rest =>
      have hNe := hParts part (by simp)
      cases rest with
      | nil => simpa [join] using hNe
      | cons next more => simp [join]

end Joining

theorem split_congr {isSep other : Char → Bool} {cs : List Char}
    (hSame : ∀ c ∈ cs, isSep c = other c) : split isSep cs = split other cs := by
  induction cs with
  | nil => rfl
  | cons c rest ih =>
      rw [split, split, hSame c (by simp), ih fun d hd => hSame d (List.mem_cons_of_mem c hd)]

end Text
end Switchboard
