import Switchboard.Proofs.Route.Joining

/-!
# Slashes in joined paths

A joined path is told by the segments of its parts, one part after another.  A joined path that is
itself a part keeps its segments, so joining may be done in steps, and slashes at the ends of a part
say nothing.

A slash in the middle of a part is kept.  Two of them in a row leave an empty segment in the path
(`HasGap`); a path has no empty segments exactly if none of its parts has such a gap, and only then
is it made of the non-empty segments of its parts alone (`solidSegments`).
-/

namespace Switchboard
namespace Route

/-! ### Joining in steps -/

/-- A path that starts with one slash and ends with one only if it is nothing else. -/
structure IsRooted (path : String) : Prop where
  starts : ∃ rest, path.toList = '/' :: rest ∧ rest.head? ≠ some '/'
  ends : path.toList.getLast? = some '/' ↔ path = "/"

theorem isRooted_joined (parts : List String) : IsRooted (joined parts) := by
  have hTrimmed := isTrimmed_join_trimmedParts parts
  have hChars := toList_joined parts
  constructor
  · refine ⟨_, hChars, fun hSlash => ?_⟩
    simpa using hTrimmed.first '/' hSlash
  · constructor
    · intro hLast
      rw [hChars] at hLast
      cases hBody : Text.join '/' ((trimmedParts parts).map String.toList) with
      | nil =>
          rw [← String.toList_inj, hChars, hBody]
          rfl
      | cons c rest =>
          rw [hBody, List.getLast?_cons_cons, ← hBody] at hLast
          simpa using hTrimmed.last '/' hLast
    · intro hRoot
      rw [hRoot]
      rfl

/-! ### Slashes that say nothing -/

/-- A text of slashes only, or the empty text. -/
def slashes (count : Nat) : String :=
  String.ofList (List.replicate count '/')

/-- Parts with more slashes: some at the ends of parts, and some as parts of their own, where the
empty part is one without any slash. -/
inductive IsPadded : List String → List String → Prop
  | nil : IsPadded [] []
  | extra {padded parts : List String} (count : Nat) (hRest : IsPadded padded parts) :
      IsPadded (slashes count :: padded) parts
  | part {padded parts : List String} (front : Nat) (part : String) (back : Nat)
      (hRest : IsPadded padded parts) :
      IsPadded ((slashes front ++ part ++ slashes back) :: padded) (part :: parts)

theorem isSlash_of_mem_slashes {count : Nat} {c : Char} (hc : c ∈ (slashes count).toList) :
    (c == '/') = true := by
  rw [slashes, String.toList_ofList] at hc
  simp [List.eq_of_mem_replicate hc]

theorem trimBy_padded (front : Nat) (part : String) (back : Nat) :
    Text.trimBy (· == '/') (slashes front ++ part ++ slashes back) =
      Text.trimBy (· == '/') part := by
  rw [Text.trimBy, String.toList_append, String.toList_append,
    Text.trimWhile_append_right _ fun c hc => isSlash_of_mem_slashes hc,
    Text.trimWhile_append_left fun c hc => isSlash_of_mem_slashes hc]
  rfl

theorem bodySegments_slashes (count : Nat) : bodySegments [slashes count] = [] := by
  have hPadded : Text.trimBy (· == '/') (slashes count) = Text.trimBy (· == '/') "" := by
    simpa [slashes] using trimBy_padded count "" 0
  rw [bodySegments, trimmedParts, List.map_singleton, hPadded]
  decide

theorem bodySegments_padded (front : Nat) (part : String) (back : Nat) :
    bodySegments [slashes front ++ part ++ slashes back] = bodySegments [part] := by
  rw [bodySegments, trimmedParts, List.map_singleton, trimBy_padded]
  rfl

theorem IsPadded.bodySegments_eq {padded parts : List String} (hPadded : IsPadded padded parts) :
    bodySegments padded = bodySegments parts := by
  induction hPadded with
  | nil => rfl
  | extra count _ ih => rw [bodySegments_cons, bodySegments_slashes, List.nil_append, ih]
  | part front part back _ ih =>
      rw [bodySegments_cons, bodySegments_padded, ih, ← bodySegments_cons]

/-- **Joining may be done in steps.**  Parts that are joined in two groups and then together give the
path that they give at once, and a joined path is joined to itself.  More slashes at the ends of parts
or as parts of their own do not show.  The path starts with one slash, and it ends with a slash only
if it is nothing else. -/
theorem joining_composes (parts others : List String) :
    joined (parts ++ others) = joined [joined parts, joined others] ∧
      joined [joined parts] = joined parts ∧
      (∀ padded, IsPadded padded parts → joined padded = joined parts) ∧
      IsRooted (joined parts) := by
  refine ⟨?_, ?_, fun padded hPadded => ?_, isRooted_joined parts⟩
  · rw [joined_eq_iff, bodySegments_append, bodySegments_cons, bodySegments_joined,
      bodySegments_joined]
  · rw [joined_eq_iff, bodySegments_joined]
  · rw [joined_eq_iff, hPadded.bodySegments_eq]

/-- The prefix `/api/` and the empty parts around it do not change the path of the orders. -/
theorem sample_parts_are_padded :
    IsPadded ["", "/api/", "//", "orders/{id}/"] ["api", "orders/{id}"] ∧
      joined ["", "/api/", "//", "orders/{id}/"] = joined ["api", "orders/{id}"] := by
  have hPadded : IsPadded ["", "/api/", "//", "orders/{id}/"] ["api", "orders/{id}"] :=
    .extra 0 (.part 1 "api" 1 (.extra 2 (.part 0 "orders/{id}" 1 .nil)))
  exact ⟨hPadded, (joining_composes ["api", "orders/{id}"] []).2.2.1 _ hPadded⟩

/-! ### Gaps -/

/-- Two slashes in a row that do not stand at an end of the part: there is more than slashes on both
sides of them. -/
def HasGap (part : String) : Prop :=
  ∃ front back, part.toList = front ++ '/' :: '/' :: back ∧
    (∃ c ∈ front, c ≠ '/') ∧ ∃ c ∈ back, c ≠ '/'

/-- A path in normal form: it is one slash, or a slash stands in front of each of its segments and
none of them is empty. -/
structure IsNormal (path : String) : Prop where
  starts : path.toList.head? = some '/'
  ends : path = "/" ∨ path.toList.getLast? ≠ some '/'
  solid : path = "/" ∨ "" ∉ (segments path).tail

/-- What parts say if empty segments are ignored. -/
def solidSegments (parts : List String) : List String :=
  (parts.flatMap segments).filter (· ≠ "")

/-- A trimmed text has an empty piece where two separators stand in a row. -/
theorem nil_mem_split_iff {sep : Char} {cs : List Char} (hNe : cs ≠ [])
    (hTrimmed : Text.IsTrimmed (· == sep) cs) :
    [] ∈ Text.split (· == sep) cs ↔
      ∃ front back, cs = front ++ sep :: sep :: back ∧ front ≠ [] ∧ back ≠ [] := by
  constructor
  · intro hMem
    obtain ⟨before, after, hCs, hBetween⟩ := Text.exists_standsBetween_of_mem_split hMem
    rw [List.append_nil] at hCs
    -- Neither side is empty, for the other one would be the text and have a separator at its end.
    have hBefore : before ≠ [] := by
      rintro rfl
      rw [List.nil_append] at hCs
      obtain ⟨c, rest, rfl⟩ := List.exists_cons_of_ne_nil hNe
      have hSep := hBetween.after c (by simp [← hCs])
      rw [hTrimmed.first c rfl] at hSep
      exact nomatch hSep
    have hAfter : after ≠ [] := by
      rintro rfl
      rw [List.append_nil] at hCs
      have hLast := List.getLast?_eq_some_getLast hBefore
      have hSep := hBetween.before _ hLast
      rw [hTrimmed.last _ (hCs ▸ hLast)] at hSep
      exact nomatch hSep
    obtain ⟨front, c, rfl⟩ := (List.eq_nil_or_concat' before).resolve_left hBefore
    obtain ⟨d, back, rfl⟩ := List.exists_cons_of_ne_nil hAfter
    have hc : c = sep := by simpa using hBetween.before c (by simp)
    have hd : d = sep := by simpa using hBetween.after d rfl
    subst hc hd
    refine ⟨front, back, by simpa using hCs, ?_, ?_⟩
    · rintro rfl
      simpa using hTrimmed.first d (by simp [hCs])
    · rintro rfl
      simpa using hTrimmed.last d (by simp [hCs])
  · rintro ⟨front, back, rfl, -, -⟩
    have hBetween : Text.StandsBetween (· == sep) (front ++ [sep]) [] (sep :: back) :=
      ⟨by simp, by simp, by simp⟩
    simpa using hBetween.mem_split

theorem dropWhile_append_of_exists {p : Char → Bool} {front : List Char}
    (hFront : ∃ c ∈ front, p c = false) (cs : List Char) :
    (front ++ cs).dropWhile p = front.dropWhile p ++ cs ∧ front.dropWhile p ≠ [] := by
  have hNe : front.dropWhile p ≠ [] := by
    obtain ⟨c, hc, hNot⟩ := hFront
    intro hNil
    rw [List.dropWhile_eq_nil_iff.mp hNil c hc] at hNot
    exact nomatch hNot
  exact ⟨by rw [List.dropWhile_append, if_neg (by simpa using hNe)], hNe⟩

/-- Trimming keeps what stands between characters of another kind. -/
theorem exists_trimWhile_eq {p : Char → Bool} {front back : List Char}
    (hFront : ∃ c ∈ front, p c = false) (hBack : ∃ c ∈ back, p c = false) (middle : List Char) :
    ∃ first last, Text.trimWhile p (front ++ middle ++ back) = first ++ middle ++ last ∧
      first ≠ [] ∧ last ≠ [] := by
  obtain ⟨hDrop, hFirst⟩ := dropWhile_append_of_exists hFront (middle ++ back)
  have hReverse : ∃ c ∈ back.reverse, p c = false := by simpa using hBack
  obtain ⟨hDropEnd, hLast⟩ :=
    dropWhile_append_of_exists hReverse (front.dropWhile p ++ middle).reverse
  refine ⟨front.dropWhile p, (back.reverse.dropWhile p).reverse, ?_, hFirst, by simpa using hLast⟩
  rw [Text.trimWhile, List.append_assoc, hDrop, ← List.append_assoc, Text.dropEndWhile,
    List.reverse_append, hDropEnd, List.reverse_append, List.reverse_reverse]

theorem bodySegments_singleton (part : String) :
    bodySegments [part] = if Text.trimWhile (· == '/') part.toList = [] then []
      else (Text.split (· == '/') (Text.trimWhile (· == '/') part.toList)).map String.ofList := by
  split_ifs with hNil
  · simp [bodySegments, trimmedParts, Text.trimBy, hNil]
  · simp [bodySegments, trimmedParts, Text.trimBy, hNil, segments, Text.pieces]

theorem empty_mem_bodySegments_singleton_iff (part : String) :
    "" ∈ bodySegments [part] ↔ HasGap part := by
  have hTrimmed := Text.isTrimmed_trimWhile (· == '/') part.toList
  by_cases hNil : Text.trimWhile (· == '/') part.toList = []
  · -- A part that vanishes is made of slashes, so it has no gap either.
    rw [bodySegments_singleton, if_pos hNil]
    refine ⟨nofun, ?_⟩
    rintro ⟨front, back, hPart, ⟨c, hc, hFront⟩, ⟨d, hd, hBack⟩⟩
    obtain ⟨first, last, hTrim, hFirst, -⟩ := exists_trimWhile_eq (p := (· == '/'))
      ⟨c, hc, by simpa using hFront⟩ ⟨d, hd, by simpa using hBack⟩ ['/', '/']
    rw [show front ++ ['/', '/'] ++ back = part.toList by simp [hPart], hNil] at hTrim
    simp at hTrim
  · have hMem : "" ∈ bodySegments [part] ↔
        [] ∈ Text.split (· == '/') (Text.trimWhile (· == '/') part.toList) := by
      rw [bodySegments_singleton, if_neg hNil, List.mem_map]
      simp
    rw [hMem, nil_mem_split_iff hNil hTrimmed]
    constructor
    · rintro ⟨front, back, hTrim, hFront, hBack⟩
      obtain ⟨left, right, hPart, -, -⟩ :=
        Text.exists_eq_append_trimWhile (· == '/') part.toList
      rw [hTrim] at hPart hTrimmed
      obtain ⟨c, rest, rfl⟩ := List.exists_cons_of_ne_nil hFront
      have hLast := List.getLast?_eq_some_getLast hBack
      refine ⟨left ++ c :: rest, back ++ right, by simp [hPart], ⟨c, by simp, ?_⟩,
        ⟨back.getLast hBack, by simp, ?_⟩⟩
      · simpa using hTrimmed.first c rfl
      · simpa using hTrimmed.last (back.getLast hBack) (by
          rw [List.getLast?_append_of_ne_nil _ (by simp)]
          simp [List.getLast?_cons, hLast])
    · rintro ⟨front, back, hPart, ⟨c, hc, hFront⟩, ⟨d, hd, hBack⟩⟩
      obtain ⟨first, last, hTrim, hFirst, hLast⟩ := exists_trimWhile_eq (p := (· == '/'))
        ⟨c, hc, by simpa using hFront⟩ ⟨d, hd, by simpa using hBack⟩ ['/', '/']
      rw [show front ++ ['/', '/'] ++ back = part.toList by simp [hPart]] at hTrim
      exact ⟨first, last, by simpa using hTrim, hFirst, hLast⟩

instance (part : String) : Decidable (HasGap part) :=
  decidable_of_iff ("" ∈ bodySegments [part]) (empty_mem_bodySegments_singleton_iff part)

theorem empty_mem_bodySegments_iff (parts : List String) :
    "" ∈ bodySegments parts ↔ ∃ part ∈ parts, HasGap part := by
  induction parts with
  | nil => simp [bodySegments, trimmedParts]
  | cons part parts ih =>
      rw [bodySegments_cons, List.mem_append, empty_mem_bodySegments_singleton_iff, ih]
      simp

/-- A joined path is in normal form exactly if none of its parts has a gap. -/
theorem isNormal_joined_iff (parts : List String) :
    IsNormal (joined parts) ↔ ∀ part ∈ parts, ¬ HasGap part := by
  have hRooted := isRooted_joined parts
  have hNone : (∀ part ∈ parts, ¬ HasGap part) ↔ "" ∉ bodySegments parts := by
    rw [empty_mem_bodySegments_iff]
    simp
  rw [hNone]
  by_cases hNil : bodySegments parts = []
  · have hRoot : joined parts = "/" := by
      rw [joined_eq_glue, hNil]
      decide
    rw [hNil, hRoot]
    exact ⟨fun _ => by simp, fun _ => ⟨rfl, Or.inl rfl, Or.inl rfl⟩⟩
  · have hTail : (segments (joined parts)).tail = bodySegments parts := by
      rw [segments_joined, List.tail_cons, rooted, if_neg hNil]
    have hNe : joined parts ≠ "/" := by
      intro hRoot
      rw [hRoot, show (segments "/").tail = [""] by decide] at hTail
      exact head?_bodySegments_ne parts (by rw [← hTail]; rfl)
    constructor
    · intro hNormal
      rw [← hTail]
      exact hNormal.solid.resolve_left hNe
    · intro hSolid
      obtain ⟨rest, hStarts, -⟩ := hRooted.starts
      exact ⟨by rw [hStarts]; rfl, Or.inr (mt hRooted.ends.mp hNe), Or.inr (hTail.symm ▸ hSolid)⟩

/-! ### What is left without empty segments -/

theorem filter_split_of_forall {isSep : Char → Bool} {front : List Char}
    (hFront : ∀ c ∈ front, isSep c = true) (cs : List Char) :
    (Text.split isSep (front ++ cs)).filter (· ≠ []) = (Text.split isSep cs).filter (· ≠ []) := by
  induction front with
  | nil => rfl
  | cons c rest ih =>
      rw [List.cons_append, Text.split, if_pos (hFront c (by simp)),
        List.filter_cons_of_neg (by simp), ih fun d hd => hFront d (by simp [hd])]

/-- Trimming takes no piece away that is not empty. -/
theorem filter_split_trimWhile (isSep : Char → Bool) (cs : List Char) :
    (Text.split isSep (Text.trimWhile isSep cs)).filter (· ≠ []) =
      (Text.split isSep cs).filter (· ≠ []) := by
  obtain ⟨front, back, hCs, hFront, hBack⟩ := Text.exists_eq_append_trimWhile isSep cs
  generalize Text.trimWhile isSep cs = middle at hCs ⊢
  subst hCs
  rw [List.append_assoc, filter_split_of_forall hFront]
  cases back with
  | nil => rw [List.append_nil]
  | cons sep rest =>
      have hRest := filter_split_of_forall (fun c hc => hBack c (List.mem_cons_of_mem sep hc)) []
      rw [List.append_nil] at hRest
      rw [Text.split_append_sep _ _ _ _ (hBack sep (by simp)), List.filter_append, hRest]
      simp [Text.split]

theorem filter_map_ofList (pieces : List (List Char)) :
    (pieces.map String.ofList).filter (· ≠ "") = (pieces.filter (· ≠ [])).map String.ofList := by
  rw [List.filter_map]
  simp [Function.comp_def]

theorem filter_bodySegments (parts : List String) :
    (bodySegments parts).filter (· ≠ "") = solidSegments parts := by
  induction parts with
  | nil => rfl
  | cons part parts ih =>
      have hPart : (bodySegments [part]).filter (· ≠ "") = (segments part).filter (· ≠ "") := by
        rw [segments, Text.pieces, filter_map_ofList, ← filter_split_trimWhile,
          bodySegments_singleton]
        split_ifs with hNil
        · simp [hNil, Text.split]
        · exact filter_map_ofList _
      rw [bodySegments_cons, List.filter_append, hPart, ih, solidSegments, solidSegments,
        List.flatMap_cons, List.filter_append]

/-- Parts without gaps are joined to one path exactly if they say the same, empty segments aside. -/
theorem joined_eq_iff_of_no_gap {parts others : List String}
    (hParts : ∀ part ∈ parts, ¬ HasGap part) (hOthers : ∀ part ∈ others, ¬ HasGap part) :
    joined parts = joined others ↔ solidSegments parts = solidSegments others := by
  have hSolid : ∀ {parts : List String}, (∀ part ∈ parts, ¬ HasGap part) →
      bodySegments parts = solidSegments parts := by
    intro parts hNone
    rw [← filter_bodySegments, List.filter_eq_self.mpr]
    intro segment hSegment
    have hNotEmpty : segment ≠ "" := by
      rintro rfl
      obtain ⟨part, hPart, hGap⟩ := (empty_mem_bodySegments_iff parts).mp hSegment
      exact hNone part hPart hGap
    simpa using hNotEmpty
  rw [joined_eq_iff, hSolid hParts, hSolid hOthers]

end Route
end Switchboard
